/-
  Unix/Iface.lean --- the interface of a started device: its name, its hardware
  address and its status.

  Source: src/lib/tapcfg_unix.c, lines 285-399, and the functions
  `tapcfg_iface_prepare_ipv6` and `tapcfg_hwaddr_ioctl` of the backends.

  `struct tapcfg_s` keeps the hardware address that was read when the device was
  started; nothing reads it again.  What the BSDs define is chosen when the
  library is built, and is a parameter.
-/
import TapCfg.Unix.Device

set_option autoImplicit false

namespace TapCfg.Unix

open TapCfg.Foundation
open Prog

/-- `TAPCFG_STATUS_IPV4_UP` -/
def statusIpv4Up : Nat := 0x0001

/-- `TAPCFG_STATUS_IPV6_UP` -/
def statusIpv6Up : Nat := 0x0010

/-- `TAPCFG_STATUS_IPV6_RADV` -/
def statusIpv6Radv : Nat := 0x0020

/-- `TAPCFG_STATUS_IPV6_ALL` -/
def statusIpv6All : Nat := 0x00f0

def iffUp : Nat := 0x1

def iffRunning : Nat := 0x40

/-- What the headers of a BSD define. -/
structure BsdDefines where
  /-- `SIOCSIFLLADDR` -/
  siocsiflladdr : Bool
  /-- `SIOCSIFPHYADDR` -/
  siocsifphyaddr : Bool
  /-- `IPV6CTL_AUTO_LINKLOCAL` -/
  autoLinklocal : Bool
  /-- `SIOCPROTOATTACH_IN6` and `SIOCLL_START` -/
  protoattach : Bool
  /-- `IPV6CTL_FORWARDING` and `IPV6CTL_ACCEPT_RTADV` -/
  acceptRtadv : Bool
  deriving DecidableEq, Repr

/-! ## The name and the address -/

/-- `tapcfg_get_ifname` -/
def tapcfgGetIfname (cfg : Tapcfg) : Option CStr :=
  if cfg.started then some cfg.ifname else none

/-- `tapcfg_iface_get_hwaddr`, with the length it stores. -/
def tapcfgIfaceGetHwaddr (cfg : Tapcfg) : Option (List Byte × Nat) :=
  if cfg.started then some (cfg.hwaddr, hwaddrlen) else none

/-- `tapcfg_hwaddr_ioctl` on Linux -/
def Linux.tapcfgHwaddrIoctl (hwaddr : List Byte) : Io Int := do
  let w ← load
  let reply ← ioctl w.cfg.ctrlFd
    (.siocsifhwaddr { name := w.cfg.ifname, hwaddr := hwaddr.take hwaddrlen })
  return reply.ret

/-- `tapcfg_hwaddr_ioctl` on the BSDs -/
def Bsd.tapcfgHwaddrIoctl (defines : BsdDefines) (hwaddr : List Byte) : Io Int := do
  let w ← load
  let ifr : Ifreq := { name := w.cfg.ifname, hwaddr := hwaddr.take hwaddrlen }
  if defines.siocsiflladdr then
    -- SIOCSIFLLADDR used in FreeBSD and OSX
    let reply ← ioctl w.cfg.ctrlFd (.siocsiflladdr ifr)
    return reply.ret
  else if defines.siocsifphyaddr then
    -- SIOCSIFPHYADDR used in NetBSD
    let reply ← ioctl w.cfg.ctrlFd (.siocsifphyaddr ifr)
    return reply.ret
  else return -1

/-- `tapcfg_hwaddr_ioctl` on Solaris -/
def Solaris.tapcfgHwaddrIoctl (hwaddr : List Byte) : Io Int := do
  let w ← load
  let ret ← dlpiSetPhysaddr w.cfg.tapFd (hwaddr.take hwaddrlen)
  if ret < 0 then return -1
  return 0

def tapcfgHwaddrIoctl : Backend → BsdDefines → List Byte → Io Int
  | .linux, _ => Linux.tapcfgHwaddrIoctl
  | .bsd, defines => Bsd.tapcfgHwaddrIoctl defines
  | .netbsd, defines => Bsd.tapcfgHwaddrIoctl defines
  | .solaris, _ => Solaris.tapcfgHwaddrIoctl

/-- `tapcfg_iface_set_hwaddr` -/
def tapcfgIfaceSetHwaddr (b : Backend) (defines : BsdDefines) (hwaddr : List Byte)
    (length : Int) : Io Int := do
  let w ← load
  if w.cfg.started = false ∨ w.cfg.status ≠ 0 then return -1
  if length ≠ hwaddrlen then return -1
  let ret ← tapcfgHwaddrIoctl b defines hwaddr
  if ret = -1 then return -1
  modify fun cfg => { cfg with hwaddr := hwaddr.take hwaddrlen }
  return 0

/-! ## The status -/

/-- Do it when the condition holds. -/
def onlyIf (c : Prop) [Decidable c] (p : Io Unit) : Io Unit := if c then p else .ret ()

/-- `tapcfg_attach_ipv6` -/
def Bsd.tapcfgAttachIpv6 (defines : BsdDefines) (ifname : CStr) : Io Int :=
  if defines.protoattach then do
    let s ← socket .inet6
    if s < 0 then return -1
    -- Attach IPv6 protocol to the interface
    let err ← ioctl s (.siocprotoattachIn6 (ifname.take ifnamsiz))
    if err.ret ≠ 0 then return -1
    -- Start acquiring linklocal address on the interface
    let err ← ioctl s (.siocllStart (ifname.take ifnamsiz))
    if err.ret ≠ 0 then return -1
    close s
    return 0
  else return 0

/-- Set a variable that has another value. -/
def Bsd.adjustInet6 (code : Inet6Code) (value newval : Int) : Io Unit := do
  let current ← getinet6sysctl code
  onlyIf (current = value) do let _ ← setinet6sysctl code newval

/-- `tapcfg_iface_prepare_ipv6` on the BSDs -/
def Bsd.tapcfgIfacePrepareIpv6 (defines : BsdDefines) (flags : Nat) : Io Unit := do
  -- Do nothing if IPv6 is not enabled
  if flags &&& statusIpv6Up = 0 then return ()
  onlyIf (defines.autoLinklocal = true) (Bsd.adjustInet6 .autoLinklocal 0 1)
  let w ← load
  let _ ← Bsd.tapcfgAttachIpv6 defines w.cfg.ifname
  -- Return if route advertisements are not requested
  if flags &&& statusIpv6Radv = 0 then return ()
  onlyIf (defines.acceptRtadv = true) do
    Bsd.adjustInet6 .forwarding 1 0
    Bsd.adjustInet6 .acceptRtadv 0 1

/-- `tapcfg_iface_prepare_ipv6` on Solaris -/
def Solaris.tapcfgIfacePrepareIpv6 (flags : Nat) : Io Unit := do
  let ctrlFd ← socket .inet6
  if ctrlFd < 0 then return ()
  let w ← load
  let got ← ioctl ctrlFd (.siocglifflags { name := w.cfg.ifname })
  if got.ret = -1 then
    close ctrlFd
    return ()
  let lifr := { got.lifr with
    flags :=
      if flags &&& statusIpv6Up ≠ 0 then got.lifr.flags ||| iffUp
      else got.lifr.flags &&& (0xffffffffffffffff ^^^ iffUp) }
  let _ ← ioctl ctrlFd (.siocslifflags lifr)
  close ctrlFd

def tapcfgIfacePrepareIpv6 : Backend → BsdDefines → Nat → Io Unit
  | .linux, _ => fun _ => return ()
  | .bsd, defines => Bsd.tapcfgIfacePrepareIpv6 defines
  | .netbsd, defines => Bsd.tapcfgIfacePrepareIpv6 defines
  | .solaris, _ => Solaris.tapcfgIfacePrepareIpv6

/-- The `ifr_flags` that a status asks for. -/
def upFlags (b : Backend) (flags ifrFlags : Nat) : Nat :=
  if b = .solaris then
    -- On Solaris enabling IPv6 doesn't require enabling IPv4,
    -- also the IFF_RUNNING flag doesn't need to be set
    if flags &&& statusIpv4Up ≠ 0 then ifrFlags ||| iffUp
    else ifrFlags &&& (0xffff ^^^ iffUp)
  else if flags ≠ 0 then ifrFlags ||| (iffUp ||| iffRunning)
  else ifrFlags &&& (0xffff ^^^ (iffUp ||| iffRunning))

/-- `tapcfg_iface_set_status`; the bits of the `int` it is given are `flags`. -/
def tapcfgIfaceSetStatus (b : Backend) (defines : BsdDefines) (flags : Nat) : Io Int := do
  let w ← load
  -- No need for change, this is ok
  if w.cfg.started = false ∨ flags = w.cfg.status then return 0
  onlyIf ((flags ^^^ w.cfg.status) &&& statusIpv6All ≠ 0) (tapcfgIfacePrepareIpv6 b defines flags)
  let got ← ioctl w.cfg.ctrlFd (.siocgifflags { name := w.cfg.ifname })
  if got.ret = -1 then return -1
  let set ← ioctl w.cfg.ctrlFd
    (.siocsifflags { got.ifr with flags := upFlags b flags got.ifr.flags })
  if set.ret = -1 then return -1
  modify fun cfg => { cfg with status := flags }
  return 0

end TapCfg.Unix
