/-
  Windows/Iface.lean --- the interface of a started device on Windows: its name,
  its addresses, its status and its options.

  Source: src/lib/tapcfg_windows.c, lines 229-233 and 402-685.

  All of it is asked of the driver, by `DeviceIoControl`; the object keeps the
  status alone.  The driver answers for a DHCP server of its own, to which the
  library gives the last address of the network before the broadcast address.
  `getaddrinfo` for IPv6, and `_open_osfhandle`, are the system's, and parameters.
-/
import TapCfg.Foundation.Inet
import TapCfg.Windows.Device
import TapCfg.Windows.Writing

set_option autoImplicit false

namespace TapCfg.Windows

open TapCfg.Foundation
open Prog hiding ret

/-! ## Requests to the driver -/

/-- A `DeviceIoControl`. -/
inductive TapCall where
  | setMediaStatus (h : Int) (status : Nat)
  | getMtu (h : Int)
  /-- four words in network byte order, but for the last -/
  | configDhcpMasq (h : Int) (buffer : List (BitVec 32))
  /-- an address, and three words -/
  | configDhcpv6Masq (h : Int) (addr : List Byte) (buffer : List (BitVec 32))
  | configDhcpSetOpt (h : Int) (buffer : List Byte) (buflen : Nat)
  | configDhcpv6SetOpt (h : Int) (buffer : List Byte) (buflen : Nat)
  deriving DecidableEq, Repr

/-- Whether it succeeds; and the MTU. -/
def TapCall.Ans : TapCall → Type
  | .getMtu _ => Option Nat
  | _ => Bool

/-- The driver: it may answer anything, and leaves the object. -/
def tapEnv : Env Tapcfg TapCall TapCall.Ans := fun cfg _ _ cfg' => cfg' = cfg

abbrev TapIo (α : Type) : Type := Prog Tapcfg TapCall TapCall.Ans Empty α

def setMediaStatus (h : Int) (status : Nat) : TapIo Bool := .call (.setMediaStatus h status) .ret

def getMtu (h : Int) : TapIo (Option Nat) := .call (.getMtu h) .ret

def configDhcpMasq (h : Int) (buffer : List (BitVec 32)) : TapIo Bool :=
  .call (.configDhcpMasq h buffer) .ret

def configDhcpv6Masq (h : Int) (addr : List Byte) (buffer : List (BitVec 32)) : TapIo Bool :=
  .call (.configDhcpv6Masq h addr buffer) .ret

def configDhcpSetOpt (h : Int) (buffer : List Byte) (buflen : Nat) : TapIo Bool :=
  .call (.configDhcpSetOpt h buffer buflen) .ret

def configDhcpv6SetOpt (h : Int) (buffer : List Byte) (buflen : Nat) : TapIo Bool :=
  .call (.configDhcpv6SetOpt h buffer buflen) .ret

/-! ## The program -/

/-- `tapcfg_get_fd` -/
def tapcfgGetFd (osfhandle : Int → Int) (cfg : Tapcfg) : Int := osfhandle cfg.devHandle

/-- `tapcfg_get_ifname` -/
def tapcfgGetIfname (cfg : Tapcfg) : Option Str :=
  if cfg.started then cfg.ifname else none

/-- `tapcfg_iface_get_hwaddr`, with the length it stores. -/
def tapcfgIfaceGetHwaddr (cfg : Tapcfg) : Option (List Byte × Nat) :=
  if cfg.started then some (cfg.hwaddr, 6) else none

/-- `tapcfg_iface_set_hwaddr`, which no driver supports. -/
def tapcfgIfaceSetHwaddr (_hwaddr : List Byte) (length : Int) : TapIo Int := do
  let cfg ← load
  if cfg.started = false ∨ cfg.status ≠ 0 then return -1
  if length ≠ 6 then return -1
  return -1

/-- `tapcfg_iface_set_status` -/
def tapcfgIfaceSetStatus (flags : Int) : TapIo Int := do
  let cfg ← load
  if cfg.started = false then return -1
  -- Already enabled, nothing required
  if flags = cfg.status then return 0
  let done ← setMediaStatus cfg.devHandle (toDword flags)
  if done = false then return -1
  update fun cfg => .ok { cfg with status := flags }
  return 0

/-- `tapcfg_iface_get_mtu` -/
def tapcfgIfaceGetMtu : TapIo Int := do
  let cfg ← load
  if cfg.started = false then return 0
  let mtu ← getMtu cfg.devHandle
  match mtu with
  | none => return -1
  | some mtu => return toInt mtu

/-- `tapcfg_iface_set_mtu`, which no driver supports. -/
def tapcfgIfaceSetMtu (mtu : Int) : TapIo Int := do
  let cfg ← load
  if cfg.started = false then return 0
  if mtu < 68 ∨ (tapcfgBufsize : Int) - 22 < mtu then return -1
  return -1

/-- `INADDR_NONE` -/
def inaddrNone : BitVec 32 := 0xffffffff

/-- `inet_addr` -/
def inetAddr (order : Endian) (addrstr : CStr) : BitVec 32 :=
  ((dottedAddress addrstr).map (htonl order)).getD inaddrNone

/-- The buffer of `TAP_IOCTL_CONFIG_DHCP_MASQ`: the address, the netmask, the address of the
server and the time of the lease. -/
def masqBuffer (order : Endian) (addr mask : BitVec 32) : List (BitVec 32) :=
  [addr, htonl order mask, htonl order (htonl order (addr ||| ~~~htonl order mask) - 1), 3600]

/-- `tapcfg_iface_set_ipv4` -/
def tapcfgIfaceSetIpv4 (order : Endian) (addrstr : CStr) (netbits : Byte) : TapIo Int := do
  let cfg ← load
  if cfg.started = false then return 0
  if netbits = 0 ∨ 32 < netbits then return -1
  -- Calculate the netmask from the network bit length
  let mask := shiftMask netbits.toNat 0
  -- Check that the given IPv4 address is valid
  let addr := inetAddr order addrstr
  if addr = inaddrNone ∨ addr = 0 then return -1
  let done ← configDhcpMasq cfg.devHandle (masqBuffer order addr mask)
  if done = false then return -1
  return 0

/-- `tapcfg_iface_set_ipv6`, which is left out without `HAVE_GETADDRINFO`. -/
def tapcfgIfaceSetIpv6 (haveGetaddrinfo : Bool) (getaddrinfo : CStr → Option (List Byte))
    (addrstr : CStr) (netbits : Byte) : TapIo Int :=
  if haveGetaddrinfo then do
    let cfg ← load
    if cfg.started = false then return 0
    if netbits = 0 ∨ 128 < netbits then return -1
    -- Check that the given IPv6 address is valid
    match getaddrinfo addrstr with
    | none => return -1
    | some addr =>
        let done ← configDhcpv6Masq cfg.devHandle addr
          [BitVec.ofNat 32 netbits.toNat, 0, 3600]
        if done = false then return -1
        return 0
  else return -1

/-- `tapcfg_iface_set_dhcp_options` -/
def tapcfgIfaceSetDhcpOptions (buffer : List Byte) (buflen : Int) : TapIo Int := do
  let cfg ← load
  if cfg.started = false then return 0
  let done ← configDhcpSetOpt cfg.devHandle buffer (toDword buflen)
  if done = false then return -1
  return 0

/-- `tapcfg_iface_set_dhcpv6_options` -/
def tapcfgIfaceSetDhcpv6Options (buffer : List Byte) (buflen : Int) : TapIo Int := do
  let cfg ← load
  if cfg.started = false then return 0
  let done ← configDhcpv6SetOpt cfg.devHandle buffer (toDword buflen)
  if done = false then return -1
  return 0

/-! ## What is asked of the driver -/

/-- The server has the last address of the network before the broadcast address. -/
theorem masqBuffer_server (order : Endian) (addr mask : BitVec 32) :
    masqBuffer order (htonl order addr) mask =
      [htonl order addr, htonl order mask, htonl order ((addr ||| ~~~mask) - 1), 3600] := by
  have hlast : htonl order (htonl order addr ||| ~~~htonl order mask) = addr ||| ~~~mask := by
    rw [htonl_or, htonl_not, htonl_htonl, htonl_htonl]
  rw [masqBuffer, hlast]

example : masqBuffer .little (htonl .little 0xc0a80001) (netmask 24) =
    [0x0100a8c0, 0x00ffffff, 0xfe00a8c0, 3600] := by decide

section

variable {F : Empty → Tapcfg → Prop} {cfg : Tapcfg}

/-- The rule for a request. -/
theorem sat_tapCall {c : TapCall} {Q : c.Ans → Tapcfg → Prop} (hQ : ∀ a, Q a cfg) :
    Sat tapEnv (fun _ => True) Q F (.call c .ret) cfg := by
  refine ⟨trivial, ?_⟩
  rintro a cfg' rfl
  exact ⟨trivial, hQ a⟩

/-- The object keeps the status the driver has accepted. -/
theorem sat_tapcfgIfaceSetStatus (flags : Int) :
    Sat tapEnv (fun _ => True)
      (fun r cfg' => (r < 0 ∧ cfg' = cfg) ∨ (r = 0 ∧ cfg' = { cfg with status := flags })) F
      (tapcfgIfaceSetStatus flags) cfg := by
  unfold tapcfgIfaceSetStatus
  refine sat_bind (sat_load trivial ?_)
  split
  · exact sat_ret trivial (.inl ⟨by decide, rfl⟩)
  split
  · exact sat_ret trivial (.inr ⟨rfl, by rw [‹flags = cfg.status›]⟩)
  refine sat_bind (sat_tapCall fun (done : Bool) => ?_)
  split
  · exact sat_ret trivial (.inl ⟨by decide, rfl⟩)
  · exact sat_bind (sat_update rfl trivial trivial (sat_ret trivial (.inr ⟨rfl, rfl⟩)))

end

end TapCfg.Windows
