/-
  TapWin32/Ioctl.lean --- the requests a program makes of the Windows driver.

  Source: drivers/windows/tap-win32/tapdrvr.c, lines 1907-2217, 2360-2490 and
  2800-2840.

  `ioctl` is the part of `TapDeviceHook` for `IRP_MJ_DEVICE_CONTROL`, `write` the
  one for `IRP_MJ_WRITE`.  The input of a request is as long as
  `InputBufferLength` says.
-/
import TapCfg.TapWin32.Types

set_option autoImplicit false

namespace TapCfg.TapWin32

open TapCfg.Foundation
open TapCfg.Foundation.Layout (htons u8 u16 u32 array)

/-- `NTSTATUS` -/
inductive Status where
  | success
  | pending
  | unsuccessful
  | invalidParameter
  | insufficientResources
  | bufferTooSmall
  | bufferOverflow
  | noSuchDevice
  | cancelled
  deriving DecidableEq, Repr

/-- `IoStatus`, and the bytes that go back to the program. -/
structure IoStatus where
  status : Status
  information : Nat := 0
  output : List Byte := []
  deriving DecidableEq, Repr

/-! ## The adapter's configuration -/

/-- `SetMediaStatus`; a `BOOLEAN` is a byte. -/
def setMediaStatus (a : TapAdapter) (state : Byte) : TapAdapter :=
  if a.mediaState ≠ state ∧ a.mediaStateAlwaysConnected = false then
    { a with mediaState := state }
  else a

/-- `CheckIfDhcpAndTunMode` -/
def checkIfDhcpAndTunMode (a : TapAdapter) : TapAdapter :=
  if a.tun = true ∧ a.dhcpEnabled = true ∧
      a.dhcpServerIp &&& a.remoteNetmask = a.remoteNetwork then
    { a with dhcpServerMac := a.tapToUser.dest, dhcpServerArp := false }
  else a

/-- What `TAP_IOCTL_CONFIG_TUN` and `TAP_IOCTL_CONFIG_POINT_TO_POINT` do when the network is
sane: the headers between the adapter and the program. -/
def enterTun (a : TapAdapter) : TapAdapter :=
  let dest := generateRelatedMac a.mac 1
  let userToTap : EthHeader := { src := dest, dest := a.mac, proto := htons ethPIp }
  checkIfDhcpAndTunMode
    { a with
      tapToUser := { src := a.mac, dest := dest, proto := htons ethPIp }
      userToTap := userToTap
      userToTapIpv6 := { userToTap with proto := htons ethPIpv6 }
      tun := true }

/-- The words of a request. -/
def inputWord (input : List Byte) (i : Nat) : BitVec 32 := (u32.read (input.drop (4 * i))).getD 0

/-- A request, with its input or with the length of its output buffer. -/
inductive Ioctl where
  | getMac (outputLength : Nat)
  | getVersion (outputLength : Nat)
  | getMtu (outputLength : Nat)
  | configTun (input : List Byte)
  | configPointToPoint (input : List Byte)
  | setMediaStatus (input : List Byte)
  | configDhcpMasq (input : List Byte)
  | configDhcpSetOpt (input : List Byte)
  | other
  deriving DecidableEq, Repr

/-- `TAP_IOCTL_CONFIG_TUN` -/
def ioctlConfigTun (a : TapAdapter) (input : List Byte) : TapAdapter × IoStatus :=
  if 12 ≤ input.length then
    let a := { a with
      tun := false, localIP := inputWord input 0, remoteNetwork := inputWord input 1,
      remoteNetmask := inputWord input 2 }
    -- sanity check on network/netmask
    if a.remoteNetwork &&& a.remoteNetmask ≠ a.remoteNetwork then (a, ⟨.invalidParameter, 0, []⟩)
    else (enterTun a, ⟨.success, 1, []⟩)
  else (a, ⟨.invalidParameter, 0, []⟩)

/-- `TAP_IOCTL_CONFIG_POINT_TO_POINT` -/
def ioctlConfigPointToPoint (a : TapAdapter) (input : List Byte) : TapAdapter × IoStatus :=
  if 8 ≤ input.length then
    let a := { a with
      tun := false, localIP := inputWord input 0, remoteNetwork := inputWord input 1,
      remoteNetmask := BitVec.allOnes 32 }
    (enterTun a, ⟨.success, 1, []⟩)
  else (a, ⟨.invalidParameter, 0, []⟩)

/-- `TAP_IOCTL_SET_MEDIA_STATUS` -/
def ioctlSetMediaStatus (a : TapAdapter) (input : List Byte) : TapAdapter × IoStatus :=
  if 4 ≤ input.length then
    (setMediaStatus a (UInt8.ofNat (inputWord input 0).toNat), ⟨.success, 1, []⟩)
  else (a, ⟨.invalidParameter, 0, []⟩)

/-- `TAP_IOCTL_CONFIG_DHCP_MASQ` -/
def ioctlConfigDhcpMasq (a : TapAdapter) (input : List Byte) : TapAdapter × IoStatus :=
  if 16 ≤ input.length then
    (checkIfDhcpAndTunMode { a with
      dhcpUserOptions := a.dhcpUserOptions.clear
      -- Adapter IP addr / netmask
      dhcpAddr := inputWord input 0
      dhcpNetmask := inputWord input 1
      -- IP addr of DHCP masq server
      dhcpServerIp := inputWord input 2
      -- Lease time in seconds
      dhcpLeaseTime := inputWord input 3
      dhcpServerMac := generateRelatedMac a.mac 2
      dhcpEnabled := true
      dhcpServerArp := true }, ⟨.success, 1, []⟩)
  else (a, ⟨.invalidParameter, 0, []⟩)

/-- `TAP_IOCTL_CONFIG_DHCP_SET_OPT` -/
def ioctlConfigDhcpSetOpt (a : TapAdapter) (input : List Byte) : TapAdapter × IoStatus :=
  if h : input.length ≤ userOptionsSize then
    if a.dhcpEnabled = true then
      ({ a with dhcpUserOptions := a.dhcpUserOptions.supply input h }, ⟨.success, 1, []⟩)
    else (a, ⟨.invalidParameter, 0, []⟩)
  else (a, ⟨.invalidParameter, 0, []⟩)

/-- `TAP_DRIVER_MAJOR_VERSION` and `TAP_DRIVER_MINOR_VERSION`, which the build sets. -/
structure Version where
  major : BitVec 32
  minor : BitVec 32
  deriving DecidableEq, Repr

/-- What a request for some bytes answers. -/
def answer (bytes : List Byte) (outputLength : Nat) : IoStatus :=
  if bytes.length ≤ outputLength then ⟨.success, bytes.length, bytes⟩
  else ⟨.bufferTooSmall, 0, []⟩

/-- `IRP_MJ_DEVICE_CONTROL`, in a driver that is not for debugging -/
def ioctl (v : Version) (a : TapAdapter) : Ioctl → TapAdapter × IoStatus
  | .getMac n => (a, answer a.mac.toList n)
  | .getVersion n => (a, answer (u32.bytes v.major ++ u32.bytes v.minor ++ u32.bytes 0) n)
  | .getMtu n => (a, answer (u32.bytes a.mtu) n)
  | .configTun input => ioctlConfigTun a input
  | .configPointToPoint input => ioctlConfigPointToPoint a input
  | .setMediaStatus input => ioctlSetMediaStatus a input
  | .configDhcpMasq input => ioctlConfigDhcpMasq a input
  | .configDhcpSetOpt input => ioctlConfigDhcpSetOpt a input
  | .other => (a, ⟨.invalidParameter, 0, []⟩)

/-! ## What the program does not reach -/

/-- What only the system sets. -/
def hardware (a : TapAdapter) : MacAddr × MacAddr × Bool × BitVec 32 × Bool :=
  (a.mac, a.macBroadcast, a.interfaceIsRunning, a.mtu, a.mediaStateAlwaysConnected)

theorem setMediaStatus_hardware (a : TapAdapter) (state : Byte) :
    hardware (setMediaStatus a state) = hardware a := by
  unfold setMediaStatus
  split <;> rfl

theorem checkIfDhcpAndTunMode_hardware (a : TapAdapter) :
    hardware (checkIfDhcpAndTunMode a) = hardware a := by
  unfold checkIfDhcpAndTunMode
  split <;> rfl

theorem enterTun_hardware (a : TapAdapter) : hardware (enterTun a) = hardware a := by
  rw [enterTun, checkIfDhcpAndTunMode_hardware]
  rfl

/-- No request of the program reaches what only the system sets. -/
theorem ioctl_hardware (v : Version) (a : TapAdapter) (c : Ioctl) :
    hardware (ioctl v a c).1 = hardware a := by
  cases c with
  | configTun input =>
      simp only [ioctl, ioctlConfigTun]
      split
      · split
        · rfl
        · rw [enterTun_hardware]
          rfl
      · rfl
  | configPointToPoint input =>
      simp only [ioctl, ioctlConfigPointToPoint]
      split
      · rw [enterTun_hardware]
        rfl
      · rfl
  | setMediaStatus input =>
      simp only [ioctl, ioctlSetMediaStatus]
      split
      · exact setMediaStatus_hardware a _
      · rfl
  | configDhcpMasq input =>
      simp only [ioctl, ioctlConfigDhcpMasq]
      split
      · rw [checkIfDhcpAndTunMode_hardware]
        rfl
      · rfl
  | configDhcpSetOpt input =>
      simp only [ioctl, ioctlConfigDhcpSetOpt]
      split
      · split <;> rfl
      · rfl
  | getMac n => rfl
  | getVersion n => rfl
  | getMtu n => rfl
  | other => rfl

/-! ## Writing -/

/-- `ETHERNET_HEADER_SIZE` -/
def ethernetHeaderSize : Nat := 14

/-- `IP_HEADER_SIZE` -/
def ipHeaderSize : Nat := 20

/-- `IPV6_HEADER_SIZE` -/
def ipv6HeaderSize : Nat := 40

/-- `IPH_GET_VER` -/
def iphGetVer (v : Byte) : Byte := (v >>> 4) &&& 0x0f

/-- `IRP_MJ_WRITE` of bytes that are mapped: the answer, and the frame the adapter receives. -/
def write (a : TapAdapter) (data : List Byte) : IoStatus × Option (List Byte) :=
  if a.interfaceIsRunning = false then (⟨.unsuccessful, 0, []⟩, none)
  else if a.tun = false ∧ ethernetHeaderSize ≤ data.length then
    (⟨.success, data.length, []⟩, some data)
  else if a.tun = true ∧ ipHeaderSize ≤ data.length then
    -- for IPv6, need to use ethernet header with IPv6 proto
    let header := if iphGetVer (data.headD 0) = 6 then a.userToTapIpv6 else a.userToTap
    (⟨.success, data.length, []⟩, some (EthHeader.layout.bytes header ++ data))
  else (⟨.bufferTooSmall, 0, []⟩, none)

end TapCfg.TapWin32
