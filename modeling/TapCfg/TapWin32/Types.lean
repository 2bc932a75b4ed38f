/-
  TapWin32/Types.lean --- the packets and the adapter of the Windows driver.

  Source: drivers/windows/tap-win32/proto.h, lines 28-224; dhcp.h, lines 25-164;
  types.h, lines 94-178; macinfo.c, lines 150-154.

  The structures are packed, and their words are as the processor reads them:
  little-endian, so that a word of the network is swapped by `htons` and
  `swapBytes` (the driver's `htonl`).
-/
import TapCfg.Foundation.Inet
import TapCfg.Foundation.Layout

set_option autoImplicit false

namespace TapCfg.TapWin32

open TapCfg.Foundation
open TapCfg.Foundation.Layout (htons u8 u16 u32 array)

/-! ## Packets -/

/-- `MACADDR` -/
abbrev MacAddr : Type := Vector Byte 6

/-- `IPADDR`, a word of memory. -/
abbrev IpAddr : Type := BitVec 32

/-- `IPV6ADDR` -/
abbrev Ipv6Addr : Type := Vector Byte 16

/-- `ETH_HEADER` -/
structure EthHeader where
  dest : MacAddr
  src : MacAddr
  proto : BitVec 16
  deriving DecidableEq, Repr

/-- `ETH_P_IP` -/
def ethPIp : BitVec 16 := 0x0800

/-- `ETH_P_IPV6` -/
def ethPIpv6 : BitVec 16 := 0x86dd

/-- `ETH_P_ARP` -/
def ethPArp : BitVec 16 := 0x0806

/-- `ARP_PACKET` -/
structure ArpPacket where
  macDestination : MacAddr
  macSource : MacAddr
  proto : BitVec 16
  macAddressType : BitVec 16
  protoAddressType : BitVec 16
  macAddressSize : Byte
  protoAddressSize : Byte
  arpOperation : BitVec 16
  arpMacSource : MacAddr
  arpIpSource : IpAddr
  arpMacDestination : MacAddr
  arpIpDestination : IpAddr
  deriving DecidableEq, Repr

/-- `IPHDR` -/
structure IpHdr where
  versionLen : Byte
  tos : Byte
  totLen : BitVec 16
  id : BitVec 16
  fragOff : BitVec 16
  ttl : Byte
  protocol : Byte
  check : BitVec 16
  saddr : IpAddr
  daddr : IpAddr
  deriving DecidableEq, Repr

/-- `IPPROTO_UDP` -/
def ipprotoUdp : Byte := 17

/-- `UDPHDR` -/
structure UdpHdr where
  source : BitVec 16
  dest : BitVec 16
  len : BitVec 16
  check : BitVec 16
  deriving DecidableEq, Repr

/-- `DHCP`; the address of the client is the front of `chaddr`. -/
structure Dhcp where
  op : Byte
  htype : Byte
  hlen : Byte
  hops : Byte
  xid : BitVec 32
  secs : BitVec 16
  flags : BitVec 16
  ciaddr : IpAddr
  yiaddr : IpAddr
  siaddr : IpAddr
  giaddr : IpAddr
  chaddr : MacAddr
  chaddrRest : Vector Byte 10
  sname : Vector Byte 64
  file : Vector Byte 128
  magic : BitVec 32
  deriving DecidableEq, Repr

/-- `DHCPPre` -/
structure DhcpPre where
  eth : EthHeader
  ip : IpHdr
  udp : UdpHdr
  dhcp : Dhcp
  deriving DecidableEq, Repr

/-- `IPV6HDR` -/
structure Ipv6Hdr where
  versionPrio : Byte
  flowLbl : Vector Byte 3
  payloadLen : BitVec 16
  nexthdr : Byte
  hopLimit : Byte
  saddr : Ipv6Addr
  daddr : Ipv6Addr
  deriving DecidableEq, Repr

/-- `IPPROTO_ICMPV6` -/
def ipprotoIcmpv6 : Byte := 0x3a

/-- `ICMPV6_NA` -/
structure Icmpv6Na where
  type : Byte
  code : Byte
  checksum : BitVec 16
  rsoBits : Byte
  reserved : Vector Byte 3
  targetAddr : Ipv6Addr
  optType : Byte
  optLength : Byte
  targetMacaddr : MacAddr
  deriving DecidableEq, Repr

/-- `ICMPV6_NA_PKT` -/
structure Icmpv6NaPkt where
  eth : EthHeader
  ipv6 : Ipv6Hdr
  icmpv6 : Icmpv6Na
  deriving DecidableEq, Repr

/-! ## Their bytes -/

def EthHeader.layout : Layout EthHeader :=
  ((array 6).pair ((array 6).pair u16)).struct (fun ⟨dest, src, proto⟩ => ⟨dest, src, proto⟩)
    (fun h => (h.dest, h.src, h.proto)) (fun _ => rfl) (fun _ => rfl)

def ArpPacket.layout : Layout ArpPacket :=
  ((array 6).pair <| (array 6).pair <| u16.pair <| u16.pair <| u16.pair <| u8.pair <| u8.pair <|
    u16.pair <| (array 6).pair <| u32.pair <| (array 6).pair u32).struct
    (fun ⟨a, b, c, d, e, f, g, h, i, j, k, l⟩ => ⟨a, b, c, d, e, f, g, h, i, j, k, l⟩)
    (fun p => (p.macDestination, p.macSource, p.proto, p.macAddressType, p.protoAddressType,
      p.macAddressSize, p.protoAddressSize, p.arpOperation, p.arpMacSource, p.arpIpSource,
      p.arpMacDestination, p.arpIpDestination))
    (fun _ => rfl) (fun _ => rfl)

def IpHdr.layout : Layout IpHdr :=
  (u8.pair <| u8.pair <| u16.pair <| u16.pair <| u16.pair <| u8.pair <| u8.pair <| u16.pair <|
    u32.pair u32).struct
    (fun ⟨a, b, c, d, e, f, g, h, i, j⟩ => ⟨a, b, c, d, e, f, g, h, i, j⟩)
    (fun p => (p.versionLen, p.tos, p.totLen, p.id, p.fragOff, p.ttl, p.protocol, p.check, p.saddr,
      p.daddr))
    (fun _ => rfl) (fun _ => rfl)

def UdpHdr.layout : Layout UdpHdr :=
  (u16.pair <| u16.pair <| u16.pair u16).struct (fun ⟨a, b, c, d⟩ => ⟨a, b, c, d⟩)
    (fun p => (p.source, p.dest, p.len, p.check)) (fun _ => rfl) (fun _ => rfl)

def Dhcp.layout : Layout Dhcp :=
  (u8.pair <| u8.pair <| u8.pair <| u8.pair <| u32.pair <| u16.pair <| u16.pair <| u32.pair <|
    u32.pair <| u32.pair <| u32.pair <| (array 6).pair <| (array 10).pair <| (array 64).pair <|
    (array 128).pair u32).struct
    (fun ⟨a, b, c, d, e, f, g, h, i, j, k, l, m, n, o, p⟩ =>
      ⟨a, b, c, d, e, f, g, h, i, j, k, l, m, n, o, p⟩)
    (fun p => (p.op, p.htype, p.hlen, p.hops, p.xid, p.secs, p.flags, p.ciaddr, p.yiaddr, p.siaddr,
      p.giaddr, p.chaddr, p.chaddrRest, p.sname, p.file, p.magic))
    (fun _ => rfl) (fun _ => rfl)

def DhcpPre.layout : Layout DhcpPre :=
  (EthHeader.layout.pair <| IpHdr.layout.pair <| UdpHdr.layout.pair Dhcp.layout).struct
    (fun ⟨eth, ip, udp, dhcp⟩ => ⟨eth, ip, udp, dhcp⟩) (fun p => (p.eth, p.ip, p.udp, p.dhcp))
    (fun _ => rfl) (fun _ => rfl)

def Ipv6Hdr.layout : Layout Ipv6Hdr :=
  (u8.pair <| (array 3).pair <| u16.pair <| u8.pair <| u8.pair <| (array 16).pair (array 16)).struct
    (fun ⟨a, b, c, d, e, f, g⟩ => ⟨a, b, c, d, e, f, g⟩)
    (fun p => (p.versionPrio, p.flowLbl, p.payloadLen, p.nexthdr, p.hopLimit, p.saddr, p.daddr))
    (fun _ => rfl) (fun _ => rfl)

def Icmpv6Na.layout : Layout Icmpv6Na :=
  (u8.pair <| u8.pair <| u16.pair <| u8.pair <| (array 3).pair <| (array 16).pair <| u8.pair <|
    u8.pair (array 6)).struct
    (fun ⟨a, b, c, d, e, f, g, h, i⟩ => ⟨a, b, c, d, e, f, g, h, i⟩)
    (fun p => (p.type, p.code, p.checksum, p.rsoBits, p.reserved, p.targetAddr, p.optType,
      p.optLength, p.targetMacaddr))
    (fun _ => rfl) (fun _ => rfl)

def Icmpv6NaPkt.layout : Layout Icmpv6NaPkt :=
  (EthHeader.layout.pair <| Ipv6Hdr.layout.pair Icmpv6Na.layout).struct
    (fun ⟨eth, ipv6, icmpv6⟩ => ⟨eth, ipv6, icmpv6⟩) (fun p => (p.eth, p.ipv6, p.icmpv6))
    (fun _ => rfl) (fun _ => rfl)

section

@[simp] theorem size_ethHeader : EthHeader.layout.size = 14 := rfl

@[simp] theorem size_arpPacket : ArpPacket.layout.size = 42 := rfl

@[simp] theorem size_ipHdr : IpHdr.layout.size = 20 := rfl

@[simp] theorem size_udpHdr : UdpHdr.layout.size = 8 := rfl

@[simp] theorem size_dhcp : Dhcp.layout.size = 240 := rfl

@[simp] theorem size_dhcpPre : DhcpPre.layout.size = 282 := rfl

@[simp] theorem size_ipv6Hdr : Ipv6Hdr.layout.size = 40 := rfl

@[simp] theorem size_icmpv6Na : Icmpv6Na.layout.size = 32 := rfl

@[simp] theorem size_icmpv6NaPkt : Icmpv6NaPkt.layout.size = 86 := rfl

end

/-! ## The adapter -/

/-- `DHCP_USER_SUPPLIED_OPTIONS_BUFFER_SIZE` -/
def userOptionsSize : Nat := 256

/-- The options the user supplied: a buffer, and how much of it is in use. -/
structure UserOptions where
  buffer : Vector Byte 256
  len : Nat
  len_le : len ≤ userOptionsSize
  deriving DecidableEq, Repr

namespace UserOptions

/-- No options. -/
def clear (o : UserOptions) : UserOptions := { o with len := 0, len_le := Nat.zero_le _ }

/-- Options that fit. -/
def supply (o : UserOptions) (data : List Byte) (h : data.length ≤ userOptionsSize) :
    UserOptions where
  buffer := ⟨(data ++ o.buffer.toList.drop data.length).toArray, by
    have hlen : o.buffer.toList.length = 256 := by simp
    simp only [List.size_toArray, List.length_append, List.length_drop, hlen]
    unfold userOptionsSize at h
    omega⟩
  len := data.length
  len_le := h

/-- The options in use. -/
def data (o : UserOptions) : List Byte := o.buffer.toList.take o.len

@[simp] theorem data_clear (o : UserOptions) : o.clear.data = [] := by
  simp [data, clear]

@[simp] theorem data_supply (o : UserOptions) (data : List Byte)
    (h : data.length ≤ userOptionsSize) : (o.supply data h).data = data := by
  simp [UserOptions.data, supply, Vector.toList]

theorem data_length (o : UserOptions) : o.data.length = o.len := by
  have hle := o.len_le
  unfold userOptionsSize at hle
  simp [data]
  omega

end UserOptions

/-- `TapAdapter`: what its handlers read and write. -/
structure TapAdapter where
  mac : MacAddr
  macBroadcast : MacAddr := Vector.replicate 6 0xff
  interfaceIsRunning : Bool := true
  mtu : BitVec 32 := 1500
  mediaStateAlwaysConnected : Bool := false
  mediaState : Byte := 0
  tun : Bool := false
  localIP : IpAddr := 0
  remoteNetwork : IpAddr := 0
  remoteNetmask : IpAddr := 0
  tapToUser : EthHeader := ⟨Vector.replicate 6 0, Vector.replicate 6 0, 0⟩
  userToTap : EthHeader := ⟨Vector.replicate 6 0, Vector.replicate 6 0, 0⟩
  userToTapIpv6 : EthHeader := ⟨Vector.replicate 6 0, Vector.replicate 6 0, 0⟩
  dhcpEnabled : Bool := false
  dhcpAddr : IpAddr := 0
  dhcpNetmask : BitVec 32 := 0
  dhcpServerIp : IpAddr := 0
  dhcpServerArp : Bool := false
  dhcpServerMac : MacAddr := Vector.replicate 6 0
  dhcpLeaseTime : BitVec 32 := 0
  dhcpUserOptions : UserOptions := ⟨Vector.replicate 256 0, 0, Nat.zero_le _⟩
  dhcpReceivedDiscover : Bool := false
  dhcpBadRequests : BitVec 32 := 0
  deriving DecidableEq, Repr

/-- `GenerateRelatedMAC` -/
def generateRelatedMac (src : MacAddr) (delta : Byte) : MacAddr :=
  src.set 2 (src[2] + delta)

/-- `ResetTapAdapterState` -/
def resetTapAdapterState (a : TapAdapter) : TapAdapter :=
  let zeroHeader : EthHeader := ⟨Vector.replicate 6 0, Vector.replicate 6 0, 0⟩
  { a with
    -- Point-To-Point
    tun := false, localIP := 0, remoteNetwork := 0, remoteNetmask := 0,
    tapToUser := zeroHeader, userToTap := zeroHeader, userToTapIpv6 := zeroHeader,
    -- DHCP Masq
    dhcpEnabled := false, dhcpServerArp := false, dhcpUserOptions := a.dhcpUserOptions.clear,
    dhcpAddr := 0, dhcpNetmask := 0, dhcpServerIp := 0, dhcpLeaseTime := 0,
    dhcpReceivedDiscover := false, dhcpBadRequests := 0,
    dhcpServerMac := Vector.replicate 6 0 }

end TapCfg.TapWin32
