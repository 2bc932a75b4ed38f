/-
  TapWin32/Neighbours.lean --- the neighbours the Windows driver answers for.

  Source: drivers/windows/tap-win32/tapdrvr.c, lines 1432-1583 and 2842-2900.

  `ProcessARP` answers for addresses of IPv4, `HandleIPv6NeighborDiscovery` for
  one of IPv6.  Reading behind the end of the packet is `none`; a `memcmp` reads all
  that it compares.
-/
import TapCfg.TapWin32.Dhcp

set_option autoImplicit false

namespace TapCfg.TapWin32

open TapCfg.Foundation
open TapCfg.Foundation.Layout (htons u8 u16 u32 array)

/-! ## ARP -/

/-- `ARP_REQUEST` -/
def arpRequest : BitVec 16 := 1

/-- `ARP_REPLY` -/
def arpReply : BitVec 16 := 2

/-- `MAC_ADDR_TYPE` -/
def macAddrType : BitVec 16 := 1

/-- The test of `ProcessARP`. -/
def isArpQuery (a : TapAdapter) (src : ArpPacket) (adapterIp ipNetwork ipNetmask : IpAddr) : Bool :=
  decide (src.proto = htons ethPArp
    ∧ src.macSource = a.mac
    ∧ src.arpMacSource = a.mac
    ∧ src.macDestination = a.macBroadcast
    ∧ src.arpOperation = htons arpRequest
    ∧ src.macAddressType = htons macAddrType
    ∧ src.macAddressSize = 6
    ∧ src.protoAddressType = htons ethPIp
    ∧ src.protoAddressSize = 4
    ∧ src.arpIpSource = adapterIp
    ∧ src.arpIpDestination &&& ipNetmask = ipNetwork
    ∧ src.arpIpDestination ≠ adapterIp)

/-- The reply of `ProcessARP`. -/
def arpReplyTo (a : TapAdapter) (src : ArpPacket) (adapterIp : IpAddr) (mac : MacAddr) :
    ArpPacket where
  proto := htons ethPArp
  macAddressType := htons macAddrType
  protoAddressType := htons ethPIp
  macAddressSize := 6
  protoAddressSize := 4
  arpOperation := htons arpReply
  macSource := mac
  macDestination := a.mac
  arpMacSource := mac
  arpMacDestination := a.mac
  arpIpSource := src.arpIpDestination
  arpIpDestination := adapterIp

/-- `ProcessARP` -/
def processArp (memory : Bool) (a : TapAdapter) (src : ArpPacket)
    (adapterIp ipNetwork ipNetmask : IpAddr) (mac : MacAddr) : Handled :=
  if isArpQuery a src adapterIp ipNetwork ipNetmask then
    ⟨true, a,
      if memory then some (ArpPacket.layout.bytes (arpReplyTo a src adapterIp mac)) else none⟩
  else ⟨false, a, none⟩

/-! ## Neighbour discovery -/

/-- `icmpv6_checksum` -/
def icmpv6Checksum (buf saddr daddr : List Byte) : BitVec 16 :=
  pseudoChecksum ipprotoIcmpv6 buf saddr daddr

/-- `IPV6_NS_TARGET_MCAST` -/
def ipv6NsTargetMcast : Ipv6Addr := #v[0xff, 0x02, 0, 0, 0, 0, 0, 0, 0, 0, 0, 0x01, 0xff, 0, 0, 0x08]

/-- `IPV6_NS_TARGET_UNICAST` -/
def ipv6NsTargetUnicast : Ipv6Addr := #v[0xfe, 0x80, 0, 0, 0, 0, 0, 0, 0, 0, 0, 0, 0, 0, 0, 0x08]

/-- `ICMPV6_TYPE_NS` -/
def icmpv6TypeNs : Byte := 135

/-- `ICMPV6_TYPE_NA` -/
def icmpv6TypeNa : Byte := 136

/-- `ICMPV6_CODE_0` -/
def icmpv6Code0 : Byte := 0

/-- The response of `HandleIPv6NeighborDiscovery`. -/
def neighbourAdvertisement (a : TapAdapter) (ipv6 : Ipv6Hdr) : Icmpv6NaPkt :=
  let icmpv6 : Icmpv6Na :=
    { type := icmpv6TypeNa
      code := icmpv6Code0
      checksum := 0
      rsoBits := 0x60 -- Solicited + Override
      reserved := Vector.replicate 3 0
      targetAddr := ipv6NsTargetUnicast
      -- ICMPv6 option "Target Link Layer Address"
      optType := 2
      optLength := 1
      targetMacaddr := a.tapToUser.dest }
  let csum := icmpv6Checksum (Icmpv6Na.layout.bytes icmpv6) ipv6NsTargetUnicast.toList
    ipv6.saddr.toList
  { eth := { proto := htons ethPIpv6, dest := a.mac, src := a.tapToUser.dest }
    ipv6 :=
      { versionPrio := ipv6.versionPrio
        flowLbl := ipv6.flowLbl
        payloadLen := htons 32
        nexthdr := ipprotoIcmpv6
        hopLimit := 255
        saddr := ipv6NsTargetUnicast
        daddr := ipv6.saddr }
    icmpv6 := { icmpv6 with checksum := htons csum } }

/-- `HandleIPv6NeighborDiscovery`; the solicitation is looked at without a look at the length. -/
def handleIpv6NeighborDiscovery (memory : Bool) (a : TapAdapter) (data : List Byte) :
    Option Handled := do
  let ipv6 ← Ipv6Hdr.layout.read (data.drop 14)
  if ipv6.daddr ≠ ipv6NsTargetMcast ∧ ipv6.daddr ≠ ipv6NsTargetUnicast then
    return ⟨false, a, none⟩ -- wrong target address
  else if ipv6.nexthdr ≠ ipprotoIcmpv6 then
    return ⟨false, a, none⟩ -- wrong next-header
  else
    let type ← data[54]?
    if type ≠ icmpv6TypeNs then
      return ⟨false, a, none⟩ -- wrong ICMPv6 type
    else
      -- the code is looked at behind the right type only
      let code ← data[55]?
      if code ≠ icmpv6Code0 then
        return ⟨false, a, none⟩ -- wrong ICMPv6 type
      else
        let targetAddr ← (array 16).read (data.drop 62)
        if targetAddr ≠ ipv6NsTargetUnicast then
          return ⟨false, a, none⟩ -- not for us
        else if memory = false then return ⟨false, a, none⟩
        else return ⟨true, a, some (Icmpv6NaPkt.layout.bytes (neighbourAdvertisement a ipv6))⟩

end TapCfg.TapWin32
