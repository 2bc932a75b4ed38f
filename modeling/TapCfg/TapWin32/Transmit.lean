/-
  TapWin32/Transmit.lean --- what the Windows driver does with a frame the system
  sends, before it queues it.

  Source: drivers/windows/tap-win32/tapdrvr.c, lines 1585-1805.

  A frame is answered by the driver itself, or dropped, or queued for the
  program that has the device open.
-/
import TapCfg.TapWin32.Ioctl
import TapCfg.TapWin32.Neighbours

set_option autoImplicit false

namespace TapCfg.TapWin32

open TapCfg.Foundation
open TapCfg.Foundation.Layout (htons u8 u16 u32 array)

/-- `TapPacket` -/
structure TapPacket where
  sizeFlags : BitVec 32
  data : List Byte
  deriving DecidableEq, Repr

/-- `TP_TUN` -/
def tpTun : BitVec 32 := 0x80000000

/-- `TP_SIZE_MASK` -/
def tpSizeMask : BitVec 32 := ~~~tpTun

/-- What becomes of a frame, with the adapter after it and the packet that was injected. -/
structure Filtered where
  adapter : TapAdapter
  injected : Option (List Byte) := none
  queued : Option TapPacket := none
  deriving DecidableEq, Repr

/-- The sizes of the headers of a DHCP message. -/
def dhcpHeadersSize : Nat := 14 + 20 + 8 + 240

/-- The DHCP server masquerade: the frames it may take; `none` for the others. -/
def masquerade (memory : Bool) (a : TapAdapter) (data : List Byte) : Option (Option Handled) := do
  let eth ← EthHeader.layout.read data
  -- ARP packet?
  if data.length = 42 ∧ eth.proto = htons ethPArp ∧ a.dhcpServerArp = true then
    let arp ← ArpPacket.layout.read data
    return some (processArp memory a arp a.dhcpAddr a.dhcpServerIp (BitVec.allOnes 32)
      a.dhcpServerMac)
  -- DHCP packet?
  else if dhcpHeadersSize ≤ data.length ∧ eth.proto = htons ethPIp then
    let ip ← IpHdr.layout.read (data.drop 14)
    let udp ← UdpHdr.layout.read (data.drop 34)
    -- IPv4, 20 byte header
    if ip.versionLen = 0x45 ∧ ip.protocol = ipprotoUdp ∧ udp.dest = htons bootpsPort then
      let dhcp ← Dhcp.layout.read (data.drop 42)
      let optlen := data.length - dhcpHeadersSize
      -- we must have at least one DHCP option
      if 0 < optlen then
        let handled ← processDhcp memory a eth ip udp dhcp (data.drop dhcpHeadersSize) optlen
        return some handled
      else return some ⟨true, a, none⟩
    else return none
  else return none

/-- Point-To-Point mode: what happens to a frame, by its protocol. -/
def pointToPoint (memory : Bool) (a : TapAdapter) (data : List Byte) (packet : TapPacket) :
    Option Filtered := do
  if data.length < ethernetHeaderSize then return ⟨a, none, none⟩
  let e ← EthHeader.layout.read data
  if e.proto = htons ethPArp then
    -- Make sure that packet is the right size for ARP.
    if data.length ≠ 42 then return ⟨a, none, none⟩
    let arp ← ArpPacket.layout.read data
    let handled := processArp memory a arp a.localIP a.remoteNetwork a.remoteNetmask
      a.tapToUser.dest
    return ⟨a, handled.injected, none⟩
  else if e.proto = htons ethPIp then
    -- Make sure that packet is large enough to be IPv4.
    if data.length < ethernetHeaderSize + ipHeaderSize then return ⟨a, none, none⟩
    -- Only accept directed packets, not broadcasts.
    else if e ≠ a.tapToUser then return ⟨a, none, none⟩
    else return ⟨a, none, some { packet with sizeFlags := packet.sizeFlags ||| tpTun }⟩
  else if e.proto = htons ethPIpv6 then
    -- make sure that packet is large enough to be IPv6
    if data.length < ethernetHeaderSize + ipv6HeaderSize then return ⟨a, none, none⟩
    let handled ← handleIpv6NeighborDiscovery memory a data
    if handled.taken then return ⟨a, handled.injected, none⟩
    else return ⟨a, none, some { packet with sizeFlags := packet.sizeFlags ||| tpTun }⟩
  else return ⟨a, none, none⟩

/-- The packet of a frame. -/
def packetOf (data : List Byte) : TapPacket :=
  ⟨BitVec.ofNat 32 data.length &&& tpSizeMask, data⟩

/-- What happens to a frame the masquerade leaves. -/
def forward (memory : Bool) (a : TapAdapter) (data : List Byte) : Option Filtered :=
  if a.tun then pointToPoint memory a data (packetOf data)
  else some ⟨a, none, some (packetOf data)⟩

/-- `AdapterTransmit` from the reassembled packet to the queue; `none` when an access leaves the
packet. -/
def transmitFilter (memory : Bool) (a : TapAdapter) (data : List Byte) : Option Filtered :=
  -- Are we running in DHCP server masquerade mode?
  let masq := if a.dhcpEnabled then masquerade memory a data else some none
  masq.bind fun
    | some ⟨true, a, injected⟩ => some ⟨a, injected, none⟩
    | some ⟨false, a, _⟩ => forward memory a data
    | none => forward memory a data

/-- `CompleteIRP`: what a read of `information` bytes gets of a packet; when they do not fit, the
packet is lost. -/
def completeIrp (information : Nat) (p : TapPacket) : IoStatus :=
  let size := (p.sizeFlags &&& tpSizeMask).toNat
  let (offset, len) : Nat × Int :=
    if p.sizeFlags &&& tpTun ≠ 0 then (ethernetHeaderSize, (size : Int) - ethernetHeaderSize)
    else (0, (size : Int))
  if len < 0 ∨ (BitVec.ofNat 32 information).toInt < len then ⟨.bufferOverflow, 0, []⟩
  else ⟨.success, len.toNat, (p.data.drop offset).take len.toNat⟩

end TapCfg.TapWin32
