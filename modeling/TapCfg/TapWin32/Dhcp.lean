/-
  TapWin32/Dhcp.lean --- the DHCP server the Windows driver plays.

  Source: drivers/windows/tap-win32/dhcp.c, lines 25-441, and dhcp.h.

  A frame is the memory the packet was copied to.  Reading a structure or an
  option behind its end is `none`.  `memory` is whether `MemAlloc` finds any.
-/
import TapCfg.Foundation.Checksum
import TapCfg.Foundation.Options
import TapCfg.TapWin32.Types

set_option autoImplicit false

namespace TapCfg.TapWin32

open TapCfg.Foundation
open TapCfg.Foundation.Layout (htons u8 u16 u32 array)

/-! ## Code to set DHCP options -/

/-- `DHCP_OPTIONS_BUFFER_SIZE` -/
def dhcpOptionsBufferSize : Nat := 256

/-- `DHCPMsg`: the options set so far, and whether one did not fit. -/
structure DhcpMsg where
  options : List Byte := []
  overflow : Bool := false
  deriving DecidableEq, Repr

/-- `SetDHCPOpt` -/
def setDhcpOpt (m : DhcpMsg) (data : List Byte) : DhcpMsg :=
  if m.overflow = false then
    if m.options.length + data.length ≤ dhcpOptionsBufferSize then
      { m with options := m.options ++ data }
    else { m with overflow := true }
  else m

/-- `SetDHCPOpt0` -/
def setDhcpOpt0 (m : DhcpMsg) (type : Byte) : DhcpMsg := setDhcpOpt m [type]

/-- `SetDHCPOpt8` -/
def setDhcpOpt8 (m : DhcpMsg) (type data : Byte) : DhcpMsg := setDhcpOpt m [type, 1, data]

/-- `SetDHCPOpt32` -/
def setDhcpOpt32 (m : DhcpMsg) (type : Byte) (data : BitVec 32) : DhcpMsg :=
  setDhcpOpt m (type :: 4 :: u32.bytes data)

/-- `DHCP_MSG_TYPE` -/
def dhcpMsgType : Byte := 53

/-- `DHCP_NETMASK` -/
def dhcpNetmaskOpt : Byte := 1

/-- `DHCP_LEASE_TIME` -/
def dhcpLeaseTimeOpt : Byte := 51

/-- `DHCP_SERVER_ID` -/
def dhcpServerId : Byte := 54

/-- `DHCP_PAD` -/
def dhcpPad : Byte := 0

/-- `DHCP_END` -/
def dhcpEnd : Byte := 255

/-- `DHCPDISCOVER` -/
def dhcpDiscover : Byte := 1

/-- `DHCPOFFER` -/
def dhcpOffer : Byte := 2

/-- `DHCPREQUEST` -/
def dhcpRequest : Byte := 3

/-- `DHCPACK` -/
def dhcpAck : Byte := 5

/-- `DHCPNAK` -/
def dhcpNak : Byte := 6

/-! ## Checksum code -/

/-- The loops over the words of a buffer, with the sum in a `ULONG`; a last odd byte is
added by `pad` only. -/
def sumWords (pad : Bool) : List Byte → Nat → Nat
  | [], sum => sum
  | [b], sum => if pad then (sum + 256 * b.toNat) % 2 ^ 32 else sum
  | a :: b :: rest, sum => sumWords pad rest ((sum + (256 * a.toNat + b.toNat)) % 2 ^ 32)

/-- `(USHORT) ~sum`, without carries -/
def invertSum (sum : Nat) : BitVec 16 := ~~~BitVec.ofNat 16 (foldCarries sum)

/-- `ip_checksum` -/
def ipChecksum (buf : List Byte) : BitVec 16 := invertSum (sumWords false buf 0)

/-- What `udp_checksum` and `icmpv6_checksum` have in common: the checksum of a buffer and of
a pseudo header. -/
def pseudoChecksum (protocol : Byte) (buf saddr daddr : List Byte) : BitVec 16 :=
  let sum := sumWords true buf 0
  let sum := sumWords true saddr sum
  let sum := sumWords true daddr sum
  invertSum ((sum + (protocol.toNat + buf.length % 2 ^ 16)) % 2 ^ 32)

/-- `udp_checksum` -/
def udpChecksum (buf saddr daddr : List Byte) : BitVec 16 :=
  pseudoChecksum ipprotoUdp buf saddr daddr

/-- `SetChecksumDHCPMsg` -/
def setChecksumDhcpMsg (pre : DhcpPre) (options : List Byte) : DhcpPre :=
  -- Set IP checksum
  let pre := { pre with
    ip := { pre.ip with check := htons (ipChecksum (IpHdr.layout.bytes pre.ip)) } }
  -- Set UDP Checksum
  { pre with
    udp := { pre.udp with check := htons (udpChecksum
      (UdpHdr.layout.bytes pre.udp ++ Dhcp.layout.bytes pre.dhcp ++ options)
      (u32.bytes pre.ip.saddr) (u32.bytes pre.ip.daddr)) } }

/-! ## DHCP message tests -/

/-- The loop of `GetDHCPMessageType`, with so many turns left; `p` are the options. -/
def messageTypeLoop (p : List Byte) (optlen : Nat) : Nat → Nat → Option Int
  | 0, _ => some (-1)
  | turns + 1, i =>
      if i < optlen then do
        let type ← p[i]?
        let room := optlen - i - 1
        if type = dhcpEnd then return -1
        else if type = dhcpPad then messageTypeLoop p optlen turns (i + 1)
        else if type = dhcpMsgType then
          if 2 ≤ room then
            let len ← p[i + 1]?
            if len = 1 then
              let value ← p[i + 2]?
              return value.toNat
            else return -1
          else return -1
        else if 1 ≤ room then
          let len ← p[i + 1]?
          messageTypeLoop p optlen turns (i + (len.toNat + 1) + 1)
        else messageTypeLoop p optlen turns (i + 1)
      else some (-1)

/-- `GetDHCPMessageType` -/
def getDhcpMessageType (p : List Byte) (optlen : Nat) : Option Int :=
  messageTypeLoop p optlen optlen 0

/-- `BOOTPS_PORT` -/
def bootpsPort : BitVec 16 := 67

/-- `BOOTPC_PORT` -/
def bootpcPort : BitVec 16 := 68

/-- `DHCPMessageOurs` -/
def dhcpMessageOurs (a : TapAdapter) (eth : EthHeader) (ip : IpHdr) (udp : UdpHdr) (dhcp : Dhcp) :
    Bool :=
  -- Must be UDPv4 protocol
  if ¬ (eth.proto = htons ethPIp ∧ ip.protocol = ipprotoUdp) then false
  -- Source MAC must be our adapter
  else if eth.src ≠ a.mac then false
  -- Dest MAC must be either broadcast or our virtual DHCP server
  else if ¬ (eth.dest = a.macBroadcast ∨ eth.dest = a.dhcpServerMac) then false
  -- Port numbers must be correct
  else if ¬ (udp.dest = htons bootpsPort ∧ udp.source = htons bootpcPort) then false
  -- Hardware address must be MAC addr sized
  else if dhcp.hlen ≠ 6 then false
  -- Hardware address must match our adapter
  else if eth.src ≠ dhcp.chaddr then false
  else true

/-! ## Building messages -/

/-- `BOOTREQUEST` -/
def bootRequest : Byte := 1

/-- `BOOTREPLY` -/
def bootReply : Byte := 2

/-- The magic number of DHCP, in host order. -/
def dhcpMagic : BitVec 32 := 0x63825363

/-- `BuildDHCPPre`, in memory that is zero -/
def buildDhcpPre (a : TapAdapter) (eth : EthHeader) (dhcp : Dhcp) (optlen : Nat) (type : Byte) :
    DhcpPre :=
  -- Should we broadcast or direct to a specific MAC / IP address?
  let broadcast := type = dhcpNak ∨ eth.dest = a.macBroadcast
  { eth :=
      { src := a.dhcpServerMac
        dest := if broadcast then a.macBroadcast else eth.src
        proto := htons ethPIp }
    ip :=
      { versionLen := 0x45
        tos := 0
        totLen := htons (BitVec.ofNat 16 (20 + 8 + 240 + optlen))
        id := 0
        fragOff := 0
        ttl := 16
        protocol := ipprotoUdp
        check := 0
        saddr := a.dhcpServerIp
        daddr := if broadcast then BitVec.allOnes 32 else a.dhcpAddr }
    udp :=
      { source := htons bootpsPort
        dest := htons bootpcPort
        len := htons (BitVec.ofNat 16 (8 + 240 + optlen))
        check := 0 }
    dhcp :=
      { op := bootReply
        htype := 1
        hlen := 6
        hops := 0
        xid := dhcp.xid
        secs := 0
        flags := 0
        ciaddr := 0
        yiaddr := if type = dhcpNak then 0 else a.dhcpAddr
        siaddr := a.dhcpServerIp
        giaddr := 0
        chaddr := eth.src
        chaddrRest := Vector.replicate 10 0
        sname := Vector.replicate 64 0
        file := Vector.replicate 128 0
        magic := swapBytes dhcpMagic } }

/-- The options `SendDHCPMsg` sets. -/
def replyOptions (a : TapAdapter) (type : Byte) : DhcpMsg :=
  -- Message Type
  let pkt := setDhcpOpt8 {} dhcpMsgType type
  -- Server ID
  let pkt := setDhcpOpt32 pkt dhcpServerId a.dhcpServerIp
  let pkt :=
    if type = dhcpOffer ∨ type = dhcpAck then
      -- Lease Time
      let pkt := setDhcpOpt32 pkt dhcpLeaseTimeOpt (swapBytes a.dhcpLeaseTime)
      -- Netmask
      let pkt := setDhcpOpt32 pkt dhcpNetmaskOpt a.dhcpNetmask
      -- Other user-defined options
      setDhcpOpt pkt a.dhcpUserOptions.data
    else pkt
  -- End
  setDhcpOpt0 pkt dhcpEnd

/-- `SendDHCPMsg`: the packet it injects. -/
def sendDhcpMsg (memory : Bool) (a : TapAdapter) (type : Byte) (eth : EthHeader) (dhcp : Dhcp) :
    Option (List Byte) :=
  if ¬ (type = dhcpOffer ∨ type = dhcpAck ∨ type = dhcpNak) then none
  else if memory then
    let pkt := replyOptions a type
    if pkt.overflow = false then
      let pre := setChecksumDhcpMsg (buildDhcpPre a eth dhcp pkt.options.length type) pkt.options
      some (DhcpPre.layout.bytes pre ++ pkt.options)
    else none
  else none

/-- `IP_OFFMASK` -/
def ipOffmask : BitVec 16 := 0x1fff

/-- `BAD_DHCPREQUEST_NAK_THRESHOLD` -/
def badDhcprequestNakThreshold : BitVec 32 := 3

/-- What a handler of a packet did: whether it took the packet, the adapter, and the packet
it injected. -/
structure Handled where
  taken : Bool
  adapter : TapAdapter
  injected : Option (List Byte) := none
  deriving DecidableEq, Repr

/-- Whether a request is answered with `DHCPNAK`. -/
def refuses (a : TapAdapter) (dhcp : Dhcp) : Bool :=
  decide (dhcp.ciaddr ≠ 0 ∧ dhcp.ciaddr ≠ a.dhcpAddr) || !a.dhcpReceivedDiscover ||
    decide (badDhcprequestNakThreshold ≤ a.dhcpBadRequests)

/-- Should we reply with `DHCPOFFER`, `DHCPACK`, or `DHCPNAK`? -/
def replyType (a : TapAdapter) (msgType : Int) (dhcp : Dhcp) : Byte :=
  if msgType = dhcpRequest.toNat ∧ refuses a dhcp = true then dhcpNak
  else if msgType = dhcpDiscover.toNat then dhcpOffer
  else dhcpAck

/-- What `ProcessDHCP` remembers of a message. -/
def noteMessage (a : TapAdapter) (msgType : Int) (dhcp : Dhcp) : TapAdapter :=
  -- Remember if we received a DHCPDISCOVER
  let a := if msgType = dhcpDiscover.toNat then { a with dhcpReceivedDiscover := true } else a
  -- Is this a bad DHCPREQUEST?
  if msgType = dhcpRequest.toNat ∧ dhcp.ciaddr ≠ a.dhcpAddr then
    { a with dhcpBadRequests := a.dhcpBadRequests + 1 }
  else a

/-- `ProcessDHCP` -/
def processDhcp (memory : Bool) (a : TapAdapter) (eth : EthHeader) (ip : IpHdr) (udp : UdpHdr)
    (dhcp : Dhcp) (options : List Byte) (optlen : Nat) : Option Handled :=
  -- Sanity check IP header
  if ¬ ((htons ip.totLen).toNat = 20 + 8 + 240 + optlen ∧ htons ip.fragOff &&& ipOffmask = 0) then
    some ⟨true, a, none⟩
  -- Does this message belong to us?
  else if dhcpMessageOurs a eth ip udp dhcp = false then some ⟨false, a, none⟩
  else do
    let msgType ← getDhcpMessageType options optlen
    -- Drop non-BOOTREQUEST messages
    if dhcp.op ≠ bootRequest then return ⟨true, a, none⟩
    -- Drop any messages except DHCPDISCOVER or DHCPREQUEST
    else if ¬ (msgType = dhcpDiscover.toNat ∨ msgType = dhcpRequest.toNat) then
      return ⟨true, a, none⟩
    else
      return ⟨true, noteMessage a msgType dhcp,
        sendDhcpMsg memory a (replyType a msgType dhcp) eth dhcp⟩

end TapCfg.TapWin32
