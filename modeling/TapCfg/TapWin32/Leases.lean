/-
  TapWin32/Leases.lean --- the leases the Windows driver grants while it is open.

  Source: drivers/windows/tap-win32/dhcp.c, lines 188-224 and 375-441; tapdrvr.c,
  lines 1668-1726 and 2153-2185.

  From one `CreateFile` to the next the driver remembers whether a client asked
  for an offer, and how many requests did not name the address.  It forgets
  neither when it is configured again.

  It takes no lock for what it remembers, nor for what it is configured to.  A
  session is one of callers that wait for each other; frames that overlap may all
  be answered before the first of them is counted (`OverlapStep`).
-/
import TapCfg.Foundation.History
import TapCfg.Foundation.Runs
import TapCfg.TapWin32.Replies
import TapCfg.TapWin32.Transmit

set_option autoImplicit false

namespace TapCfg.TapWin32

open TapCfg.Foundation
open TapCfg.Foundation.Layout (htons u8 u16 u32 array)

/-! ## What a frame can do -/

/-- A frame carries a message the adapter answers. -/
structure Message (a : TapAdapter) (data : List Byte) (eth : EthHeader) (dhcp : Dhcp)
    (type : Byte) : Prop where
  enabled : a.dhcpEnabled = true
  dhcp_read : Dhcp.layout.read (data.drop 42) = some dhcp
  kind : type = dhcpDiscover ∨ type = dhcpRequest
  found : getDhcpMessageType (data.drop dhcpHeadersSize) (data.length - dhcpHeadersSize)
    = some (type.toNat : Int)
  source : eth.src = a.mac

variable {memory : Bool} {a : TapAdapter} {eth : EthHeader} {ip : IpHdr} {udp : UdpHdr} {dhcp : Dhcp}

theorem dhcpMessageOurs_source (h : dhcpMessageOurs a eth ip udp dhcp = true) :
    eth.src = a.mac := by
  by_contra hne
  simp [dhcpMessageOurs, hne] at h

/-- A message is left alone, dropped, or answered. -/
theorem processDhcp_cases {options : List Byte} {optlen : Nat} {r : Handled}
    (h : processDhcp memory a eth ip udp dhcp options optlen = some r) :
    (r.adapter = a ∧ r.injected = none) ∨
      ∃ type : Byte, (type = dhcpDiscover ∨ type = dhcpRequest) ∧
        getDhcpMessageType options optlen = some (type.toNat : Int) ∧ eth.src = a.mac ∧
        r = ⟨true, noteMessage a type.toNat dhcp,
          sendDhcpMsg memory a (replyType a type.toNat dhcp) eth dhcp⟩ := by
  unfold processDhcp at h
  split at h
  · cases h
    exact .inl ⟨rfl, rfl⟩
  split at h
  · cases h
    exact .inl ⟨rfl, rfl⟩
  rename_i hours
  obtain ⟨msgType, hfound, h⟩ := Option.bind_eq_some_iff.mp h
  have hsource := dhcpMessageOurs_source (by simpa using hours)
  split at h
  · cases h
    exact .inl ⟨rfl, rfl⟩
  split at h
  · cases h
    exact .inl ⟨rfl, rfl⟩
  rename_i hkind
  cases h
  rcases not_not.mp hkind with rfl | rfl
  · exact .inr ⟨dhcpDiscover, .inl rfl, hfound, hsource, rfl⟩
  · exact .inr ⟨dhcpRequest, .inr rfl, hfound, hsource, rfl⟩

/-- What the driver injects besides replies of its server is shorter than those. -/
def Short (injected : Option (List Byte)) : Prop :=
  ∀ frame, injected = some frame → frame.length < dhcpHeadersSize

theorem processArp_cases (src : ArpPacket) (adapterIp ipNetwork ipNetmask : IpAddr) (mac : MacAddr) :
    (processArp memory a src adapterIp ipNetwork ipNetmask mac).adapter = a ∧
      Short (processArp memory a src adapterIp ipNetwork ipNetmask mac).injected := by
  unfold processArp
  split
  · refine ⟨rfl, ?_⟩
    intro frame h
    cases memory with
    | false => cases h
    | true =>
        cases h
        rw [ArpPacket.layout.length_bytes]
        decide
  · exact ⟨rfl, fun _ h => nomatch h⟩

theorem handleIpv6NeighborDiscovery_cases {data : List Byte} {r : Handled}
    (h : handleIpv6NeighborDiscovery memory a data = some r) :
    r.adapter = a ∧ Short r.injected := by
  unfold handleIpv6NeighborDiscovery at h
  have hnone : Short none := fun _ h => nomatch h
  obtain ⟨ipv6, -, h⟩ := Option.bind_eq_some_iff.mp h
  split at h
  · cases h
    exact ⟨rfl, hnone⟩
  split at h
  · cases h
    exact ⟨rfl, hnone⟩
  obtain ⟨type, -, h⟩ := Option.bind_eq_some_iff.mp h
  split at h
  · cases h
    exact ⟨rfl, hnone⟩
  obtain ⟨code, -, h⟩ := Option.bind_eq_some_iff.mp h
  split at h
  · cases h
    exact ⟨rfl, hnone⟩
  obtain ⟨target, -, h⟩ := Option.bind_eq_some_iff.mp h
  split at h
  · cases h
    exact ⟨rfl, hnone⟩
  split at h
  · cases h
    exact ⟨rfl, hnone⟩
  cases h
  refine ⟨rfl, ?_⟩
  rintro frame hframe
  cases hframe
  rw [Icmpv6NaPkt.layout.length_bytes]
  decide

theorem pointToPoint_cases {data : List Byte} {packet : TapPacket} {r : Filtered}
    (h : pointToPoint memory a data packet = some r) : r.adapter = a ∧ Short r.injected := by
  have hnone : Short none := fun _ h => nomatch h
  unfold pointToPoint at h
  split at h
  · cases h
    exact ⟨rfl, hnone⟩
  obtain ⟨e, -, h⟩ := Option.bind_eq_some_iff.mp h
  split at h
  · split at h
    · cases h
      exact ⟨rfl, hnone⟩
    obtain ⟨arp, -, h⟩ := Option.bind_eq_some_iff.mp h
    cases h
    exact ⟨rfl, (processArp_cases arp _ _ _ _).2⟩
  split at h
  · split at h
    · cases h
      exact ⟨rfl, hnone⟩
    split at h
    · cases h
      exact ⟨rfl, hnone⟩
    · cases h
      exact ⟨rfl, hnone⟩
  split at h
  · split at h
    · cases h
      exact ⟨rfl, hnone⟩
    obtain ⟨handled, hrun, h⟩ := Option.bind_eq_some_iff.mp h
    split at h
    · cases h
      exact ⟨rfl, (handleIpv6NeighborDiscovery_cases hrun).2⟩
    · cases h
      exact ⟨rfl, hnone⟩
  · cases h
    exact ⟨rfl, hnone⟩

/-- The masquerade leaves a frame, takes it, or answers the message in it. -/
theorem masquerade_cases {data : List Byte} {r : Option Handled}
    (henabled : a.dhcpEnabled = true) (h : masquerade memory a data = some r) :
    (∀ handled, r = some handled → handled.adapter = a ∧ Short handled.injected) ∨
      ∃ eth dhcp type, Message a data eth dhcp type ∧
        r = some ⟨true, noteMessage a type.toNat dhcp,
          sendDhcpMsg memory a (replyType a type.toNat dhcp) eth dhcp⟩ := by
  have hnone : Short none := fun _ h => nomatch h
  unfold masquerade at h
  obtain ⟨eth, -, h⟩ := Option.bind_eq_some_iff.mp h
  split at h
  · obtain ⟨arp, -, h⟩ := Option.bind_eq_some_iff.mp h
    cases h
    refine .inl fun handled hhandled => ?_
    cases hhandled
    exact processArp_cases arp _ _ _ _
  split at h
  · obtain ⟨ip, -, h⟩ := Option.bind_eq_some_iff.mp h
    obtain ⟨udp, -, h⟩ := Option.bind_eq_some_iff.mp h
    split at h
    · obtain ⟨dhcp, hdhcp, h⟩ := Option.bind_eq_some_iff.mp h
      dsimp only at h
      split at h
      · obtain ⟨handled, hrun, h⟩ := Option.bind_eq_some_iff.mp h
        cases h
        rcases processDhcp_cases hrun with ⟨hadapter, hinjected⟩ | ⟨type, hkind, hfound, hsrc, rfl⟩
        · refine .inl fun _ hhandled => ?_
          cases hhandled
          rw [hinjected]
          exact ⟨hadapter, hnone⟩
        · exact .inr ⟨eth, dhcp, type, ⟨henabled, hdhcp, hkind, hfound, hsrc⟩, rfl⟩
      · cases h
        refine .inl fun _ hhandled => ?_
        cases hhandled
        exact ⟨rfl, hnone⟩
    · cases h
      exact .inl fun _ h => nomatch h
  · cases h
    exact .inl fun _ h => nomatch h

/-- What a frame can do to the adapter, and what the driver may inject for it. -/
theorem transmitFilter_cases {data : List Byte} {r : Filtered}
    (h : transmitFilter memory a data = some r) :
    (r.adapter = a ∧ Short r.injected) ∨
      ∃ eth dhcp type, Message a data eth dhcp type ∧
        r = ⟨noteMessage a type.toNat dhcp,
          sendDhcpMsg memory a (replyType a type.toNat dhcp) eth dhcp, none⟩ := by
  have hnone : Short none := fun _ h => nomatch h
  have hrest : ∀ {r : Filtered}, forward memory a data = some r →
      r.adapter = a ∧ Short r.injected := by
    intro r h
    unfold forward at h
    split at h
    · exact pointToPoint_cases h
    · cases h
      exact ⟨rfl, hnone⟩
  unfold transmitFilter at h
  obtain ⟨masq, hmasq, h⟩ := Option.bind_eq_some_iff.mp h
  by_cases henabled : a.dhcpEnabled = true
  · rw [if_pos henabled] at hmasq
    rcases masquerade_cases henabled hmasq with hleft | ⟨eth, dhcp, type, hmessage, rfl⟩
    · match masq, h with
      | some ⟨true, b, injected⟩, h =>
          cases h
          exact .inl (hleft _ rfl)
      | some ⟨false, b, injected⟩, h =>
          obtain ⟨rfl, -⟩ := hleft _ rfl
          exact .inl (hrest h)
      | none, h => exact .inl (hrest h)
    · cases h
      exact .inr ⟨eth, dhcp, type, hmessage, rfl⟩
  · rw [if_neg henabled] at hmasq
    cases hmasq
    exact .inl (hrest h)

theorem noteMessage_hardware (a : TapAdapter) (msgType : Int) (dhcp : Dhcp) :
    hardware (noteMessage a msgType dhcp) = hardware a := by
  unfold noteMessage
  dsimp only
  split
  · split <;> rfl
  · split <;> rfl

/-- No frame reaches what only the system sets. -/
theorem transmitFilter_hardware {data : List Byte} {r : Filtered}
    (h : transmitFilter memory a data = some r) : hardware r.adapter = hardware a := by
  rcases transmitFilter_cases h with ⟨hsame, -⟩ | ⟨eth, dhcp, type, -, rfl⟩
  · rw [hsame]
  · exact noteMessage_hardware a _ dhcp

/-! ## Runs between two opens -/

/-- The adapter since it was opened, and the frames of the system with what was injected for
each, oldest first. -/
structure Session where
  adapter : TapAdapter
  log : List (List Byte × Option (List Byte))

/-- A request of the program, if it is one of those allowed, or a frame of the system; the next
begins when the one before has come back. -/
inductive SessionStep (allowed : Ioctl → Prop) : Session → Session → Prop where
  | ioctl {s : Session} (v : Version) {c : Ioctl} (hc : allowed c) :
      SessionStep allowed s { s with adapter := (ioctl v s.adapter c).1 }
  | transmit {s : Session} {memory : Bool} {data : List Byte} {r : Filtered}
      (h : transmitFilter memory s.adapter data = some r) :
      SessionStep allowed s ⟨r.adapter, s.log ++ [(data, r.injected)]⟩

/-- Whatever the program asks for. -/
abbrev AnyStep : Session → Session → Prop := SessionStep fun _ => True

/-- Two frames at once: the second is answered before anything of the first is remembered, and
is itself remembered after it. -/
inductive OverlapStep : Session → Session → Prop where
  | transmit {s : Session} {memory : Bool} {data data' : List Byte} {r r' after : Filtered}
      (h : transmitFilter memory s.adapter data = some r)
      (h' : transmitFilter memory s.adapter data' = some r')
      (hafter : transmitFilter memory r.adapter data' = some after) :
      OverlapStep s ⟨after.adapter, s.log ++ [(data, r.injected), (data', r'.injected)]⟩

/-- The device was opened just now. -/
def Opened (s : Session) : Prop := s.log = [] ∧ ∃ a, s.adapter = resetTapAdapterState a

/-- The message type of an injected reply. -/
def replyMessage (frame : List Byte) : Option Int :=
  if dhcpHeadersSize ≤ frame.length then
    getDhcpMessageType (frame.drop dhcpHeadersSize) (frame.length - dhcpHeadersSize)
  else none

/-- A frame was answered with a `DHCPACK`. -/
def isAck (e : List Byte × Option (List Byte)) : Bool :=
  e.2.any fun frame => decide (replyMessage frame = some (dhcpAck.toNat : Int))

/-- A frame carries a `DHCPDISCOVER`. -/
def isDiscover (e : List Byte × Option (List Byte)) : Bool :=
  decide (getDhcpMessageType (e.1.drop dhcpHeadersSize) (e.1.length - dhcpHeadersSize)
    = some (dhcpDiscover.toNat : Int))

/-- A client that named no address was granted one. -/
def isFreshLease (e : List Byte × Option (List Byte)) : Bool :=
  isAck e && (Dhcp.layout.read (e.1.drop 42)).any (fun dhcp => decide (dhcp.ciaddr = 0)) &&
    e.2.any fun frame => (DhcpPre.layout.read frame).any fun pre => decide (pre.dhcp.yiaddr ≠ 0)

theorem isAck_short {data : List Byte} {injected : Option (List Byte)} (h : Short injected) :
    isAck (data, injected) = false := by
  cases injected with
  | none => rfl
  | some frame =>
      have hlt := h frame rfl
      simp [isAck, replyMessage, Nat.not_le.mpr hlt]

/-- The type of an injected reply is the one it was sent with. -/
theorem replyMessage_eq {type : Byte} {frame : List Byte}
    (h : sendDhcpMsg memory a type eth dhcp = some frame) :
    replyMessage frame = some (type.toNat : Int) := by
  obtain ⟨pre, options, hreply⟩ := sendDhcpMsg_replyTo h
  have hle : dhcpHeadersSize ≤ frame.length := DhcpPre.layout.le_of_read hreply.read
  have hdrop : frame.drop dhcpHeadersSize = options := hreply.rest
  have hlen : frame.length - dhcpHeadersSize = options.length := by
    rw [← hdrop, List.length_drop]
  rw [replyMessage, if_pos hle, hdrop, hlen]
  exact hreply.message

/-- A `DHCPACK` answers a request that was not refused. -/
theorem isAck_replyType {data : List Byte} {type : Byte}
    (hkind : type = dhcpDiscover ∨ type = dhcpRequest)
    (h : isAck (data, sendDhcpMsg memory a (replyType a type.toNat dhcp) eth dhcp) = true) :
    type = dhcpRequest ∧ refuses a dhcp = false := by
  obtain ⟨frame, hsend, hack⟩ := (Option.any_eq_true _ _).mp h
  have htype : ((replyType a type.toNat dhcp).toNat : Int) = dhcpAck.toNat := by
    rw [replyMessage_eq hsend] at hack
    simpa using hack
  rcases hkind with rfl | rfl
  · have hoffer : replyType a dhcpDiscover.toNat dhcp = dhcpOffer := rfl
    rw [hoffer] at htype
    exact absurd htype (by decide)
  · refine ⟨rfl, ?_⟩
    cases hrefuse : refuses a dhcp with
    | false => rfl
    | true =>
        have hnak : replyType a dhcpRequest.toNat dhcp = dhcpNak := by
          rw [replyType, if_pos ⟨rfl, hrefuse⟩]
        rw [hnak] at htype
        exact absurd htype (by decide)

/-- A fresh lease is granted for an address the client did not name. -/
theorem isFreshLease_ne {data : List Byte} {type : Byte} (hmessage : Message a data eth dhcp type)
    (h : isFreshLease (data, sendDhcpMsg memory a (replyType a type.toNat dhcp) eth dhcp) = true) :
    dhcp.ciaddr ≠ a.dhcpAddr := by
  simp only [isFreshLease, Bool.and_eq_true] at h
  obtain ⟨⟨-, hzero⟩, haddr⟩ := h
  have hciaddr : dhcp.ciaddr = 0 := by
    rw [hmessage.dhcp_read] at hzero
    simpa using hzero
  obtain ⟨frame, hsend, hpre⟩ := (Option.any_eq_true _ _).mp haddr
  obtain ⟨pre, options, hreply⟩ := sendDhcpMsg_replyTo hsend
  rw [hreply.read] at hpre
  have hne : pre.dhcp.yiaddr ≠ 0 := by simpa using hpre
  rw [hreply.yiaddr] at hne
  split at hne
  · exact absurd rfl hne
  · rw [hciaddr]
    exact hne.symm

theorem checkIfDhcpAndTunMode_keeps (a : TapAdapter) :
    (checkIfDhcpAndTunMode a).dhcpBadRequests = a.dhcpBadRequests ∧
      (checkIfDhcpAndTunMode a).dhcpReceivedDiscover = a.dhcpReceivedDiscover := by
  unfold checkIfDhcpAndTunMode
  split <;> exact ⟨rfl, rfl⟩

/-- No request of the program makes the driver forget a client. -/
theorem ioctl_keeps (v : Version) (a : TapAdapter) (c : Ioctl) :
    (ioctl v a c).1.dhcpBadRequests = a.dhcpBadRequests ∧
      (ioctl v a c).1.dhcpReceivedDiscover = a.dhcpReceivedDiscover := by
  cases c with
  | configTun input =>
      simp only [ioctl, ioctlConfigTun]
      split
      · split
        · exact ⟨rfl, rfl⟩
        · exact checkIfDhcpAndTunMode_keeps _
      · exact ⟨rfl, rfl⟩
  | configPointToPoint input =>
      simp only [ioctl, ioctlConfigPointToPoint]
      split
      · exact checkIfDhcpAndTunMode_keeps _
      · exact ⟨rfl, rfl⟩
  | setMediaStatus input =>
      simp only [ioctl, ioctlSetMediaStatus]
      split
      · unfold setMediaStatus
        split <;> exact ⟨rfl, rfl⟩
      · exact ⟨rfl, rfl⟩
  | configDhcpMasq input =>
      simp only [ioctl, ioctlConfigDhcpMasq]
      split
      · exact checkIfDhcpAndTunMode_keeps _
      · exact ⟨rfl, rfl⟩
  | configDhcpSetOpt input =>
      simp only [ioctl, ioctlConfigDhcpSetOpt]
      split
      · split <;> exact ⟨rfl, rfl⟩
      · exact ⟨rfl, rfl⟩
  | getMac n => exact ⟨rfl, rfl⟩
  | getVersion n => exact ⟨rfl, rfl⟩
  | getMtu n => exact ⟨rfl, rfl⟩
  | other => exact ⟨rfl, rfl⟩

/-- A `DHCPACK` comes after a `DHCPDISCOVER`. -/
def AfterDiscover (log : List (List Byte × Option (List Byte)))
    (e : List Byte × Option (List Byte)) : Prop :=
  isAck e = true → ∃ d ∈ log, isDiscover d = true

/-- What holds of a session. -/
structure Accounted (s : Session) : Prop where
  /-- the counter runs no faster than the frames come -/
  bound : s.adapter.dhcpBadRequests.toNat ≤ s.log.length
  /-- while it has not run over, every fresh lease was counted -/
  counted : s.log.length < 2 ^ 32 →
    s.log.countP isFreshLease ≤ s.adapter.dhcpBadRequests.toNat ∧ s.log.countP isFreshLease ≤ 3
  discovered : s.adapter.dhcpReceivedDiscover = true → ∃ d ∈ s.log, isDiscover d = true
  acked : Along AfterDiscover [] s.log

/-- What a frame may do to the counter and to the flag. -/
structure Advances (a a' : TapAdapter) (e : List Byte × Option (List Byte)) : Prop where
  bad : a'.dhcpBadRequests = a.dhcpBadRequests ∨ a'.dhcpBadRequests = a.dhcpBadRequests + 1
  fresh : isFreshLease e = true →
    a.dhcpBadRequests.toNat < 3 ∧ a'.dhcpBadRequests = a.dhcpBadRequests + 1
  discover : a'.dhcpReceivedDiscover = true → a.dhcpReceivedDiscover = true ∨ isDiscover e = true
  ack : isAck e = true → a.dhcpReceivedDiscover = true

theorem Accounted.step {s : Session} (h : Accounted s) {a' : TapAdapter}
    {e : List Byte × Option (List Byte)} (hadv : Advances s.adapter a' e) :
    Accounted ⟨a', s.log ++ [e]⟩ := by
  have hone : (1 : BitVec 32).toNat = 1 := rfl
  have hbound := h.bound
  refine ⟨?_, ?_, ?_, ?_⟩
  · simp only [List.length_append, List.length_singleton]
    rcases hadv.bad with heq | heq
    · rw [heq]
      omega
    · rw [heq, BitVec.toNat_add, hone]
      omega
  · intro hlen
    simp only [List.length_append, List.length_singleton] at hlen
    obtain ⟨hcount, hmost⟩ := h.counted (by omega)
    rw [List.countP_append, List.countP_singleton]
    cases hfresh : isFreshLease e with
    | true =>
        obtain ⟨hfew, heq⟩ := hadv.fresh hfresh
        rw [heq, BitVec.toNat_add, hone, if_pos rfl]
        omega
    | false =>
        rw [if_neg (by simp)]
        refine ⟨?_, hmost⟩
        rcases hadv.bad with heq | heq
        · rw [heq]
          exact hcount
        · rw [heq, BitVec.toNat_add, hone]
          omega
  · intro hr
    rcases hadv.discover hr with hr' | he
    · obtain ⟨d, hd, hdisc⟩ := h.discovered hr'
      exact ⟨d, List.mem_append_left _ hd, hdisc⟩
    · exact ⟨e, by simp, he⟩
  · refine along_append.mpr ⟨h.acked, along_singleton.mpr ?_⟩
    intro hack
    exact h.discovered (hadv.ack hack)

/-- A message the adapter answers. -/
theorem Message.advances {data : List Byte} {type : Byte} (h : Message a data eth dhcp type) :
    Advances a (noteMessage a type.toNat dhcp)
      (data, sendDhcpMsg memory a (replyType a type.toNat dhcp) eth dhcp) := by
  have hdiscover : ((dhcpDiscover.toNat : Nat) : Int) ≠ (dhcpRequest.toNat : Nat) := by decide
  have hrefuses : refuses a dhcp = false →
      a.dhcpReceivedDiscover = true ∧ a.dhcpBadRequests.toNat < 3 := by
    intro hrefuse
    simp only [refuses, Bool.or_eq_false_iff, Bool.not_eq_eq_eq_not, Bool.not_false,
      decide_eq_false_iff_not, BitVec.not_le] at hrefuse
    exact ⟨hrefuse.1.2, hrefuse.2⟩
  refine ⟨?_, ?_, ?_, ?_⟩
  · unfold noteMessage
    rcases h.kind with rfl | rfl
    · simp [hdiscover]
    · simp only [hdiscover.symm, if_false]
      split
      · exact .inr rfl
      · exact .inl rfl
  · intro hfresh
    have hack : isAck (data, sendDhcpMsg memory a (replyType a type.toNat dhcp) eth dhcp) = true := by
      simp only [isFreshLease, Bool.and_eq_true] at hfresh
      exact hfresh.1.1
    obtain ⟨rfl, hrefuse⟩ := isAck_replyType h.kind hack
    refine ⟨(hrefuses hrefuse).2, ?_⟩
    have hne := isFreshLease_ne h hfresh
    simp [noteMessage, hdiscover.symm, hne]
  · intro hr
    rcases h.kind with rfl | rfl
    · right
      simpa [isDiscover] using h.found
    · left
      simp only [noteMessage, hdiscover.symm, if_false] at hr
      split at hr <;> exact hr
  · intro hack
    exact (hrefuses (isAck_replyType h.kind hack).2).1

/-- Every step accounts for what it does. -/
theorem Accounted.of_step {s s' : Session} (h : Accounted s) (hs : AnyStep s s') :
    Accounted s' := by
  cases hs with
  | @ioctl v c hc =>
      obtain ⟨hbad, hdisc⟩ := ioctl_keeps v s.adapter c
      exact ⟨hbad ▸ h.bound, hbad ▸ h.counted, hdisc ▸ h.discovered, h.acked⟩
  | @transmit memory data r hrun =>
      rcases transmitFilter_cases hrun with ⟨hsame, hshort⟩ | ⟨eth, dhcp, type, hmessage, rfl⟩
      · have hack : isAck (data, r.injected) = false := isAck_short hshort
        rw [hsame]
        exact h.step ⟨.inl rfl, fun hf => by simp [isFreshLease, hack] at hf, .inl,
          fun ha => by rw [hack] at ha; cases ha⟩
      · exact h.step hmessage.advances

/-- A message of the client of `leasing`, as a frame. -/
def messageFrame (type : Byte) : List Byte :=
  EthHeader.layout.bytes requestHeader ++
    IpHdr.layout.bytes ⟨0x45, 0, htons 272, 0, 0, 64, ipprotoUdp, 0, 0, BitVec.allOnes 32⟩ ++
    UdpHdr.layout.bytes ⟨htons bootpcPort, htons bootpsPort, htons 252, 0⟩ ++
    Dhcp.layout.bytes requestDhcp ++ [dhcpMsgType, 1, type, dhcpEnd]

/-- The words of the configuration of `leasing`. -/
def leasingInput : List Byte :=
  u32.bytes leasing.dhcpAddr ++ u32.bytes leasing.dhcpNetmask ++ u32.bytes leasing.dhcpServerIp ++
    u32.bytes leasing.dhcpLeaseTime

/-- The adapter opened and configured. -/
def configured : TapAdapter :=
  (ioctl ⟨9, 9⟩ (resetTapAdapterState leasing) (.configDhcpMasq leasingInput)).1

/-- One frame more. -/
def Session.transmit (s : Session) (data : List Byte) : Option Session := do
  let r ← transmitFilter true s.adapter data
  return ⟨r.adapter, s.log ++ [(data, r.injected)]⟩

/-- The same frame twice at once. -/
def Session.overlap (s : Session) (data : List Byte) : Option Session := do
  let r ← transmitFilter true s.adapter data
  let after ← transmitFilter true r.adapter data
  return ⟨after.adapter, s.log ++ [(data, r.injected), (data, r.injected)]⟩

/-- A client asks for an offer, and four times for the address, the last two at once. -/
def overlapSession : Option Session := do
  let s ← Session.transmit ⟨configured, []⟩ (messageFrame dhcpDiscover)
  let s ← s.transmit (messageFrame dhcpRequest)
  let s ← s.transmit (messageFrame dhcpRequest)
  s.overlap (messageFrame dhcpRequest)

theorem Session.step_of_transmit {s s' : Session} {data : List Byte}
    (h : s.transmit data = some s') : AnyStep s s' := by
  obtain ⟨r, hr, h⟩ := Option.bind_eq_some_iff.mp h
  cases h
  exact .transmit hr

theorem Session.step_of_overlap {s s' : Session} {data : List Byte}
    (h : s.overlap data = some s') : OverlapStep s s' := by
  obtain ⟨r, hr, h⟩ := Option.bind_eq_some_iff.mp h
  obtain ⟨after, hafter, h⟩ := Option.bind_eq_some_iff.mp h
  cases h
  exact .transmit hr hr hafter

theorem overlapSession_runs {s : Session} (h : overlapSession = some s) :
    Runs Opened (fun s s' => AnyStep s s' ∨ OverlapStep s s') s := by
  simp only [overlapSession, Option.bind_eq_bind, Option.bind_eq_some_iff] at h
  obtain ⟨s₁, h₁, s₂, h₂, s₃, h₃, h⟩ := h
  have hopen : Opened ⟨resetTapAdapterState leasing, []⟩ := ⟨rfl, leasing, rfl⟩
  have hset : Runs Opened (fun s s' => AnyStep s s' ∨ OverlapStep s s') ⟨configured, []⟩ :=
    (Runs.start hopen).next (.inl (.ioctl ⟨9, 9⟩ trivial))
  have hasked := hset.next (.inl (Session.step_of_transmit h₁))
  have hgranted := hasked.next (.inl (Session.step_of_transmit h₂))
  have htwice := hgranted.next (.inl (Session.step_of_transmit h₃))
  exact htwice.next (.inr (Session.step_of_overlap h))

end TapCfg.TapWin32
