/-
  TapWin32/Masquerade.lean --- where the DHCP server of the Windows driver is found.

  Source: drivers/windows/tap-win32/tapdrvr.c, lines 1660-1795, 1955-2190 and
  2800-2900; dhcp.c, lines 227-373.

  The server has no machine of its own.  Whoever looks for it by ARP is answered
  by the masquerade, or by the point-to-point mode when its address lies in the
  network of the tunnel; which of the two depends on what was configured last.
  The address of the server changes with what is configured; that takes the driver
  two steps, with no lock held between them, and the statements are about the
  states before and after.
-/
import TapCfg.TapWin32.Tunnel

set_option autoImplicit false

namespace TapCfg.TapWin32

open TapCfg.Foundation
open TapCfg.Foundation.Layout (htons u8 u16 u32 array)

/-! ## What the driver says for itself -/

/-- The frames the driver makes. -/
inductive Injects (a : TapAdapter) : List Byte → Prop where
  /-- a reply of the DHCP server -/
  | reply {memory : Bool} {type : Byte} {eth : EthHeader} {dhcp : Dhcp} {frame : List Byte}
      (h : sendDhcpMsg memory a type eth dhcp = some frame) : Injects a frame
  /-- the answer of the masquerade to a query for its server -/
  | server {arp : ArpPacket} (harp : a.dhcpServerArp = true)
      (hquery : isArpQuery a arp a.dhcpAddr a.dhcpServerIp (BitVec.allOnes 32) = true) :
      Injects a (ArpPacket.layout.bytes (arpReplyTo a arp a.dhcpAddr a.dhcpServerMac))
  /-- the answer of the point-to-point mode to a query for its network -/
  | tunnel {arp : ArpPacket} (htun : a.tun = true)
      (hquery : isArpQuery a arp a.localIP a.remoteNetwork a.remoteNetmask = true) :
      Injects a (ArpPacket.layout.bytes (arpReplyTo a arp a.localIP a.tapToUser.dest))
  | neighbour (ipv6 : Ipv6Hdr) :
      Injects a (Icmpv6NaPkt.layout.bytes (neighbourAdvertisement a ipv6))

variable {memory : Bool} {a : TapAdapter} {data frame : List Byte}

theorem processArp_injected {src : ArpPacket} {adapterIp ipNetwork ipNetmask : IpAddr}
    {mac : MacAddr}
    (h : (processArp memory a src adapterIp ipNetwork ipNetmask mac).injected = some frame) :
    isArpQuery a src adapterIp ipNetwork ipNetmask = true ∧
      frame = ArpPacket.layout.bytes (arpReplyTo a src adapterIp mac) := by
  unfold processArp at h
  split at h
  · rename_i hquery
    cases memory with
    | false => cases h
    | true =>
        cases h
        exact ⟨hquery, rfl⟩
  · cases h

theorem handleIpv6NeighborDiscovery_injected {r : Handled}
    (h : handleIpv6NeighborDiscovery memory a data = some r) (hr : r.injected = some frame) :
    Injects a frame := by
  unfold handleIpv6NeighborDiscovery at h
  obtain ⟨ipv6, -, h⟩ := Option.bind_eq_some_iff.mp h
  split at h
  · cases h
    cases hr
  split at h
  · cases h
    cases hr
  obtain ⟨type, -, h⟩ := Option.bind_eq_some_iff.mp h
  split at h
  · cases h
    cases hr
  obtain ⟨code, -, h⟩ := Option.bind_eq_some_iff.mp h
  split at h
  · cases h
    cases hr
  obtain ⟨target, -, h⟩ := Option.bind_eq_some_iff.mp h
  split at h
  · cases h
    cases hr
  split at h
  · cases h
    cases hr
  cases h
  cases hr
  exact .neighbour ipv6

theorem pointToPoint_injected {packet : TapPacket} {r : Filtered} (htun : a.tun = true)
    (h : pointToPoint memory a data packet = some r) (hr : r.injected = some frame) :
    Injects a frame := by
  unfold pointToPoint at h
  split at h
  · cases h
    cases hr
  obtain ⟨e, -, h⟩ := Option.bind_eq_some_iff.mp h
  split at h
  · split at h
    · cases h
      cases hr
    obtain ⟨arp, -, h⟩ := Option.bind_eq_some_iff.mp h
    cases h
    obtain ⟨hquery, rfl⟩ := processArp_injected hr
    exact .tunnel htun hquery
  split at h
  · split at h
    · cases h
      cases hr
    split at h
    · cases h
      cases hr
    · cases h
      cases hr
  split at h
  · split at h
    · cases h
      cases hr
    obtain ⟨handled, hrun, h⟩ := Option.bind_eq_some_iff.mp h
    split at h
    · cases h
      exact handleIpv6NeighborDiscovery_injected hrun hr
    · cases h
      cases hr
  · cases h
    cases hr

/-- The masquerade says nothing, answers for its server, or replies to a client. -/
theorem masquerade_injected {handled : Handled}
    (h : masquerade memory a data = some (some handled)) (hr : handled.injected = some frame) :
    Injects a frame := by
  unfold masquerade at h
  obtain ⟨eth, -, h⟩ := Option.bind_eq_some_iff.mp h
  split at h
  · rename_i harp
    obtain ⟨arp, -, h⟩ := Option.bind_eq_some_iff.mp h
    cases h
    obtain ⟨hquery, rfl⟩ := processArp_injected hr
    exact .server harp.2.2 hquery
  split at h
  · obtain ⟨ip, -, h⟩ := Option.bind_eq_some_iff.mp h
    obtain ⟨udp, -, h⟩ := Option.bind_eq_some_iff.mp h
    split at h
    · obtain ⟨dhcp, hdhcp, h⟩ := Option.bind_eq_some_iff.mp h
      dsimp only at h
      split at h
      · obtain ⟨other, hrun, h⟩ := Option.bind_eq_some_iff.mp h
        cases h
        rcases processDhcp_cases hrun with ⟨-, hnone⟩ | ⟨type, -, -, -, rfl⟩
        · rw [hnone] at hr
          cases hr
        · exact .reply hr
      · cases h
        cases hr
    · cases h
  · cases h

/-- Whatever the driver injects is one of its frames. -/
theorem transmitFilter_injects {r : Filtered} (h : transmitFilter memory a data = some r)
    (hr : r.injected = some frame) : Injects a frame := by
  have hforward : ∀ {r : Filtered}, forward memory a data = some r → r.injected = some frame →
      Injects a frame := by
    intro r h hr
    unfold forward at h
    split at h
    · rename_i htun
      exact pointToPoint_injected htun h hr
    · cases h
      cases hr
  unfold transmitFilter at h
  obtain ⟨masq, hmasq, h⟩ := Option.bind_eq_some_iff.mp h
  by_cases henabled : a.dhcpEnabled = true
  · rw [if_pos henabled] at hmasq
    match masq, h with
    | some ⟨true, b, injected⟩, h =>
        cases h
        exact masquerade_injected hmasq hr
    | some ⟨false, b, injected⟩, h =>
        rcases masquerade_cases henabled hmasq with hleft | ⟨eth, dhcp, type, -, heq⟩
        · obtain ⟨rfl, -⟩ := hleft _ rfl
          exact hforward h hr
        · cases heq
    | none, h => exact hforward h hr
  · rw [if_neg henabled] at hmasq
    cases hmasq
    exact hforward h hr

/-! ## One address -/

theorem generateRelatedMac_ne (mac : MacAddr) {delta : Byte} (h : delta ≠ 0) :
    generateRelatedMac mac delta ≠ mac := by
  intro heq
  have hbyte : (generateRelatedMac mac delta)[2] = mac[2] := by rw [heq]
  have hset : (generateRelatedMac mac delta)[2] = mac[2] + delta := by
    simp [generateRelatedMac]
  rw [hset] at hbyte
  have hsum := congrArg UInt8.toBitVec hbyte
  rw [UInt8.toBitVec_add] at hsum
  have hzero : delta.toBitVec = 0 := by
    simpa using hsum
  exact h (UInt8.toBitVec_inj.mp hzero)

theorem isArpQuery_destination {src : ArpPacket} {adapterIp ipNetwork ipNetmask : IpAddr}
    (h : isArpQuery a src adapterIp ipNetwork ipNetmask = true) :
    src.arpIpDestination &&& ipNetmask = ipNetwork := by
  unfold isArpQuery at h
  obtain ⟨-, -, -, -, -, -, -, -, -, -, hnetwork, -⟩ := of_decide_eq_true h
  exact hnetwork

/-- The addresses a frame of the driver shows for its server. -/
structure ShowsServer (a : TapAdapter) (frame : List Byte) : Prop where
  /-- an ARP answer for the server -/
  arp : ∀ reply, frame.length = 42 → ArpPacket.layout.read frame = some reply →
    reply.arpIpSource = a.dhcpServerIp →
      reply.arpMacSource = a.dhcpServerMac ∧ reply.macSource = a.dhcpServerMac
  /-- a reply of the server -/
  dhcp : ∀ pre, DhcpPre.layout.read frame = some pre →
    pre.eth.src = a.dhcpServerMac ∧ pre.ip.saddr = a.dhcpServerIp

theorem ShowsServer.of_arp {arp : ArpPacket} {adapterIp : IpAddr} {mac : MacAddr}
    (h : arp.arpIpDestination = a.dhcpServerIp → mac = a.dhcpServerMac) :
    ShowsServer a (ArpPacket.layout.bytes (arpReplyTo a arp adapterIp mac)) := by
  constructor
  · intro reply _ hread hip
    have hsame := ArpPacket.layout.read_bytes (arpReplyTo a arp adapterIp mac) []
    rw [List.append_nil, hread, Option.some.injEq] at hsame
    subst hsame
    exact ⟨h hip, h hip⟩
  · intro pre hread
    have hle := DhcpPre.layout.le_of_read hread
    rw [ArpPacket.layout.length_bytes] at hle
    exact absurd hle (by decide)

theorem Injects.showsServer (ha : Agreeing a) (hdhcp : a.dhcpEnabled = true)
    (h : Injects a frame) : ShowsServer a frame := by
  cases h with
  | @reply memory type eth dhcp _ h =>
      obtain ⟨-, options, -, -, rfl⟩ := sendDhcpMsg_eq_some h
      have hpre : ∀ x, (DhcpPre.layout.bytes x).length = 282 := DhcpPre.layout.length_bytes
      constructor
      · intro reply hlen
        rw [List.length_append, hpre] at hlen
        omega
      · intro pre hread
        rw [DhcpPre.layout.read_bytes, Option.some.injEq] at hread
        subst hread
        exact ⟨rfl, rfl⟩
  | server harp hquery => exact .of_arp fun _ => rfl
  | tunnel htun hquery =>
      refine .of_arp fun hip => ?_
      have hnetwork := isArpQuery_destination hquery
      rw [hip] at hnetwork
      exact (ha.enclosed htun hdhcp hnetwork).1.symm
  | neighbour ipv6 =>
      constructor
      · intro reply hlen
        rw [Icmpv6NaPkt.layout.length_bytes] at hlen
        exact absurd hlen (by decide)
      · intro pre hread
        have hle := DhcpPre.layout.le_of_read hread
        rw [Icmpv6NaPkt.layout.length_bytes] at hle
        exact absurd hle (by decide)

/-- The address 10.8.0.2 of a network with the server 10.8.0.1. -/
def masqInput : List Byte := [10, 8, 0, 2, 255, 255, 255, 0, 10, 8, 0, 1, 16, 14, 0, 0]

/-- The device is opened, and the server is set. -/
def serverSchedule : List Turn :=
  [.enter .create, .goOn .create, .goOn (.openTap true),
    .enter (.deviceControl ⟨9, 9⟩ (.configDhcpMasq masqInput))]

/-- The tunnel is set around the server. -/
def encloseTurn : Turn := .enter (.deviceControl ⟨9, 9⟩ (.configTun tunInput))

theorem serverSchedule_runs : ∃ p q, runOf plainAdapter serverSchedule = some p ∧
    schedule p [encloseTurn] = some q ∧ p.shared.adapter.dhcpEnabled = true ∧
      q.shared.adapter.dhcpEnabled = true ∧
      p.shared.adapter.dhcpServerMac ≠ q.shared.adapter.dhcpServerMac := by
  have hsome : ((runOf plainAdapter serverSchedule).any fun p =>
      (schedule p [encloseTurn]).any fun q =>
        decide (p.shared.adapter.dhcpEnabled = true ∧ q.shared.adapter.dhcpEnabled = true ∧
          p.shared.adapter.dhcpServerMac ≠ q.shared.adapter.dhcpServerMac)) = true := by
    decide +kernel
  obtain ⟨p, hp, hrest⟩ := (Option.any_eq_true _ _).mp hsome
  obtain ⟨q, hq, hdone⟩ := (Option.any_eq_true _ _).mp hrest
  exact ⟨p, q, hp, hq, of_decide_eq_true hdone⟩

/-- Whatever is configured and in whatever order: every frame the driver makes shows one hardware
address for its DHCP server, in the replies of the server and in the answers to whoever asks for
it by ARP, and that address is not the adapter's own.  Another configuration may make it another
address. -/
theorem server_has_one_address :
    (∀ p : Driver, Runs Plugged DriverStep p → p.shared.adapter.dhcpEnabled = true →
      p.shared.adapter.dhcpServerMac ≠ p.shared.adapter.mac ∧
        ∀ memory data r, transmitFilter memory p.shared.adapter data = some r →
          ∀ frame, r.injected = some frame → ShowsServer p.shared.adapter frame) ∧
    ∃ p q : Driver, Runs Plugged DriverStep p ∧ Runs (· = p) DriverStep q ∧
      p.shared.adapter.dhcpEnabled = true ∧ q.shared.adapter.dhcpEnabled = true ∧
      p.shared.adapter.dhcpServerMac ≠ q.shared.adapter.dhcpServerMac := by
  constructor
  · intro p h hdhcp
    have hagreeing := agreeing h
    constructor
    · rcases hagreeing.server hdhcp with hmac | hmac
      · rw [hmac]
        exact generateRelatedMac_ne _ (by decide)
      · rw [hmac]
        exact generateRelatedMac_ne _ (by decide)
    · intro memory data r hr frame hframe
      exact (transmitFilter_injects hr hframe).showsServer hagreeing hdhcp
  · obtain ⟨p, q, hp, hq, hservers⟩ := serverSchedule_runs
    exact ⟨p, q, runOf_plugged rfl rfl hp, schedule_runs (.start rfl) hq, hservers⟩

/-! ## Finding the server -/

/-- The address from which the server is looked for. -/
def askerIp (a : TapAdapter) : IpAddr := if a.dhcpServerArp then a.dhcpAddr else a.localIP

/-- The query for the server. -/
def serverQuery (a : TapAdapter) : ArpPacket where
  macDestination := a.macBroadcast
  macSource := a.mac
  proto := htons ethPArp
  macAddressType := htons macAddrType
  protoAddressType := htons ethPIp
  macAddressSize := 6
  protoAddressSize := 4
  arpOperation := htons arpRequest
  arpMacSource := a.mac
  arpIpSource := askerIp a
  arpMacDestination := Vector.replicate 6 0
  arpIpDestination := a.dhcpServerIp

/-- The server can be found: by the masquerade, or in the network of the tunnel. -/
def Findable (a : TapAdapter) : Prop :=
  a.dhcpEnabled = true → a.dhcpServerArp = true ∨
    a.tun = true ∧ a.dhcpServerIp &&& a.remoteNetmask = a.remoteNetwork

/-- The tunnel is not moved while the server is in it. -/
def Stays (a a' : TapAdapter) : Prop :=
  a.dhcpEnabled = true → a.dhcpServerArp = false → a'.dhcpEnabled = true →
    a'.tun = a.tun ∧ a'.remoteNetwork = a.remoteNetwork ∧ a'.remoteNetmask = a.remoteNetmask

theorem Findable.check {b : TapAdapter} (h : b.dhcpEnabled = true → b.dhcpServerArp = true ∨
    b.tun = true ∧ b.dhcpServerIp &&& b.remoteNetmask = b.remoteNetwork) :
    Findable (checkIfDhcpAndTunMode b) := by
  unfold checkIfDhcpAndTunMode
  split
  · rename_i hboth
    intro _
    exact .inr ⟨hboth.1, hboth.2.2⟩
  · exact h

theorem Findable.of_settings {a b : TapAdapter} (h : Findable a) (hsame : settings b = settings a) :
    Findable b := by
  simp only [settings, Prod.mk.injEq] at hsame
  obtain ⟨-, htun, -, -, -, hdhcp, -, harp, hip, hnet, hmask⟩ := hsame
  unfold Findable
  rw [hdhcp, harp, htun, hip, hmask, hnet]
  exact h

/-- Nothing happens to the server when the tunnel is moved before the server is in it, or stays. -/
theorem Findable.tunnel {a b : TapAdapter} (h : Findable a) (hdhcp : b.dhcpEnabled = a.dhcpEnabled)
    (hip : b.dhcpServerIp = a.dhcpServerIp)
    (harp : b.dhcpServerArp = a.dhcpServerArp ∨
      b.tun = true ∧ b.dhcpServerIp &&& b.remoteNetmask = b.remoteNetwork)
    (hstays : Stays a b) : Findable b := by
  intro henabled
  rcases harp with harp | hinside
  · cases hserver : a.dhcpServerArp with
    | true => exact .inl (harp.trans hserver)
    | false =>
        rw [hdhcp] at henabled
        obtain ⟨htun, hnet, hmask⟩ := hstays henabled hserver (hdhcp.trans henabled)
        rcases h henabled with hfound | hfound
        · rw [hserver] at hfound
          cases hfound
        · rw [htun, hip, hmask, hnet]
          exact .inr hfound
  · exact .inr hinside

/-- What setting the point-to-point mode does to the server. -/
theorem enterTun_server (a : TapAdapter) :
    (enterTun a).dhcpEnabled = a.dhcpEnabled ∧ (enterTun a).dhcpServerIp = a.dhcpServerIp ∧
      ((enterTun a).dhcpServerArp = a.dhcpServerArp ∨ (enterTun a).tun = true ∧
        (enterTun a).dhcpServerIp &&& (enterTun a).remoteNetmask = (enterTun a).remoteNetwork) := by
  unfold enterTun checkIfDhcpAndTunMode
  dsimp only
  split
  · rename_i hboth
    exact ⟨rfl, rfl, .inr ⟨rfl, hboth.2.2⟩⟩
  · exact ⟨rfl, rfl, .inl rfl⟩

theorem Findable.ioctl {a : TapAdapter} (h : Findable a) (v : Version) (c : Ioctl)
    (hstays : Stays a (ioctl v a c).1) : Findable (ioctl v a c).1 := by
  cases c with
  | configTun input =>
      simp only [TapWin32.ioctl, ioctlConfigTun] at hstays ⊢
      split
      · rename_i hlen
        rw [if_pos hlen] at hstays
        split
        · rename_i hinsane
          rw [if_pos hinsane] at hstays
          exact h.tunnel rfl rfl (.inl rfl) hstays
        · rename_i hsane
          rw [if_neg hsane] at hstays
          obtain ⟨hdhcp, hip, harp⟩ := enterTun_server _
          exact h.tunnel hdhcp hip harp hstays
      · exact h
  | configPointToPoint input =>
      simp only [TapWin32.ioctl, ioctlConfigPointToPoint] at hstays ⊢
      split
      · rename_i hlen
        rw [if_pos hlen] at hstays
        obtain ⟨hdhcp, hip, harp⟩ := enterTun_server _
        exact h.tunnel hdhcp hip harp hstays
      · exact h
  | setMediaStatus input =>
      simp only [TapWin32.ioctl, ioctlSetMediaStatus]
      split
      · exact h.of_settings (setMediaStatus_settings a _)
      · exact h
  | configDhcpMasq input =>
      simp only [TapWin32.ioctl, ioctlConfigDhcpMasq]
      split
      · exact .check fun _ => .inl rfl
      · exact h
  | configDhcpSetOpt input =>
      simp only [TapWin32.ioctl, ioctlConfigDhcpSetOpt]
      split
      · split
        · exact h.of_settings rfl
        · exact h
      · exact h
  | getMac n => exact h
  | getVersion n => exact h
  | getMtu n => exact h
  | other => exact h

theorem Findable.step {a a' : TapAdapter} (h : Findable a) (hs : AdapterStep a a')
    (hstays : Stays a a') : Findable a' := by
  cases hs with
  | same => exact h
  | ioctl v c => exact h.ioctl v c hstays
  | power on => exact h.of_settings rfl
  | filter hr =>
      rcases transmitFilter_cases hr with ⟨hsame, -⟩ | ⟨eth, dhcp, type, -, rfl⟩
      · rw [hsame]
        exact h
      · exact h.of_settings (noteMessage_settings a _ dhcp)
  | reset => exact nofun
  | disconnect => exact h.of_settings (setMediaStatus_settings a 0)

theorem read_arpPacket (arp : ArpPacket) :
    EthHeader.layout.read (ArpPacket.layout.bytes arp) =
      some ⟨arp.macDestination, arp.macSource, arp.proto⟩ := by
  have hbytes : ∃ rest, ArpPacket.layout.bytes arp =
      EthHeader.layout.bytes ⟨arp.macDestination, arp.macSource, arp.proto⟩ ++ rest := by
    refine ⟨(u16.pair <| u16.pair <| u8.pair <| u8.pair <| u16.pair <| (array 6).pair <|
      u32.pair <| (array 6).pair u32).bytes
      (arp.macAddressType, arp.protoAddressType, arp.macAddressSize, arp.protoAddressSize,
        arp.arpOperation, arp.arpMacSource, arp.arpIpSource, arp.arpMacDestination,
        arp.arpIpDestination), ?_⟩
    simp only [ArpPacket.layout, EthHeader.layout, Layout.struct, Layout.pair, List.append_assoc]
  obtain ⟨rest, hrest⟩ := hbytes
  rw [hrest, EthHeader.layout.read_bytes]

theorem isArpQuery_serverQuery {ipNetwork ipNetmask : IpAddr}
    (hnetwork : a.dhcpServerIp &&& ipNetmask = ipNetwork) (hne : askerIp a ≠ a.dhcpServerIp) :
    isArpQuery a (serverQuery a) (askerIp a) ipNetwork ipNetmask = true := by
  unfold isArpQuery serverQuery
  simp [hnetwork, Ne.symm hne]

/-- A server that can be found is found. -/
theorem serverQuery_answered (ha : Agreeing a) (hf : Findable a) (hdhcp : a.dhcpEnabled = true)
    (hne : askerIp a ≠ a.dhcpServerIp) :
    transmitFilter true a (ArpPacket.layout.bytes (serverQuery a)) = some ⟨a,
      some (ArpPacket.layout.bytes (arpReplyTo a (serverQuery a) (askerIp a) a.dhcpServerMac)),
      none⟩ := by
  have hlen : (ArpPacket.layout.bytes (serverQuery a)).length = 42 := ArpPacket.layout.length_bytes _
  have heth := read_arpPacket (serverQuery a)
  have harp := ArpPacket.layout.read_bytes (serverQuery a) []
  rw [List.append_nil] at harp
  unfold transmitFilter
  rw [if_pos hdhcp]
  cases hserver : a.dhcpServerArp with
  | true =>
      have hasker : askerIp a = a.dhcpAddr := if_pos hserver
      have hquery := isArpQuery_serverQuery (BitVec.and_allOnes) hne
      have hmasq : masquerade true a (ArpPacket.layout.bytes (serverQuery a)) = some (some ⟨true, a,
          some (ArpPacket.layout.bytes (arpReplyTo a (serverQuery a) a.dhcpAddr
            a.dhcpServerMac))⟩) := by
        unfold masquerade
        rw [heth]
        simp only [Option.bind_eq_bind, Option.bind_some]
        rw [if_pos ⟨hlen, rfl, hserver⟩, harp]
        simp only [Option.bind_some]
        rw [hasker] at hquery
        rw [processArp, if_pos hquery]
        rfl
      rw [hmasq, hasker]
      rfl
  | false =>
      have hasker : askerIp a = a.localIP := by
        unfold askerIp
        rw [hserver]
        rfl
      have hinside : a.tun = true ∧ a.dhcpServerIp &&& a.remoteNetmask = a.remoteNetwork := by
        rcases hf hdhcp with hfound | hfound
        · rw [hserver] at hfound
          cases hfound
        · exact hfound
      have hquery := isArpQuery_serverQuery hinside.2 hne
      have hmasq : masquerade true a (ArpPacket.layout.bytes (serverQuery a)) = some none := by
        unfold masquerade
        rw [heth]
        simp only [Option.bind_eq_bind, Option.bind_some]
        rw [if_neg, if_neg]
        · rfl
        · intro hlong
          rw [hlen] at hlong
          exact absurd hlong.1 (by decide)
        · intro hall
          rw [hserver] at hall
          exact absurd hall.2.2 (by decide)
      rw [hmasq]
      show forward true a _ = _
      unfold forward pointToPoint
      rw [if_pos hinside.1, hlen, if_neg (by decide), heth]
      simp only [Option.bind_eq_bind, Option.bind_some]
      rw [if_pos (show (serverQuery a).proto = htons ethPArp from rfl), if_neg (by simp), harp]
      rw [hasker] at hquery
      simp only [Option.bind_some]
      rw [processArp, if_pos hquery, (ha.enclosed hinside.1 hdhcp hinside.2).1, hasker]
      rfl

theorem findable {p : Driver}
    (h : Runs Plugged (Provided DriverStep fun p p' => Stays p.shared.adapter p'.shared.adapter) p) :
    Findable p.shared.adapter ∧ Runs Plugged DriverStep p := by
  refine h.invariant (I := fun p => Findable p.shared.adapter ∧ Runs Plugged DriverStep p) ?_ ?_
  · intro p hp
    refine ⟨?_, .start hp⟩
    obtain ⟨⟨a, ha, -, hdhcp⟩, -⟩ := hp
    rw [ha]
    intro henabled
    exact absurd (hdhcp.symm.trans henabled) (by decide)
  · rintro p p' ⟨hfindable, hruns⟩ ⟨hs, hstays⟩
    refine ⟨?_, hruns.next hs⟩
    cases hs with
    | spawn hb => exact hfindable.step hb.adapter hstays
    | advance hg => exact hfindable.step hg.adapter hstays

/-- A server outside the tunnel that the masquerade does not answer for. -/
def Lost (a : TapAdapter) : Prop :=
  a.dhcpServerArp = false ∧ a.dhcpServerIp &&& a.remoteNetmask ≠ a.remoteNetwork

/-- Nobody answers for a server that is lost. -/
theorem Injects.not_server (h : Injects a frame) (hlost : Lost a) {reply : ArpPacket}
    (hlen : frame.length = 42) (hread : ArpPacket.layout.read frame = some reply) :
    reply.arpIpSource ≠ a.dhcpServerIp := by
  intro hip
  cases h with
  | @reply memory type eth dhcp _ h =>
      obtain ⟨-, options, -, -, rfl⟩ := sendDhcpMsg_eq_some h
      rw [List.length_append, DhcpPre.layout.length_bytes, size_dhcpPre] at hlen
      omega
  | server harp hquery =>
      rw [hlost.1] at harp
      cases harp
  | @tunnel arp htun hquery =>
      have hsame := ArpPacket.layout.read_bytes (arpReplyTo a arp a.localIP a.tapToUser.dest) []
      rw [List.append_nil, hread, Option.some.injEq] at hsame
      subst hsame
      have hnetwork := isArpQuery_destination hquery
      rw [show arp.arpIpDestination = a.dhcpServerIp from hip] at hnetwork
      exact hlost.2 hnetwork
  | neighbour ipv6 =>
      rw [Icmpv6NaPkt.layout.length_bytes] at hlen
      exact absurd hlen (by decide)

/-- The words 10.8.0.2, 10.9.0.0 and 255.255.255.0. -/
def movedInput : List Byte := [10, 8, 0, 2, 10, 9, 0, 0, 255, 255, 255, 0]

/-- The server is set, the tunnel around it, and then the tunnel elsewhere. -/
def movedSchedule : List Turn :=
  serverSchedule ++ [encloseTurn, .enter (.deviceControl ⟨9, 9⟩ (.configTun movedInput))]

theorem movedSchedule_runs : ∃ p, runOf plainAdapter movedSchedule = some p ∧
    p.shared.adapter.dhcpEnabled = true ∧ Lost p.shared.adapter := by
  have hsome : ((runOf plainAdapter movedSchedule).any fun p =>
      decide (p.shared.adapter.dhcpEnabled = true ∧ p.shared.adapter.dhcpServerArp = false ∧
        p.shared.adapter.dhcpServerIp &&& p.shared.adapter.remoteNetmask ≠
          p.shared.adapter.remoteNetwork)) = true := by
    decide +kernel
  obtain ⟨p, hp, hdone⟩ := (Option.any_eq_true _ _).mp hsome
  obtain ⟨hdhcp, hlost⟩ := of_decide_eq_true hdone
  exact ⟨p, hp, hdhcp, hlost⟩

end TapCfg.TapWin32
