/-
  TapWin32/Tunnel.lean --- what the program reads is what the system sent.

  Source: drivers/windows/tap-win32/tapdrvr.c, lines 1588-1805, 1955-2042,
  2360-2490 and 2599-2680.

  In point-to-point mode the program sees no Ethernet header: the driver takes
  it off every packet, and puts one in front of whatever is written.  The three
  headers it keeps for that are set with the mode, so that no run of the driver
  leaves the one without the others.
-/
import TapCfg.TapWin32.Draining

set_option autoImplicit false

namespace TapCfg.TapWin32

open TapCfg.Foundation
open TapCfg.Foundation.Layout (htons)

/-! ## What happens to the adapter -/

/-- What a section can do to the adapter. -/
inductive AdapterStep : TapAdapter → TapAdapter → Prop where
  | same {a : TapAdapter} : AdapterStep a a
  | ioctl {a : TapAdapter} (v : Version) (c : Ioctl) : AdapterStep a (ioctl v a c).1
  | power {a : TapAdapter} (on : Bool) : AdapterStep a { a with interfaceIsRunning := on }
  | filter {a : TapAdapter} {memory : Bool} {data : List Byte} {r : Filtered}
      (h : transmitFilter memory a data = some r) : AdapterStep a r.adapter
  | reset {a : TapAdapter} : AdapterStep a (resetTapAdapterState a)
  | disconnect {a : TapAdapter} : AdapterStep a (setMediaStatus a 0)

@[simp] theorem TapDevice.note_adapter (d : TapDevice) (e : Event) :
    (d.note e).adapter = d.adapter := rfl

theorem beginRead_adapter (d : TapDevice) (irp : Irp) (mdl : MdlAddress) :
    (beginRead d irp mdl).1.adapter = d.adapter := by
  unfold beginRead
  dsimp only
  split
  · rfl
  cases mdl with
  | null => rfl
  | unmapped => rfl
  | mapped =>
      dsimp only
      split <;> rfl

theorem noteFrame_adapter (d : TapDevice) (frame : Option (List Byte)) :
    (noteFrame d frame).adapter = d.adapter := by
  cases frame <;> rfl

theorem pushPacket_adapter (d : TapDevice) (packet : TapPacket) :
    (pushPacket d packet).1.adapter = d.adapter := by
  unfold pushPacket
  split
  · dsimp only
    split <;> rfl
  · rfl

theorem cyclePackets_adapter (d : TapDevice) : (cyclePackets d).1.adapter = d.adapter := by
  unfold cyclePackets
  dsimp only
  split
  · split <;> rfl
  · rfl

theorem immediateService_adapter (d : TapDevice) (irp : Irp) :
    (immediateService d irp).1.adapter = d.adapter := by
  unfold immediateService
  dsimp only
  split
  · split <;> rfl
  · rfl

theorem pendRead_adapter (d : TapDevice) (irp : Irp) :
    (pendRead d irp).1.adapter = d.adapter := by
  unfold pendRead
  split
  · dsimp only
    split <;> rfl
  · rfl

theorem cancelIrp_adapter (d : TapDevice) (irp : Irp) :
    (cancelIrp d irp).1.adapter = d.adapter := by
  unfold cancelIrp
  dsimp only
  split <;> rfl

theorem flushIrpQueue_adapter (d : TapDevice) (closing : Bool) :
    (flushIrpQueue d closing).1.adapter = d.adapter := by
  unfold flushIrpQueue
  dsimp only
  split <;> rfl

theorem flushPacketQueue_adapter (d : TapDevice) (closing : Bool) :
    (flushPacketQueue d closing).1.adapter = d.adapter := by
  unfold flushPacketQueue
  dsimp only
  split <;> rfl

theorem flushInjectQueue_adapter (d : TapDevice) (closing : Bool) :
    (flushInjectQueue d closing).1.adapter = d.adapter := by
  unfold flushInjectQueue
  dsimp only
  split
  · rfl
  · split <;> rfl

/-- A section that leaves the adapter alone. -/
theorem AdapterStep.of_run {d d' : TapDevice} {k' : Option Activity}
    {r : TapDevice × Option Activity} (h : some r = some (d', k'))
    (hsame : r.1.adapter = d.adapter) : AdapterStep d.adapter d'.adapter := by
  cases h
  rw [hsame]
  exact .same

theorem Begins.adapter {d d' : TapDevice} {k : Option Activity} (h : Begins d d' k) :
    AdapterStep d.adapter d'.adapter := by
  obtain ⟨c, h⟩ := h
  cases c with
  | transmit room memory deferred length buffers =>
      rcases enter_transmit h with ⟨data, -, rfl, -⟩ | ⟨rfl, -⟩
      · exact .same
      · exact .same
  | cancel found irp =>
      rcases enter_cancel h with ⟨rfl, -⟩ | ⟨-, rfl, -⟩
      · exact .same
      · exact .same
  | read irp mdl =>
      simp only [Call.enter] at h
      split at h
      · cases h
      · exact .of_run h (beginRead_adapter d irp mdl)
  | writeFile data =>
      refine .of_run h ?_
      dsimp only
      split
      · rfl
      · exact noteFrame_adapter d _
  | deviceControl v c =>
      cases h
      split
      · exact .same
      · exact .ioctl v c
  | power on =>
      cases h
      exact .power on
  | halt =>
      simp only [Call.enter] at h
      split at h
      · cases h
      · cases h
        exact .power false
  | dpc =>
      simp only [Call.enter] at h
      split at h
      · exact .of_run h rfl
      · cases h
  | _ => exact .of_run h rfl

theorem Goes.adapter {k : Activity} {d d' : TapDevice} {k' : Option Activity}
    (h : Goes k d d' k') : AdapterStep d.adapter d'.adapter := by
  cases k with
  | transmit memory deferred data =>
      obtain ⟨r, hr, hd⟩ := Option.map_eq_some_iff.mp h
      cases hd
      exact .filter hr
  | create =>
      simp only [Goes, Activity.run] at h
      split at h
      · cases h
      · exact .of_run h rfl
  | openTap available =>
      cases available with
      | true =>
          cases h
          exact .reset
      | false => exact .of_run h rfl
  | close =>
      simp only [Goes, Activity.run] at h
      split at h
      · cases h
      · cases h
        exact .reset
  | release =>
      cases h
      exact .disconnect
  | push packet => exact .of_run h (pushPacket_adapter d packet)
  | cycle => exact .of_run h (cyclePackets_adapter d)
  | immediate irp => exact .of_run h (immediateService_adapter d irp)
  | pend irp => exact .of_run h (pendRead_adapter d irp)
  | cancel irp => exact .of_run h (cancelIrp_adapter d irp)
  | flushIrps closing => exact .of_run h (flushIrpQueue_adapter d closing)
  | flushPackets closing => exact .of_run h (flushPacketQueue_adapter d closing)
  | flushInject closing => exact .of_run h (flushInjectQueue_adapter d closing)
  | _ => exact .of_run h rfl

/-! ## The headers of the tunnel -/

/-- The header of what the system sends through the tunnel. -/
def outward (mac : MacAddr) : EthHeader := ⟨generateRelatedMac mac 1, mac, htons ethPIp⟩

/-- The header of what comes out of the tunnel. -/
def inward (mac : MacAddr) (proto : BitVec 16) : EthHeader :=
  ⟨mac, generateRelatedMac mac 1, htons proto⟩

/-- The settings of an adapter that a program can change agree with each other. -/
structure Agreeing (a : TapAdapter) : Prop where
  headers : a.tun = true → a.tapToUser = outward a.mac ∧ a.userToTap = inward a.mac ethPIp ∧
    a.userToTapIpv6 = inward a.mac ethPIpv6
  server : a.dhcpEnabled = true →
    a.dhcpServerMac = generateRelatedMac a.mac 1 ∨ a.dhcpServerMac = generateRelatedMac a.mac 2
  /-- a server within the tunnel has the address of its other end -/
  enclosed : a.tun = true → a.dhcpEnabled = true →
    a.dhcpServerIp &&& a.remoteNetmask = a.remoteNetwork →
      a.dhcpServerMac = a.tapToUser.dest ∧ a.dhcpServerArp = false

theorem Agreeing.of_off {a : TapAdapter} (htun : a.tun = false) (hdhcp : a.dhcpEnabled = false) :
    Agreeing a := by
  refine ⟨?_, ?_, ?_⟩
  · intro h
    rw [htun] at h
    cases h
  · intro h
    rw [hdhcp] at h
    cases h
  · intro h
    rw [htun] at h
    cases h

/-- What the driver does whenever one of the two modes was set. -/
theorem Agreeing.check {a : TapAdapter}
    (hheaders : a.tun = true → a.tapToUser = outward a.mac ∧ a.userToTap = inward a.mac ethPIp ∧
      a.userToTapIpv6 = inward a.mac ethPIpv6)
    (hserver : a.dhcpEnabled = true →
      a.dhcpServerMac = generateRelatedMac a.mac 1 ∨ a.dhcpServerMac = generateRelatedMac a.mac 2) :
    Agreeing (checkIfDhcpAndTunMode a) := by
  unfold checkIfDhcpAndTunMode
  split
  · rename_i hboth
    refine ⟨hheaders, ?_, ?_⟩
    · intro _
      rw [(hheaders hboth.1).1]
      exact .inl rfl
    · intro _ _ _
      exact ⟨rfl, rfl⟩
  · rename_i hboth
    refine ⟨hheaders, hserver, ?_⟩
    intro htun hdhcp henclosed
    exact absurd ⟨htun, hdhcp, henclosed⟩ hboth

theorem Agreeing.enterTun {a : TapAdapter}
    (hserver : a.dhcpEnabled = true →
      a.dhcpServerMac = generateRelatedMac a.mac 1 ∨ a.dhcpServerMac = generateRelatedMac a.mac 2) :
    Agreeing (enterTun a) :=
  .check (fun _ => ⟨rfl, rfl, rfl⟩) hserver

/-- The settings that must agree. -/
def settings (a : TapAdapter) :
    MacAddr × Bool × EthHeader × EthHeader × EthHeader × Bool × MacAddr × Bool × IpAddr × IpAddr ×
      IpAddr :=
  (a.mac, a.tun, a.tapToUser, a.userToTap, a.userToTapIpv6, a.dhcpEnabled, a.dhcpServerMac,
    a.dhcpServerArp, a.dhcpServerIp, a.remoteNetwork, a.remoteNetmask)

theorem Agreeing.of_settings {a b : TapAdapter} (h : Agreeing a) (hsame : settings b = settings a) :
    Agreeing b := by
  simp only [settings, Prod.mk.injEq] at hsame
  obtain ⟨hmac, htun, htapToUser, huserToTap, hipv6, hdhcp, hserver, harp, hip, hnet, hmask⟩ := hsame
  refine ⟨?_, ?_, ?_⟩
  · rw [htun, htapToUser, huserToTap, hipv6, hmac]
    exact h.headers
  · rw [hdhcp, hserver, hmac]
    exact h.server
  · rw [htun, hdhcp, hip, hmask, hnet, hserver, htapToUser, harp]
    exact h.enclosed

theorem setMediaStatus_settings (a : TapAdapter) (state : Byte) :
    settings (setMediaStatus a state) = settings a := by
  unfold setMediaStatus
  split <;> rfl

theorem noteMessage_settings (a : TapAdapter) (msgType : Int) (dhcp : Dhcp) :
    settings (noteMessage a msgType dhcp) = settings a := by
  unfold noteMessage
  dsimp only
  split
  · split <;> rfl
  · split <;> rfl

theorem Agreeing.ioctl {a : TapAdapter} (h : Agreeing a) (v : Version) (c : Ioctl) :
    Agreeing (ioctl v a c).1 := by
  cases c with
  | configTun input =>
      simp only [TapWin32.ioctl, ioctlConfigTun]
      split
      · split
        · exact ⟨fun htun => absurd htun Bool.false_ne_true, h.server,
            fun htun => absurd htun Bool.false_ne_true⟩
        · exact .enterTun h.server
      · exact h
  | configPointToPoint input =>
      simp only [TapWin32.ioctl, ioctlConfigPointToPoint]
      split
      · exact .enterTun h.server
      · exact h
  | setMediaStatus input =>
      simp only [TapWin32.ioctl, ioctlSetMediaStatus]
      split
      · exact h.of_settings (setMediaStatus_settings a _)
      · exact h
  | configDhcpMasq input =>
      simp only [TapWin32.ioctl, ioctlConfigDhcpMasq]
      split
      · exact .check h.headers fun _ => .inr rfl
      · exact h
  | configDhcpSetOpt input =>
      simp only [TapWin32.ioctl, ioctlConfigDhcpSetOpt]
      split
      · split
        · exact h.of_settings rfl
        · exact h
      · exact h
  | getMac n => exact h
  | getVersion n => exact h
  | getMtu n => exact h
  | other => exact h

theorem Agreeing.step {a a' : TapAdapter} (h : Agreeing a) (hs : AdapterStep a a') : Agreeing a' := by
  cases hs with
  | same => exact h
  | ioctl v c => exact h.ioctl v c
  | power on => exact h.of_settings rfl
  | filter hr =>
      rcases transmitFilter_cases hr with ⟨hsame, -⟩ | ⟨eth, dhcp, type, -, rfl⟩
      · rw [hsame]
        exact h
      · exact h.of_settings (noteMessage_settings a _ dhcp)
  | reset => exact .of_off rfl rfl
  | disconnect => exact h.of_settings (setMediaStatus_settings a 0)

theorem AdapterStep.mac {a a' : TapAdapter} (hs : AdapterStep a a') : a'.mac = a.mac := by
  cases hs with
  | same => rfl
  | ioctl v c => exact congrArg Prod.fst (ioctl_hardware v a c)
  | power on => rfl
  | filter hr => exact congrArg Prod.fst (transmitFilter_hardware hr)
  | reset => rfl
  | disconnect => exact congrArg Prod.fst (setMediaStatus_hardware a 0)

/-- `AdapterCreate` makes an adapter in memory that is zero: no mode is set. -/
def Plugged (p : Driver) : Prop :=
  (∃ a, p.shared = createTapDevice a ∧ a.tun = false ∧ a.dhcpEnabled = false) ∧ p.active = 0

theorem Plugged.created {p : Driver} (h : Runs Plugged DriverStep p) : Runs Created DriverStep p := by
  refine Runs.map id ?_ (fun _ _ hs => hs) h
  rintro p ⟨⟨a, ha, -, -⟩, hactive⟩
  exact ⟨⟨a, ha⟩, hactive⟩

theorem agreeing {p : Driver} (h : Runs Plugged DriverStep p) : Agreeing p.shared.adapter := by
  refine h.invariant (I := fun p => Agreeing p.shared.adapter) ?_ ?_
  · rintro p ⟨⟨a, ha, htun, hdhcp⟩, -⟩
    rw [ha]
    exact .of_off htun hdhcp
  · intro p p' hp hs
    cases hs with
    | spawn hb => exact hp.step hb.adapter
    | advance hg => exact hp.step hg.adapter

/-! ## Packets -/

/-- The packet of a frame whose header the program does not see. -/
def tunPacketOf (data : List Byte) : TapPacket :=
  { packetOf data with sizeFlags := (packetOf data).sizeFlags ||| tpTun }

/-- A packet carries a frame of the system: whole, or its payload, which is of IP. -/
inductive Carries (mac : MacAddr) (frame : List Byte) : TapPacket → Prop where
  | whole : Carries mac frame (packetOf frame)
  | ipv4 (heth : EthHeader.layout.read frame = some (outward mac)) (hlen : 34 ≤ frame.length) :
      Carries mac frame (tunPacketOf frame)
  | ipv6 {eth : EthHeader} (heth : EthHeader.layout.read frame = some eth)
      (hproto : eth.proto = htons ethPIpv6) (hlen : 54 ≤ frame.length) :
      Carries mac frame (tunPacketOf frame)

/-- What point-to-point mode queues of a frame. -/
theorem pointToPoint_queued {memory : Bool} {a : TapAdapter} {data : List Byte} {r : Filtered}
    {packet : TapPacket} (hto : a.tapToUser = outward a.mac)
    (h : pointToPoint memory a data (packetOf data) = some r) (hq : r.queued = some packet) :
    packet = tunPacketOf data ∧ Carries a.mac data packet := by
  unfold pointToPoint at h
  split at h
  · cases h
    cases hq
  obtain ⟨e, he, h⟩ := Option.bind_eq_some_iff.mp h
  split at h
  · split at h
    · cases h
      cases hq
    obtain ⟨arp, -, h⟩ := Option.bind_eq_some_iff.mp h
    cases h
    cases hq
  split at h
  · split at h
    · cases h
      cases hq
    split at h
    · cases h
      cases hq
    · rename_i hlen heq
      cases h
      cases hq
      rw [not_not.mp heq, hto] at he
      unfold ethernetHeaderSize ipHeaderSize at hlen
      exact ⟨rfl, .ipv4 he (by omega)⟩
  split at h
  · rename_i hproto
    split at h
    · cases h
      cases hq
    rename_i hlen
    obtain ⟨handled, -, h⟩ := Option.bind_eq_some_iff.mp h
    split at h
    · cases h
      cases hq
    · cases h
      cases hq
      unfold ethernetHeaderSize ipv6HeaderSize at hlen
      exact ⟨rfl, .ipv6 he hproto (by omega)⟩
  · cases h
    cases hq

/-- What is queued of a frame. -/
theorem transmitFilter_queued {memory : Bool} {a : TapAdapter} {data : List Byte} {r : Filtered}
    {packet : TapPacket} (ha : Agreeing a) (h : transmitFilter memory a data = some r)
    (hq : r.queued = some packet) :
    packet = (if a.tun then tunPacketOf data else packetOf data) ∧ Carries a.mac data packet := by
  have hforward : ∀ {r : Filtered}, forward memory a data = some r → r.queued = some packet →
      packet = (if a.tun then tunPacketOf data else packetOf data) ∧ Carries a.mac data packet := by
    intro r h hq
    unfold forward at h
    split at h
    · rename_i htun
      rw [if_pos htun]
      exact pointToPoint_queued (ha.headers htun).1 h hq
    · rename_i htun
      cases h
      cases hq
      rw [if_neg htun]
      exact ⟨rfl, .whole⟩
  unfold transmitFilter at h
  obtain ⟨masq, hmasq, h⟩ := Option.bind_eq_some_iff.mp h
  by_cases henabled : a.dhcpEnabled = true
  · rw [if_pos henabled] at hmasq
    rcases masquerade_cases henabled hmasq with hleft | ⟨eth, dhcp, type, -, rfl⟩
    · match masq, h with
      | some ⟨true, b, injected⟩, h =>
          cases h
          cases hq
      | some ⟨false, b, injected⟩, h =>
          obtain ⟨rfl, -⟩ := hleft _ rfl
          exact hforward h hq
      | none, h => exact hforward h hq
    · cases h
      cases hq
  · rw [if_neg henabled] at hmasq
    cases hmasq
    exact hforward h hq

/-! ## Reads -/

theorem and_tpSizeMask (x : BitVec 32) : (x &&& tpSizeMask).toNat = x.toNat % 2 ^ 31 := by
  have hmask : tpSizeMask.toNat = 2 ^ 31 - 1 := by decide
  rw [BitVec.toNat_and, hmask, Nat.and_two_pow_sub_one_eq_mod]

theorem packetOf_size {data : List Byte} (hlen : data.length ≤ 65535) :
    ((packetOf data).sizeFlags &&& tpSizeMask).toNat = data.length := by
  unfold packetOf
  rw [BitVec.and_assoc, BitVec.and_self, and_tpSizeMask, BitVec.toNat_ofNat]
  omega

theorem packetOf_flags (data : List Byte) : (packetOf data).sizeFlags &&& tpTun = 0 := by
  unfold packetOf tpSizeMask
  rw [BitVec.and_assoc]
  simp

theorem tunPacketOf_size {data : List Byte} (hlen : data.length ≤ 65535) :
    ((tunPacketOf data).sizeFlags &&& tpSizeMask).toNat = data.length := by
  have hclear : tpTun &&& tpSizeMask = 0#32 := by decide
  unfold tunPacketOf
  rw [BitVec.and_or_distrib_right, hclear, BitVec.or_zero]
  exact packetOf_size hlen

theorem tunPacketOf_flags (data : List Byte) : (tunPacketOf data).sizeFlags &&& tpTun ≠ 0 := by
  have hset : tpTun &&& tpTun = 0x80000000 := by decide
  unfold tunPacketOf
  rw [BitVec.and_or_distrib_right, packetOf_flags, hset]
  decide

/-- A read of a frame that fits. -/
theorem completeIrp_whole {n : Nat} {data : List Byte} (hlen : data.length ≤ 65535)
    (hok : (completeIrp n (packetOf data)).status = .success) :
    completeIrp n (packetOf data) = ⟨.success, data.length, data⟩ ∧
      (data.length : Int) ≤ (BitVec.ofNat 32 n).toInt := by
  unfold completeIrp at hok ⊢
  simp only [packetOf_size hlen, packetOf_flags, ne_eq, not_true_eq_false, if_false] at hok ⊢
  split at hok
  · cases hok
  · rename_i hfits
    rw [if_neg hfits]
    refine ⟨?_, by omega⟩
    simp [packetOf]

/-- A read of a payload that fits. -/
theorem completeIrp_payload {n : Nat} {data : List Byte} (hlen : data.length ≤ 65535)
    (hok : (completeIrp n (tunPacketOf data)).status = .success) :
    completeIrp n (tunPacketOf data) = ⟨.success, data.length - 14, data.drop 14⟩ ∧
      ((data.length - 14 : Nat) : Int) ≤ (BitVec.ofNat 32 n).toInt := by
  unfold completeIrp at hok ⊢
  simp only [tunPacketOf_size hlen, ne_eq, tunPacketOf_flags, not_false_eq_true, if_true,
    ethernetHeaderSize] at hok ⊢
  split at hok
  · cases hok
  · rename_i hfits
    have hpayload : ((data.length : Int) - (14 : Nat)).toNat = data.length - 14 := by omega
    rw [if_neg hfits, hpayload]
    refine ⟨?_, by omega⟩
    simp [tunPacketOf, packetOf]

/-- The frames the driver takes. -/
def Sized (frame : List Byte) : Prop := 14 ≤ frame.length ∧ frame.length ≤ 65535

/-- The frame is one that the system handed to `AdapterTransmit`. -/
def Sent (log : List Event) (frame : List Byte) : Prop := .sent frame ∈ log ∧ Sized frame

theorem Sent.grows {log log' : List Event} {frame : List Byte} (h : Sent log frame)
    (hlog : log <+: log') : Sent log' frame :=
  ⟨hlog.subset h.1, h.2⟩

/-- What a read may get. -/
inductive Reads (mac : MacAddr) (frame : List Byte) : List Byte → Prop where
  | whole : Reads mac frame frame
  | ipv4 (heth : EthHeader.layout.read frame = some (outward mac))
      (hlen : 20 ≤ (frame.drop 14).length) : Reads mac frame (frame.drop 14)
  | ipv6 {eth : EthHeader} (heth : EthHeader.layout.read frame = some eth)
      (hproto : eth.proto = htons ethPIpv6) (hlen : 40 ≤ (frame.drop 14).length) :
      Reads mac frame (frame.drop 14)

theorem toInt_ofNat_le (x : BitVec 32) : (BitVec.ofNat 32 x.toNat).toInt ≤ (x.toNat : Int) := by
  rw [BitVec.ofNat_toNat, BitVec.setWidth_eq, BitVec.toInt_eq_toNat_cond]
  split <;> omega

theorem Carries.reads {mac : MacAddr} {frame : List Byte} {packet : TapPacket} {length : BitVec 32}
    (h : Carries mac frame packet) (hsize : Sized frame)
    (hok : (completeIrp length.toNat packet).status = .success) :
    ∃ output, completeIrp length.toNat packet = ⟨.success, output.length, output⟩ ∧
      output.length ≤ length.toNat ∧ Reads mac frame output := by
  have hroom := toInt_ofNat_le length
  cases h with
  | whole =>
      obtain ⟨hread, hfits⟩ := completeIrp_whole hsize.2 hok
      exact ⟨frame, hread, by omega, .whole⟩
  | ipv4 heth hlen =>
      obtain ⟨hread, hfits⟩ := completeIrp_payload hsize.2 hok
      have hdrop : (frame.drop 14).length = frame.length - 14 := List.length_drop
      rw [← hdrop] at hread
      exact ⟨frame.drop 14, hread, by omega, .ipv4 heth (by omega)⟩
  | ipv6 heth hproto hlen =>
      obtain ⟨hread, hfits⟩ := completeIrp_payload hsize.2 hok
      have hdrop : (frame.drop 14).length = frame.length - 14 := List.length_drop
      rw [← hdrop] at hread
      exact ⟨frame.drop 14, hread, by omega, .ipv6 heth hproto (by omega)⟩

/-! ## Runs -/

/-- The packet carries some frame of the system. -/
def CarriesSent (mac : MacAddr) (log : List Event) (packet : TapPacket) : Prop :=
  ∃ frame, Sent log frame ∧ Carries mac frame packet

theorem CarriesSent.grows {mac : MacAddr} {log log' : List Event} {packet : TapPacket}
    (h : CarriesSent mac log packet) (hlog : log <+: log') : CarriesSent mac log' packet := by
  obtain ⟨frame, hsent, hcarries⟩ := h
  exact ⟨frame, hsent.grows hlog, hcarries⟩

/-- What the activities of a frame may rely on. -/
def OfSystem (mac : MacAddr) (d : TapDevice) : Activity → Prop
  | .transmit _ _ data => Sent d.log data
  | .push packet => CarriesSent mac d.log packet
  | _ => True

theorem OfSystem.grows {mac : MacAddr} {d d' : TapDevice} {k : Activity} (h : OfSystem mac d k)
    (hlog : d.log <+: d'.log) : OfSystem mac d' k := by
  cases k with
  | transmit memory deferred data => exact Sent.grows h hlog
  | push packet => exact CarriesSent.grows h hlog
  | _ => trivial

/-- What is queued is of the system, and the settings agree. -/
structure Tunnelling (mac : MacAddr) (d : TapDevice) : Prop where
  mac_eq : d.adapter.mac = mac
  agreeing : Agreeing d.adapter
  packets : ∀ packet ∈ queued d.log, CarriesSent mac d.log packet

theorem Tunnelling.step {mac : MacAddr} {d d' : TapDevice} (h : Tunnelling mac d)
    (hadapter : AdapterStep d.adapter d'.adapter) (hlog : d.log <+: d'.log)
    (hpackets : ∀ packet ∈ queued d'.log,
      packet ∈ queued d.log ∨ CarriesSent mac d.log packet) :
    Tunnelling mac d' := by
  refine ⟨hadapter.mac.trans h.mac_eq, h.agreeing.step hadapter, fun packet hmem => ?_⟩
  rcases hpackets packet hmem with hold | hnew
  · exact (h.packets packet hold).grows hlog
  · exact hnew.grows hlog

theorem reassemble_length {length : Nat} {buffers : List (List Byte)} {data frame : List Byte}
    (h : reassemble length buffers data = some frame) : frame.length = length := by
  induction buffers generalizing data with
  | nil =>
      unfold reassemble at h
      split at h
      · rename_i hlen
        cases h
        exact hlen
      · cases h
  | cons buffer buffers ih =>
      unfold reassemble at h
      split at h
      · split at h
        · cases h
        · exact ih h
      · split at h
        · rename_i hlen
          cases h
          exact hlen
        · cases h

theorem adapterTransmit_sized {d : TapDevice} {memory : Bool} {length : Nat}
    {buffers : List (List Byte)} {frame : List Byte}
    (h : (adapterTransmit d memory length buffers).2 = some frame) : Sized frame := by
  unfold adapterTransmit at h
  split at h
  · cases h
  rename_i hrange
  split at h
  · cases h
  split at h
  · cases h
  have hlen := reassemble_length h
  unfold ethernetHeaderSize at hrange
  unfold Sized
  omega

theorem Arrives.queued_eq {x x' : Exchange} {k : Option Activity} (h : Arrives x x' k) :
    queued x'.log = queued x.log := by
  cases h <;> simp

theorem queued_sub_of_moves {k : Activity} {x x' : Exchange} {k' : Option Activity}
    (h : Moves k x x' k') {packet : TapPacket} (hmem : packet ∈ queued x'.log) :
    packet ∈ queued x.log ∨ k = .push packet := by
  cases h with
  | @queued _ other hup hroom =>
      have hmem : packet ∈ queued x.log ++ [other] := by simpa using hmem
      rcases List.mem_append.mp hmem with hold | hnew
      · exact .inl hold
      · rw [List.mem_singleton.mp hnew]
        exact .inr rfl
  | _ => exact .inl (by simpa using hmem)

/-- No activity besides `AdapterTransmit` goes on with a packet to queue. -/
theorem Moves.ofSystem {mac : MacAddr} {d : TapDevice} {k : Activity} {x x' : Exchange}
    {k' : Option Activity} (h : Moves k x x' k') (hk : ∀ m f data, k ≠ .transmit m f data) :
    ∀ j, k' = some j → OfSystem mac d j := by
  intro j hj
  cases h with
  | dropped => cases hj
  | answered frame => exact absurd rfl (hk _ _ _)
  | filtered packet => exact absurd rfl (hk _ _ _)
  | completed => split at hj <;> cases hj; trivial
  | _ => cases hj <;> trivial

theorem beginRead_next {d : TapDevice} {irp : Irp} {mdl : MdlAddress} {j : Activity}
    (h : (beginRead d irp mdl).2 = some j) : j = .immediate irp := by
  unfold beginRead at h
  dsimp only at h
  split at h
  · cases h
  cases mdl with
  | null => cases h
  | unmapped => cases h
  | mapped =>
      dsimp only at h
      split at h <;> cases h
      rfl

theorem Call.enter_ofSystem {mac : MacAddr} {c : Call} {d d' : TapDevice} {j : Activity}
    (h : c.enter d = some (d', some j)) : OfSystem mac d' j := by
  cases c with
  | transmit room memory deferred length buffers =>
      rcases enter_transmit h with ⟨data, hdata, rfl, hj⟩ | ⟨-, hnone⟩
      · cases hj
        exact ⟨List.mem_append_right _ (List.mem_singleton_self _), adapterTransmit_sized hdata⟩
      · cases hnone
  | cancel found irp =>
      rcases enter_cancel h with ⟨-, hj⟩ | ⟨-, -, hnone⟩
      · cases hj
        trivial
      · cases hnone
  | read irp mdl =>
      simp only [Call.enter] at h
      split at h
      · cases h
      · rw [beginRead_next (congrArg Prod.snd (Option.some.inj h))]
        trivial
  | writeFile data => cases h
  | deviceControl v c => cases h
  | create =>
      have hnext := congrArg Prod.snd (Option.some.inj h)
      dsimp only at hnext
      split at hnext <;> cases hnext
      trivial
  | close =>
      have hnext := congrArg Prod.snd (Option.some.inj h)
      dsimp only at hnext
      split at hnext <;> cases hnext
      trivial
  | power on => cases h
  | halt =>
      simp only [Call.enter] at h
      split at h <;> cases h
      trivial
  | dpc =>
      simp only [Call.enter] at h
      split at h <;> cases h
      trivial

theorem Goes.ofSystem {mac : MacAddr} {k : Activity} {d d' : TapDevice} {k' : Option Activity}
    (h : Goes k d d' k') (hd : Tunnelling mac d) (hk : OfSystem mac d k) :
    ∀ j, k' = some j → OfSystem mac d' j := by
  intro j hj
  cases k with
  | transmit memory deferred data =>
      have hgrows : d.log <+: d'.log := (moves_of_goes h).grows
      obtain ⟨r, hr, heq⟩ := Option.map_eq_some_iff.mp h
      have hnext := congrArg Prod.snd heq
      dsimp only at hnext
      rw [hj] at hnext
      unfold afterFilter at hnext
      split at hnext
      · split at hnext <;> cases hnext
        trivial
      · rename_i packet hinjected hqueued
        cases hnext
        obtain ⟨-, hcarries⟩ := transmitFilter_queued hd.agreeing hr hqueued
        rw [hd.mac_eq] at hcarries
        exact ⟨data, Sent.grows hk hgrows, hcarries⟩
      · cases hnext
  | _ => exact (moves_of_goes h).ofSystem (fun _ _ _ hne => nomatch hne) j hj

theorem tunnelling {p : Driver} (h : Runs Plugged DriverStep p) :
    Tunnelling p.shared.adapter.mac p.shared := by
  have hall : ∃ mac, Asserts (Tunnelling mac) (OfSystem mac) p := by
    refine h.invariant (I := fun p => ∃ mac, Asserts (Tunnelling mac) (OfSystem mac) p) ?_ ?_
    · rintro ⟨d, A⟩ ⟨⟨a, rfl, htun, hdhcp⟩, rfl⟩
      refine ⟨a.mac, ⟨rfl, .of_off htun hdhcp, ?_⟩, ?_⟩
      · simp [createTapDevice]
      · simp
    · rintro p p' ⟨mac, hp⟩ hs
      refine ⟨mac, ?_⟩
      cases hs with
      | spawn hb =>
          obtain ⟨c, hc⟩ := hb
          have harrives := arrives_of_enter hc
          have hqueued := harrives.queued_eq
          have hshared := hp.shared.step (Begins.adapter ⟨c, hc⟩) harrives.grows
            fun packet hmem => by
              rw [exchange_log, exchange_log] at hqueued
              rw [hqueued] at hmem
              exact .inl hmem
          refine hp.spawn hshared ?_ fun _ _ hj => hj.grows harrives.grows
          intro j hj
          rw [hj] at hc
          exact Call.enter_ofSystem hc
      | advance hg =>
          have hmoves := moves_of_goes hg
          have hshared := hp.shared.step hg.adapter hmoves.grows fun packet hmem => by
            rcases queued_sub_of_moves hmoves hmem with hold | rfl
            · exact .inl hold
            · exact .inr hp.head
          exact hp.advance hshared (hg.ofSystem hp.shared hp.head)
            fun _ _ hj => hj.grows hmoves.grows
  obtain ⟨mac, hp⟩ := hall
  rw [hp.shared.mac_eq]
  exact hp.shared

theorem served_left {log : List Event} {irp : Irp} {packet : TapPacket}
    (h : (irp, packet) ∈ served log) : packet ∈ left log := by
  obtain ⟨e, he, hserve⟩ := List.mem_filterMap.mp h
  refine List.mem_filterMap.mpr ⟨e, he, ?_⟩
  cases e with
  | taken i q =>
      cases hserve
      rfl
  | _ => cases hserve

theorem runOf_plugged {a : TapAdapter} {ts : List Turn} {p : Driver} (htun : a.tun = false)
    (hdhcp : a.dhcpEnabled = false) (h : runOf a ts = some p) : Runs Plugged DriverStep p :=
  schedule_runs (.start ⟨⟨a, rfl, htun, hdhcp⟩, rfl⟩) h

/-- The payload of a frame through the tunnel. -/
def tunPayload : List Byte := 0x45 :: List.replicate 19 1

/-- A frame through the tunnel. -/
def tunFrame : List Byte := EthHeader.layout.bytes (outward plainAdapter.mac) ++ tunPayload

/-- A program that set the point-to-point mode reads. -/
def tunSchedule : List Turn :=
  [.enter .create, .goOn .create, .goOn (.openTap true),
    .enter (.deviceControl ⟨9, 9⟩ (.configTun tunInput)),
    .enter (.transmit true true true 34 [tunFrame]), .goOn (.transmit true true tunFrame),
    .goOn (.push (tunPacketOf tunFrame)), .enter (.read ⟨1, 1500⟩ .mapped),
    .goOn (.immediate ⟨1, 1500⟩), .goOn (.complete ⟨1, 1500⟩ (tunPacketOf tunFrame) false)]

/-- The header that goes the other way. -/
def mirrored (e : EthHeader) : EthHeader := { e with dest := e.src, src := e.dest }

theorem mirrored_outward (mac : MacAddr) : mirrored (outward mac) = inward mac ethPIp := rfl

/-- What a program that writes a frame or a payload makes the adapter receive. -/
theorem write_accepts {a : TapAdapter} {data : List Byte} (ha : Agreeing a)
    (hup : a.interfaceIsRunning = true) :
    (a.tun = false → 14 ≤ data.length → write a data = (⟨.success, data.length, []⟩, some data)) ∧
      (a.tun = true → 20 ≤ data.length → write a data = (⟨.success, data.length, []⟩,
        some (EthHeader.layout.bytes
          (inward a.mac (if iphGetVer (data.headD 0) = 6 then ethPIpv6 else ethPIp)) ++ data))) := by
  constructor
  · intro htun hlen
    simp [write, hup, htun, ethernetHeaderSize, hlen]
  · intro htun hlen
    obtain ⟨-, huser, hipv6⟩ := ha.headers htun
    simp only [write, hup, htun, ipHeaderSize, hlen, huser, hipv6, Bool.true_eq_false, if_false,
      false_and, true_and, if_true]
    split <;> rfl

theorem tunPacketOf_ne (frame : List Byte) : tunPacketOf frame ≠ packetOf frame := by
  intro heq
  have hflags := tunPacketOf_flags frame
  rw [heq, packetOf_flags] at hflags
  exact hflags rfl

/-- What goes through the tunnel is of IP, and at least as long as a header of its kind. -/
theorem Carries.payload {mac : MacAddr} {frame : List Byte}
    (h : Carries mac frame (tunPacketOf frame)) :
    (EthHeader.layout.read frame = some (outward mac) ∧ 34 ≤ frame.length) ∨
      ∃ eth, EthHeader.layout.read frame = some eth ∧ eth.proto = htons ethPIpv6 ∧
        54 ≤ frame.length := by
  generalize hpacket : tunPacketOf frame = packet at h
  cases h with
  | whole => exact absurd hpacket (tunPacketOf_ne frame)
  | ipv4 heth hlen => exact .inl ⟨heth, hlen⟩
  | ipv6 heth hproto hlen => exact .inr ⟨_, heth, hproto, hlen⟩

/-- A frame of IPv4 through the tunnel names both its ends. -/
theorem Carries.outward_of {mac : MacAddr} {frame : List Byte} {eth : EthHeader}
    (h : Carries mac frame (tunPacketOf frame)) (heth : EthHeader.layout.read frame = some eth)
    (hproto : eth.proto = htons ethPIp) : eth = outward mac := by
  have hne : htons ethPIp ≠ htons ethPIpv6 := by decide
  rcases h.payload with ⟨hread, -⟩ | ⟨other, hread, hipv6, -⟩
  · rw [hread] at heth
    exact (Option.some.inj heth).symm
  · rw [heth, Option.some.injEq] at hread
    rw [← hread, hproto] at hipv6
    exact absurd hipv6 hne

/-- An adapter keeps its hardware address. -/
theorem mac_stays {p q : Driver} (h : Runs (· = p) DriverStep q) :
    q.shared.adapter.mac = p.shared.adapter.mac := by
  refine h.invariant (I := fun q => q.shared.adapter.mac = p.shared.adapter.mac) ?_ ?_
  · rintro _ rfl
    rfl
  · intro q q' hq hs
    cases hs with
    | spawn hb => exact hb.adapter.mac.trans hq
    | advance hg => exact hg.adapter.mac.trans hq

/-- The point-to-point mode is set, and nothing else happens. -/
def enterTunSchedule : List Turn :=
  [.enter .create, .goOn .create, .goOn (.openTap true),
    .enter (.deviceControl ⟨9, 9⟩ (.configTun tunInput))]

end TapCfg.TapWin32
