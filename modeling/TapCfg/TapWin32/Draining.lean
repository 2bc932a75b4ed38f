/-
  TapWin32/Draining.lean --- nothing stays in a queue of the Windows driver for good.

  Source: drivers/windows/tap-win32/tapdrvr.c, lines 641-680, 2731-2800 and
  2911-2958.

  When the adapter is halted its queues are flushed while other calls may still
  run; the flush empties them for good all the same.  The answers of the driver
  itself wait for a deferred procedure, which is always on its way.
-/
import TapCfg.TapWin32.Requests

set_option autoImplicit false

namespace TapCfg.TapWin32

open TapCfg.Foundation
open TapCfg.Foundation.Layout (htons u8 u16 u32 array)

/-! ## The halted adapter -/

/-- A halted adapter never comes up again, and when it was drained nothing is queued. -/
structure Halting (x : Exchange) : Prop where
  down : x.halt = true → x.running = false ∧ x.up = false
  drained : .drained ∈ x.log → x.halt = true ∧ x.irps = [] ∧ x.packets = []

/-- What the flush of a halted adapter has emptied so far. -/
def Emptied (x : Exchange) : Activity → Prop
  | .flushIrps false => x.halt = true
  | .flushIrp _ false => x.halt = true
  | .flushPackets false => x.halt = true ∧ x.irps = []
  | .flushInject false => x.halt = true ∧ x.irps = [] ∧ x.packets = []
  | _ => True

/-- A halted adapter stays halted, and what is empty stays empty. -/
structure StaysHalted (x x' : Exchange) : Prop where
  halt : x.halt = true → x'.halt = true
  down : x'.halt = true → x'.running = false ∧ x'.up = false
  irps : x.halt = true → x.irps = [] → x'.irps = []
  packets : x.halt = true → x.packets = [] → x'.packets = []

theorem Halting.arrives {x x' : Exchange} {k : Option Activity} (h : Halting x)
    (hs : Arrives x x' k) : StaysHalted x x' := by
  have hdown := h.down
  cases hs with
  | power up hup =>
      refine ⟨id, fun hhalt => ⟨(hdown hhalt).1, ?_⟩, fun _ => id, fun _ => id⟩
      by_contra hne
      have hrunning := hup (by simpa using hne)
      rw [(hdown hhalt).1] at hrunning
      cases hrunning
  | halt => exact ⟨fun _ => rfl, fun _ => ⟨rfl, rfl⟩, fun _ => id, fun _ => id⟩
  | _ => exact ⟨id, hdown, fun _ => id, fun _ => id⟩

theorem Halting.moves {x x' : Exchange} {k : Activity} {k' : Option Activity} (h : Halting x)
    (hs : Moves k x x' k') : StaysHalted x x' := by
  have hdown := h.down
  have hup : x.up = true → x.halt = true → False := fun hup hhalt => by
    rw [(hdown hhalt).2] at hup
    cases hup
  cases hs with
  | queued hx hroom => exact ⟨id, hdown, fun _ => id, fun hhalt => (hup hx hhalt).elim⟩
  | taken hx hirps hpackets =>
      exact ⟨id, hdown, fun hhalt => (hup hx hhalt).elim, fun hhalt => (hup hx hhalt).elim⟩
  | served hx hirps hpackets => exact ⟨id, hdown, fun _ => id, fun hhalt => (hup hx hhalt).elim⟩
  | pended hx hroom => exact ⟨id, hdown, fun hhalt => (hup hx hhalt).elim, fun _ => id⟩
  | extracted hmem => exact ⟨id, hdown, fun _ hnil => by simp [hnil], fun _ => id⟩
  | flushIrp hirps =>
      refine ⟨id, hdown, fun _ hnil => ?_, fun _ => id⟩
      rw [hirps] at hnil
      cases hnil
  | flushPacket hpackets =>
      refine ⟨id, hdown, fun _ => id, fun _ hnil => ?_⟩
      rw [hpackets] at hnil
      cases hnil
  | _ => exact ⟨id, hdown, fun _ => id, fun _ => id⟩

/-- What one activity has emptied, others leave empty. -/
theorem StaysHalted.emptied {x x' : Exchange} (h : StaysHalted x x') {j : Activity}
    (hj : Emptied x j) : Emptied x' j := by
  cases j with
  | flushIrps closing =>
      cases closing with
      | false => exact h.halt hj
      | true => trivial
  | flushIrp irp closing =>
      cases closing with
      | false => exact h.halt hj
      | true => trivial
  | flushPackets closing =>
      cases closing with
      | false => exact ⟨h.halt hj.1, h.irps hj.1 hj.2⟩
      | true => trivial
  | flushInject closing =>
      cases closing with
      | false => exact ⟨h.halt hj.1, h.irps hj.1 hj.2.1, h.packets hj.1 hj.2.2⟩
      | true => trivial
  | _ => trivial

theorem Arrives.emptied {x x' : Exchange} {k : Option Activity} (hs : Arrives x x' k) :
    ∀ j, k = some j → Emptied x' j := by
  intro j hj
  cases hs with
  | halt => cases hj; rfl
  | _ => cases hj <;> trivial

theorem Moves.emptied {x x' : Exchange} {k : Activity} {k' : Option Activity}
    (hs : Moves k x x' k') (hk : Emptied x k) : ∀ j, k' = some j → Emptied x' j := by
  intro j hj
  cases hs with
  | completed => split at hj <;> cases hj; trivial
  | @flushIrp _ _ _ closing hirps => cases hj; cases closing <;> exact hk
  | @noIrps _ closing hnil =>
      cases hj
      cases closing with
      | false => exact ⟨hk, hnil⟩
      | true => trivial
  | @flushedIrp _ _ closing => cases hj; cases closing <;> exact hk
  | @flushPacket _ _ _ closing hpackets => cases hj; cases closing <;> exact hk
  | @noPackets _ closing hnil =>
      cases hj
      cases closing with
      | false => exact ⟨hk.1, hk.2, hnil⟩
      | true => trivial
  | @flushFrame _ _ _ closing hframes => cases hj; cases closing <;> exact hk
  | _ => cases hj <;> trivial

theorem Arrives.drained {x x' : Exchange} {k : Option Activity} (hs : Arrives x x' k)
    (h : .drained ∈ x'.log) : .drained ∈ x.log := by
  cases hs <;> simpa using h

theorem Moves.drained_log {x x' : Exchange} {k : Activity} {k' : Option Activity}
    (hs : Moves k x x' k') (h : .drained ∈ x'.log) : .drained ∈ x.log ∨ k = .flushInject false := by
  cases hs with
  | drained hframes => exact .inr rfl
  | _ => exact .inl (by simpa using h)

theorem StaysHalted.halting {x x' : Exchange} (h : StaysHalted x x')
    (hd : .drained ∈ x'.log → x.halt = true ∧ x.irps = [] ∧ x.packets = []) : Halting x' := by
  refine ⟨h.down, fun hdrained => ?_⟩
  obtain ⟨hhalt, hirps, hpackets⟩ := hd hdrained
  exact ⟨h.halt hhalt, h.irps hhalt hirps, h.packets hhalt hpackets⟩

theorem halting {q : Pool Exchange Activity} (h : Runs Unused ExchangeStep q) :
    Halting q.shared := by
  refine (h.invariant (I := Asserts Halting Emptied) ?_ ?_).shared
  · intro q hq
    refine ⟨⟨?_, ?_⟩, ?_⟩
    · simp [hq.halt]
    · simp [hq.log]
    · simp [hq.active]
  · intro q q' hq hs
    cases hs with
    | spawn hb =>
        have hstays := hq.shared.arrives hb
        have hhalting := hstays.halting fun hd => hq.shared.drained (hb.drained hd)
        exact hq.spawn hhalting hb.emptied fun _ _ hj => hstays.emptied hj
    | advance hg =>
        have hstays := hq.shared.moves hg
        have hhalting := hstays.halting fun hd => by
          rcases hg.drained_log hd with hd | rfl
          · exact hq.shared.drained hd
          · exact hq.head
        exact hq.advance hhalting (hg.emptied hq.head) fun _ _ hj => hstays.emptied hj

/-- When the queues of a halted adapter were flushed they are empty and stay empty, whatever calls
were or are in progress: every read request was answered, or one call has it that will answer
it; and it was answered once more for every time that it went astray. -/
theorem drained_empty {p : Driver} (h : Runs Created DriverStep p)
    (hd : .drained ∈ p.shared.log) :
    p.shared.irpQueue.items = [] ∧ p.shared.packetQueue.items = [] ∧
      ∀ irp ∈ issued p.shared.log,
        (answered p.shared.log).count irp + p.active.countP (fun k => k.request = some irp) =
          1 + (astray p.shared.log).count irp := by
  have hruns := driver_exchanges h
  obtain ⟨-, hirps, hpackets⟩ := (halting hruns).drained hd
  refine ⟨hirps, hpackets, fun irp hissued => ?_⟩
  have hempty : p.shared.irpQueue.items = [] := hirps
  have hbalance := answers_balance h irp
  rwa [hempty, List.count_nil, Nat.add_zero, if_pos hissued] at hbalance

/-- A read is queued, then the adapter is halted while another read looks for a packet. -/
def haltSchedule : List Turn :=
  openAndRead ⟨1, 1500⟩ ++
    [.enter (.read ⟨2, 1500⟩ .mapped), .enter .halt, .goOn (.flushIrps false),
      .goOn (.immediate ⟨2, 1500⟩), .goOn (.flushIrp ⟨1, 1500⟩ false), .goOn (.flushIrps false),
      .goOn (.flushPackets false), .goOn (.flushInject false), .goOn (.pend ⟨2, 1500⟩),
      .goOn (.refuse ⟨2, 1500⟩)]

/-- Both reads are answered. -/
theorem drained_empty_both :
    ∃ p, Runs Created DriverStep p ∧ p.active = 0 ∧ p.shared.irpQueue.items = [] ∧
      ∀ irp ∈ [⟨1, 1500⟩, ⟨2, 1500⟩], (answered p.shared.log).count irp = 1 := by
  have hsome : ((runOf plainAdapter haltSchedule).any fun p =>
      decide (p.active = 0 ∧ .drained ∈ p.shared.log ∧ astray p.shared.log = [] ∧
        issued p.shared.log = [⟨1, 1500⟩, ⟨2, 1500⟩])) = true := by decide +kernel
  obtain ⟨p, hp, hdone⟩ := (Option.any_eq_true _ _).mp hsome
  obtain ⟨hactive, hdrained, hfound, hissued⟩ := of_decide_eq_true hdone
  obtain ⟨hirps, -, honce⟩ := drained_empty (runOf_runs hp) hdrained
  rw [hissued, hactive, hfound] at honce
  exact ⟨p, runOf_runs hp, hactive, hirps, honce⟩

/-! ## The deferred procedure -/

/-- A frame waits and the procedure is not queued. -/
def Deferred (x : Exchange) : Prop := x.frames ≠ [] ∧ x.injectDpc = false

/-- The activity queues the procedure, or is the procedure. -/
def Activity.injects : Activity → Prop
  | .insertDpc => True
  | .dpc => True
  | .injectNow _ => True
  | _ => False

theorem Arrives.deferred {x x' : Exchange} {k : Option Activity} (hs : Arrives x x' k)
    (hd : Deferred x') : Deferred x ∨ ∃ j, k = some j ∧ j.injects := by
  cases hs with
  | dpc hdpc => exact .inr ⟨_, rfl, trivial⟩
  | _ => exact .inl hd

theorem Moves.deferred {x x' : Exchange} {k : Activity} {k' : Option Activity}
    (hs : Moves k x x' k') (hd : Deferred x') :
    (Deferred x ∧ ¬ k.injects) ∨ ∃ j, k' = some j ∧ j.injects := by
  cases hs with
  | injected hroom => exact .inr ⟨_, rfl, trivial⟩
  | inserted => cases hd.2
  | injecting hframes => exact .inr ⟨_, rfl, trivial⟩
  | allInjected hnil => exact absurd hnil hd.1
  | indicated => exact .inr ⟨_, rfl, trivial⟩
  | flushFrame hframes => exact .inl ⟨⟨by simp [hframes], hd.2⟩, id⟩
  | _ => exact .inl ⟨hd, id⟩

/-- However the calls interleave: while an answer of the driver waits to be injected, the
procedure that injects it is queued, or running, or about to be queued. -/
theorem injection_under_way {p : Driver} (h : Runs Created DriverStep p)
    (hf : p.shared.injectQueue.items ≠ []) :
    p.shared.injectDpc = true ∨ ∃ k ∈ p.active, k.injects := by
  have hcovered : Covered Deferred Activity.injects (p.map TapDevice.exchange) := by
    refine (driver_exchanges h).invariant (I := Covered Deferred Activity.injects) ?_ ?_
    · intro q hq hd
      exact absurd hq.frames hd.1
    · intro q q' hq hs
      cases hs with
      | spawn hb => exact hq.spawn hb.deferred
      | advance hg => exact hq.advance hg.deferred
  by_cases hdpc : p.shared.injectDpc = true
  · exact .inl hdpc
  · exact .inr (hcovered ⟨hf, Bool.eq_false_iff.mpr hdpc⟩)

/-- The words 10.8.0.2, 10.8.0.0 and 255.255.255.0. -/
def tunInput : List Byte := [10, 8, 0, 2, 10, 8, 0, 0, 255, 255, 255, 0]

/-- The system asks for the hardware address of 10.8.0.7. -/
def arpQuery : ArpPacket where
  macDestination := plainAdapter.macBroadcast
  macSource := plainAdapter.mac
  proto := htons ethPArp
  macAddressType := htons macAddrType
  protoAddressType := htons ethPIp
  macAddressSize := 6
  protoAddressSize := 4
  arpOperation := htons arpRequest
  arpMacSource := plainAdapter.mac
  arpIpSource := 0x0200080a
  arpMacDestination := Vector.replicate 6 0
  arpIpDestination := 0x0700080a

/-- What the adapter answers in tun mode. -/
def arpAnswer : List Byte :=
  ArpPacket.layout.bytes
    (arpReplyTo plainAdapter arpQuery 0x0200080a (generateRelatedMac plainAdapter.mac 1))

/-- The query is answered. -/
def injectSchedule : List Turn :=
  [.enter .create, .goOn .create, .goOn (.openTap true),
    .enter (.deviceControl ⟨9, 9⟩ (.configTun tunInput)),
    .enter (.transmit true true true 42 [ArpPacket.layout.bytes arpQuery]),
    .goOn (.transmit true true (ArpPacket.layout.bytes arpQuery)), .goOn (.inject arpAnswer)]

/-- The answer waits, and the call that queued it goes on to queue the procedure. -/
theorem injection_under_way_arp :
    ∃ p, runOf plainAdapter injectSchedule = some p ∧
      p.shared.injectQueue.items = [arpAnswer] ∧ p.shared.injectDpc = false ∧
      (p.shared.injectDpc = true ∨ ∃ k ∈ p.active, k.injects) := by
  have hsome : ((runOf plainAdapter injectSchedule).any fun p =>
      decide (p.shared.injectQueue.items = [arpAnswer] ∧ p.shared.injectDpc = false)) = true := by
    decide +kernel
  obtain ⟨p, hp, hdone⟩ := (Option.any_eq_true _ _).mp hsome
  obtain ⟨hitems, hdpc⟩ := of_decide_eq_true hdone
  have hwaits : p.shared.injectQueue.items ≠ [] := by simp [hitems]
  exact ⟨p, hp, hitems, hdpc, injection_under_way (runOf_runs hp) hwaits⟩

end TapCfg.TapWin32
