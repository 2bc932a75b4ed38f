/-
  TapWin32/Stalls.lean --- when a packet and a read request wait for each other.

  Source: drivers/windows/tap-win32/tapdrvr.c, lines 1795-1860 and 2280-2340.

  A read looks for a packet in one locked section and queues its request in
  another.  A packet that is queued in between finds no request, and the loop
  of `AdapterTransmit` ends before the request is there: both wait, with nobody
  left to serve the one with the other, until the system sends another frame.
  The same happens to an adapter that is powered down while both wait, and powered
  up again.  There is no third way: `waiting_is_served` says so, and `cycle_serves`
  what the next frame does about it.
-/
import TapCfg.TapWin32.Requests

set_option autoImplicit false

namespace TapCfg.TapWin32

open TapCfg.Foundation

/-- A packet and a request wait. -/
def Waiting (x : Exchange) : Prop := x.up = true ∧ x.packets ≠ [] ∧ x.irps ≠ []

/-- The loop of `AdapterTransmit` is going to look at the queues again. -/
def Activity.serves : Activity → Prop
  | .cycle => True
  | .complete _ _ cycling => cycling = true
  | _ => False

/-- A read that has found no packet relies on there being none, or on requests before it. -/
def FoundNone (x : Exchange) : Activity → Prop
  | .pend _ => x.up = true → x.packets = [] ∨ x.irps ≠ []
  | _ => True

/-- Nothing comes between the two sections of a read that matters to it, and the adapter does
not come up while a packet and a request wait. -/
structure Undisturbed (q q' : Pool Exchange Activity) : Prop where
  packets : (∃ irp, .pend irp ∈ q.active) → q'.shared.packets.length ≤ q.shared.packets.length
  irps : (∃ irp, .pend irp ∈ q.active) → q.shared.irps.length ≤ q'.shared.irps.length
  up : (∃ irp, .pend irp ∈ q.active) → q'.shared.up = true → q.shared.up = true
  rising : q'.shared.up = true → q.shared.up = false → q.shared.packets = [] ∨ q.shared.irps = []

/-- Whoever relies on having found no packet still may. -/
theorem Undisturbed.foundNone {q q' : Pool Exchange Activity} (h : Undisturbed q q') {j : Activity}
    (hj : j ∈ q.active) (hfound : FoundNone q.shared j) : FoundNone q'.shared j := by
  cases j with
  | pend irp =>
      have hpackets := h.packets ⟨irp, hj⟩
      have hirps := h.irps ⟨irp, hj⟩
      intro hup
      rcases hfound (h.up ⟨irp, hj⟩ hup) with hnone | hsome
      · left
        rw [hnone] at hpackets
        exact List.length_eq_zero_iff.mp (Nat.le_zero.mp hpackets)
      · right
        intro hnil
        rw [hnil] at hirps
        exact hsome (List.length_eq_zero_iff.mp (Nat.le_zero.mp hirps))
  | _ => trivial

theorem Arrives.foundNone {x x' : Exchange} {k : Option Activity} (h : Arrives x x' k) :
    ∀ j, k = some j → FoundNone x' j := by
  intro j hj
  cases h <;> cases hj <;> trivial

theorem Moves.foundNone {x x' : Exchange} {k : Activity} {k' : Option Activity}
    (h : Moves k x x' k') : ∀ j, k' = some j → FoundNone x' j := by
  intro j hj
  cases h with
  | unserved h =>
      cases hj
      exact h
  | completed =>
      split at hj <;> cases hj
      trivial
  | _ => cases hj <;> trivial

/-- What happens outside makes nothing wait that did not. -/
theorem Arrives.waiting {x x' : Exchange} {k : Option Activity} (h : Arrives x x' k)
    (hrising : x'.up = true → x.up = false → x.packets = [] ∨ x.irps = []) (hw : Waiting x') :
    Waiting x := by
  obtain ⟨hup, hpackets, hirps⟩ := hw
  cases h with
  | power up hrunning =>
      refine ⟨?_, hpackets, hirps⟩
      by_contra hdown
      rcases hrising hup (Bool.eq_false_iff.mpr hdown) with hnil | hnil
      · exact hpackets hnil
      · exact hirps hnil
  | halt => cases hup
  | _ => exact ⟨hup, hpackets, hirps⟩

/-- An activity makes nothing wait that did not, or it goes on serving; and one that served stops
when nothing waits. -/
theorem Moves.waiting {x x' : Exchange} {k : Activity} {k' : Option Activity}
    (h : Moves k x x' k') (hfound : FoundNone x k) (hw : Waiting x') :
    (Waiting x ∧ ¬ k.serves) ∨ ∃ j, k' = some j ∧ j.serves := by
  obtain ⟨hup, hpackets, hirps⟩ := hw
  cases h with
  | queued hup' hroom => exact .inr ⟨_, rfl, trivial⟩
  | taken hup' hi hp => exact .inr ⟨_, rfl, rfl⟩
  | rested h =>
      rcases h hup with hnil | hnil
      · exact absurd hnil hpackets
      · exact absurd hnil hirps
  | @completed _ irp packet cycling =>
      cases cycling with
      | true => exact .inr ⟨_, rfl, trivial⟩
      | false => exact .inl ⟨⟨hup, hpackets, hirps⟩, by simp [Activity.serves]⟩
  | served hup' hi hp => exact absurd hi hirps
  | pended hup' hroom =>
      left
      rcases hfound hup with hnil | hsome
      · exact absurd hnil hpackets
      · exact ⟨⟨hup, hpackets, hsome⟩, id⟩
  | @extracted _ irp hmem =>
      exact .inl ⟨⟨hup, hpackets, List.ne_nil_of_mem hmem⟩, id⟩
  | flushIrp hi => exact .inl ⟨⟨hup, hpackets, by simp [hi]⟩, id⟩
  | flushPacket hp => exact .inl ⟨⟨hup, by simp [hp], hirps⟩, id⟩
  | _ => exact .inl ⟨⟨hup, hpackets, hirps⟩, id⟩

/-- A step that disturbs nobody leaves none who wait alone. -/
theorem Undisturbed.covered {q q' : Pool Exchange Activity} (hu : Undisturbed q q')
    (h : Covered Waiting Activity.serves q ∧ ∀ j ∈ q.active, FoundNone q.shared j)
    (hs : ExchangeStep q q') :
    Covered Waiting Activity.serves q' ∧ ∀ j ∈ q'.active, FoundNone q'.shared j := by
  obtain ⟨hcovered, hfound⟩ := h
  have hassert : Asserts (fun _ => True) FoundNone q := ⟨trivial, hfound⟩
  cases hs with
  | spawn hb =>
      refine ⟨hcovered.spawn fun hw => .inl (hb.waiting hu.rising hw), ?_⟩
      exact (hassert.spawn trivial hb.foundNone fun j hj hf => hu.foundNone hj hf).each
  | advance hg =>
      refine ⟨hcovered.advance (hg.waiting hassert.head), ?_⟩
      exact (hassert.advance trivial hg.foundNone fun j hj hf =>
        hu.foundNone (Multiset.mem_cons_of_mem hj) hf).each

theorem covered_of_undisturbed {q : Pool Exchange Activity}
    (h : Runs Unused (Provided ExchangeStep Undisturbed) q) :
    Covered Waiting Activity.serves q := by
  refine (h.invariant (I := fun q => Covered Waiting Activity.serves q ∧
    ∀ j ∈ q.active, FoundNone q.shared j) ?_ fun q q' hq hs => hs.2.covered hq hs.1).1
  intro q hq
  refine ⟨fun hw => absurd hq.packets hw.2.1, fun j hj => ?_⟩
  rw [hq.active] at hj
  exact absurd hj (Multiset.notMem_zero j)

/-- A frame that is queued between the two sections of a read. -/
def stallSchedule : List Turn :=
  [.enter .create, .goOn .create, .goOn (.openTap true), .enter (.read ⟨1, 1500⟩ .mapped),
    .goOn (.immediate ⟨1, 1500⟩), .enter (.transmit true true true 60 [plainFrame]),
    .goOn (.transmit true true plainFrame), .goOn (.push (packetOf plainFrame)), .goOn .cycle,
    .goOn (.pend ⟨1, 1500⟩)]

/-- The frame waits, and the request. -/
structure BothWait (d : TapDevice) : Prop where
  up : isUp d = true
  packets : d.packetQueue.items = [packetOf plainFrame]
  irps : d.irpQueue.items = [⟨1, 1500⟩]

theorem BothWait.waiting {d : TapDevice} (h : BothWait d) : Waiting d.exchange := by
  refine ⟨h.up, ?_, ?_⟩
  · rw [exchange_packets, h.packets]
    exact List.cons_ne_nil _ _
  · rw [exchange_irps, h.irps]
    exact List.cons_ne_nil _ _

theorem runs_bothWait {ts : List Turn}
    (h : ((runOf plainAdapter ts).any fun p => decide (p.active = 0 ∧ isUp p.shared = true ∧
      p.shared.packetQueue.items = [packetOf plainFrame] ∧
      p.shared.irpQueue.items = [⟨1, 1500⟩])) = true) :
    ∃ p, runOf plainAdapter ts = some p ∧ p.active = 0 ∧ BothWait p.shared := by
  obtain ⟨p, hp, hdone⟩ := (Option.any_eq_true _ _).mp h
  obtain ⟨hactive, hup, hpackets, hirps⟩ := of_decide_eq_true hdone
  exact ⟨p, hp, hactive, hup, hpackets, hirps⟩

theorem stallSchedule_runs : ∃ p, runOf plainAdapter stallSchedule = some p ∧ p.active = 0 ∧
    BothWait p.shared :=
  runs_bothWait (by decide +kernel)

/-- An adapter that is powered down between a frame and the loop that serves it, and powered up
again. -/
def powerSchedule : List Turn :=
  openAndRead ⟨1, 1500⟩ ++
    [.enter (.transmit true true true 60 [plainFrame]), .goOn (.transmit true true plainFrame),
      .goOn (.push (packetOf plainFrame)), .enter (.power false), .goOn .cycle,
      .enter (.power true)]

theorem powerSchedule_runs : ∃ p, runOf plainAdapter powerSchedule = some p ∧ p.active = 0 ∧
    BothWait p.shared :=
  runs_bothWait (by decide +kernel)

/-- In a run whose sections disturb no read, and in which the adapter does not come up while a
packet and a request wait, such a packet and request are about to be looked at by the loop of
`AdapterTransmit`.  Where a read is disturbed, or the adapter comes up, both may wait with nobody
there. -/
theorem waiting_is_served :
    (∀ p : Driver, Runs Created (Provided DriverStep fun p p' =>
        Undisturbed (p.map TapDevice.exchange) (p'.map TapDevice.exchange)) p →
      Waiting p.shared.exchange → ∃ k ∈ p.active, k.serves) ∧
    (∃ p : Driver, runOf plainAdapter stallSchedule = some p ∧ p.active = 0 ∧
      Waiting p.shared.exchange) ∧
    ∃ p : Driver, runOf plainAdapter powerSchedule = some p ∧ p.active = 0 ∧
      Waiting p.shared.exchange := by
  refine ⟨fun _ h => covered_of_undisturbed (driver_exchanges_provided h), ?_, ?_⟩
  · obtain ⟨p, hp, hactive, hwaits⟩ := stallSchedule_runs
    exact ⟨p, hp, hactive, hwaits.waiting⟩
  · obtain ⟨p, hp, hactive, hwaits⟩ := powerSchedule_runs
    exact ⟨p, hp, hactive, hwaits.waiting⟩

/-! ## The next frame -/

/-- The turns in which the loop of `AdapterTransmit` serves these requests, and ends. -/
def cycleTurns : List (Irp × TapPacket) → List Turn
  | [] => [.goOn .cycle]
  | (irp, packet) :: pairs =>
      .goOn .cycle :: .goOn (.complete irp packet true) :: cycleTurns pairs

/-- What the loop notes for a request and its packet. -/
def serveEvents (pair : Irp × TapPacket) : List Event :=
  [.taken pair.1 pair.2, .completed pair.1 (completeIrp pair.1.length.toNat pair.2)]

theorem cyclePackets_serves {d : TapDevice} {irp : Irp} {irps : List Irp} {packet : TapPacket}
    {packets : List TapPacket} (hup : isUp d = true) (hirps : d.irpQueue.items = irp :: irps)
    (hpackets : d.packetQueue.items = packet :: packets) :
    cyclePackets d =
      (({ d with irpQueue := d.irpQueue.pop.2, packetQueue := d.packetQueue.pop.2 }
          : TapDevice).note (.taken irp packet), some (.complete irp packet true)) := by
  simp [cyclePackets, hup, hirps, hpackets]

theorem cyclePackets_rests {d : TapDevice} (h : d.irpQueue.items = [] ∨ d.packetQueue.items = []) :
    cyclePackets d = (d, none) := by
  unfold cyclePackets
  rw [if_neg]
  rintro ⟨-, hpackets, hirps⟩
  rcases h with hnil | hnil
  · exact hirps (by simp [hnil])
  · exact hpackets (by simp [hnil])

theorem takeTurn_goOn (k : Activity) (d : TapDevice) (R : Multiset Activity) :
    takeTurn ⟨d, k ::ₘ R⟩ (.goOn k) = (k.run d).map fun r => ⟨r.1, started r.2 + R⟩ := by
  simp [takeTurn]

theorem schedule_cons (p : Driver) (t : Turn) (ts : List Turn) :
    schedule p (t :: ts) = (takeTurn p t).bind fun q => schedule q ts := rfl

/-- However many packets and requests wait, the loop of `AdapterTransmit` ends when nobody else
runs: it has answered the first request with the first packet, and so on, and one of the queues
is empty. -/
theorem cycle_serves (d : TapDevice) (R : Multiset Activity) (hup : isUp d = true) :
    ∃ d', schedule ⟨d, .cycle ::ₘ R⟩ (cycleTurns (d.irpQueue.items.zip d.packetQueue.items)) =
        some ⟨d', R⟩ ∧
      d'.irpQueue.items = d.irpQueue.items.drop d.packetQueue.items.length ∧
      d'.packetQueue.items = d.packetQueue.items.drop d.irpQueue.items.length ∧
      d'.log = d.log ++ (d.irpQueue.items.zip d.packetQueue.items).flatMap serveEvents := by
  generalize hi : d.irpQueue.items = irps
  generalize hp : d.packetQueue.items = packets
  induction irps generalizing d packets with
  | nil =>
      refine ⟨d, ?_, by simp [hi], by simp [hp], by simp⟩
      rw [List.zip_nil_left, cycleTurns, schedule_cons, takeTurn_goOn, Activity.run,
        cyclePackets_rests (.inl hi)]
      simp [schedule]
  | cons irp irps ih =>
      cases packets with
      | nil =>
          refine ⟨d, ?_, by simp [hi], by simp [hp], by simp⟩
          rw [List.zip_nil_right, cycleTurns, schedule_cons, takeTurn_goOn, Activity.run,
            cyclePackets_rests (.inr hp)]
          simp [schedule]
      | cons packet packets =>
          -- the device behind one turn of the loop
          let d₁ : TapDevice :=
            (({ d with irpQueue := d.irpQueue.pop.2, packetQueue := d.packetQueue.pop.2 }
              : TapDevice).note (.taken irp packet)).note
              (.completed irp (completeIrp irp.length.toNat packet))
          have hirps : d₁.irpQueue.items = irps := by
            show d.irpQueue.pop.2.items = irps
            rw [BoundedQueue.pop_items, hi, List.tail_cons]
          have hpackets : d₁.packetQueue.items = packets := by
            show d.packetQueue.pop.2.items = packets
            rw [BoundedQueue.pop_items, hp, List.tail_cons]
          obtain ⟨d', hrun, hirps', hpackets', hlog⟩ := ih d₁ hup hirps packets hpackets
          refine ⟨d', ?_, hirps', hpackets', ?_⟩
          · rw [List.zip_cons_cons, cycleTurns, schedule_cons, takeTurn_goOn, Activity.run,
              cyclePackets_serves hup hi hp]
            simp only [Option.map_some, Option.bind_some, started_some, Multiset.singleton_add]
            rw [schedule_cons, takeTurn_goOn, Activity.run]
            simpa using hrun
          · rw [hlog]
            simp [d₁, TapDevice.note, serveEvents]

/-- The two that waited for each other are served. -/
theorem cycle_serves_stalled :
    ∃ p, runOf plainAdapter stallSchedule = some p ∧ p.active = 0 ∧ ∃ d',
      schedule ⟨p.shared, {.cycle}⟩
          (cycleTurns (p.shared.irpQueue.items.zip p.shared.packetQueue.items)) = some ⟨d', 0⟩ ∧
        d'.irpQueue.items = [] ∧ d'.packetQueue.items = [] := by
  obtain ⟨p, hp, hactive, hwaits⟩ := stallSchedule_runs
  obtain ⟨d', hrun, hi, hq, -⟩ := cycle_serves p.shared 0 hwaits.up
  refine ⟨p, hp, hactive, d', hrun, ?_, ?_⟩
  · rw [hi, hwaits.irps, hwaits.packets]
    rfl
  · rw [hq, hwaits.irps, hwaits.packets]
    rfl

end TapCfg.TapWin32
