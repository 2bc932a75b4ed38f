/-
  TapWin32/Isolation.lean --- one program does not get the packets of another.

  Source: drivers/windows/tap-win32/tapdrvr.c, lines 1610-1614, 1796-1815,
  2491-2575 and 2731-2770.

  Closing the device flushes its queues, and while nobody has it open no frame
  is looked at.  But a frame that was looked at before may be queued after the
  flush, and the program that opens the device next is the one that reads it.
-/
import TapCfg.TapWin32.Draining

set_option autoImplicit false

namespace TapCfg.TapWin32

open TapCfg.Foundation

/-! ## The mutex -/

/-- The activity holds `m_OpenCloseMutex`. -/
def Activity.locks : Activity → Bool
  | .openTap _ => true
  | .flushIrps closing => closing
  | .flushIrp _ closing => closing
  | .flushPackets closing => closing
  | .flushInject closing => closing
  | .release => true
  | _ => false

/-- What an activity holds of the mutex. -/
def Activity.lock (k : Activity) : Multiset Unit := .replicate k.locks.toNat ()

/-- The mutex is held once, or not at all. -/
def Locked (x : Exchange) (R : Multiset Unit) : Prop := R.card = x.openClose.toNat

/-- Whoever holds the mutex is alone. -/
theorem Locked.sole {x : Exchange} {k : Activity} {R : Multiset Unit} (h : Locked x (k.lock + R))
    (hk : k.locks = true) : x.openClose = true ∧ R = 0 := by
  unfold Locked at h
  rw [Activity.lock, hk, Multiset.card_add, Multiset.card_replicate, Bool.toNat_true] at h
  have hle := Bool.toNat_le x.openClose
  refine ⟨?_, Multiset.card_eq_zero.mp (by omega)⟩
  cases hopen : x.openClose with
  | false => simp [hopen] at h
  | true => rfl

theorem Locked.arrives {x x' : Exchange} {k : Option Activity} {R : Multiset Unit}
    (h : Locked x R) (hs : Arrives x x' k) :
    Locked x' (holdings Activity.lock (started k) + R) := by
  unfold Locked at h ⊢
  cases hs <;> simpa [Activity.lock, Activity.locks] using h

theorem Locked.moves {x x' : Exchange} {k : Activity} {k' : Option Activity} {R : Multiset Unit}
    (h : Locked x (k.lock + R)) (hs : Moves k x x' k') :
    Locked x' (holdings Activity.lock (started k') + R) := by
  cases hs with
  | opened =>
      obtain ⟨-, rfl⟩ := h.sole rfl
      simp [Locked]
  | unavailable =>
      obtain ⟨-, rfl⟩ := h.sole rfl
      simp [Locked]
  | released =>
      obtain ⟨-, rfl⟩ := h.sole rfl
      simp [Locked]
  | creating available hfree hopen =>
      simp [Locked, Activity.lock, Activity.locks, hfree] at h ⊢
      exact h
  | closing hfree =>
      simp [Locked, Activity.lock, Activity.locks, hfree] at h ⊢
      exact h
  | completed =>
      unfold Locked at h ⊢
      split <;> simpa [Activity.lock, Activity.locks] using h
  | _ => simpa [Locked, Activity.lock, Activity.locks] using h

theorem locked {q : Pool Exchange Activity} (h : Runs Unused ExchangeStep q) :
    Locked q.shared (holdings Activity.lock q.active) := by
  refine h.invariant (I := fun q => Locked q.shared (holdings Activity.lock q.active)) ?_ ?_
  · intro q hq
    simp [Locked, hq.openClose, hq.active]
  · intro q q' hq hs
    exact hs.accounts (fun _ _ _ _ h hb => h.arrives hb) (fun _ _ _ _ _ h hg => h.moves hg) hq

/-- Nobody else holds the mutex. -/
theorem not_locks_of_sole {s : Exchange} {k : Activity} {R : Multiset Activity}
    (h : Locked s (holdings Activity.lock (k ::ₘ R))) (hk : k.locks = true) :
    ∀ j ∈ R, j.locks = false := by
  intro j hj
  rw [holdings_cons] at h
  obtain ⟨-, hnone⟩ := h.sole hk
  obtain ⟨T, rfl⟩ := Multiset.exists_cons_of_mem hj
  have hcard := congrArg Multiset.card hnone
  rw [holdings_cons, Multiset.card_add, Activity.lock, Multiset.card_replicate,
    Multiset.card_zero] at hcard
  have hzero : j.locks.toNat = 0 := by omega
  cases hlock : j.locks with
  | false => rfl
  | true => simp [hlock] at hzero

theorem Locked.openClose {s : Exchange} {A : Multiset Activity}
    (h : Locked s (holdings Activity.lock A)) {k : Activity} (hk : k ∈ A)
    (hlocks : k.locks = true) : s.openClose = true := by
  obtain ⟨R, rfl⟩ := Multiset.exists_cons_of_mem hk
  rw [holdings_cons] at h
  exact (h.sole hlocks).1

/-! ## Sessions -/

/-- The activity may yet queue a packet. -/
def Activity.sends : Activity → Prop
  | .transmit _ _ _ => True
  | .push _ => True
  | _ => False

/-- The activity flushes the packets of a device that is being closed, or will. -/
def Activity.flushes : Activity → Prop
  | .flushIrps closing => closing = true
  | .flushIrp _ closing => closing = true
  | .flushPackets closing => closing = true
  | _ => False

/-- No packet is queued, and nobody is going to queue one. -/
structure Quiet (q : Pool Exchange Activity) : Prop where
  packets : q.shared.packets = []
  nobody : ∀ k ∈ q.active, ¬ k.sends

/-- When the device is closed, its packets are flushed for as long as somebody may queue one. -/
def Settled (q q' : Pool Exchange Activity) : Prop :=
  .flushPackets true ∈ q.active → .flushPackets true ∉ q'.active → ∀ k ∈ q.active, ¬ k.sends

theorem Activity.flushes.locks {k : Activity} (h : k.flushes) : k.locks = true := by
  cases k <;> first | exact h | exact h.elim

section

variable {x x' : Exchange} {R : Multiset Activity}

theorem Quiet.arrives {k : Option Activity} (h : Quiet ⟨x, R⟩) (hopens : x.opens = false)
    (hs : Arrives x x' k) : Quiet ⟨x', started k + R⟩ := by
  have hnew : x'.packets = [] ∧ ∀ j, k = some j → ¬ j.sends := by
    have hnil : x.packets = [] := h.packets
    cases hs with
    | transmit memory deferred data hopen =>
        rw [hopens] at hopen
        cases hopen
    | _ => exact ⟨hnil, fun j hj => by cases hj <;> exact id⟩
  refine ⟨hnew.1, fun j hj => ?_⟩
  rcases Multiset.mem_add.mp hj with hj | hj
  · exact hnew.2 j (mem_started.mp hj)
  · exact h.nobody j hj

theorem Quiet.moves {k : Activity} {k' : Option Activity} (h : Quiet ⟨x, k ::ₘ R⟩)
    (hs : Moves k x x' k') : Quiet ⟨x', started k' + R⟩ := by
  have hk : ¬ k.sends := h.nobody k (Multiset.mem_cons_self k R)
  have hnew : x'.packets = [] ∧ ∀ j, k' = some j → ¬ j.sends := by
    have hnil : x.packets = [] := h.packets
    cases hs with
    | filtered packet => exact absurd trivial hk
    | queued hup hroom => exact absurd trivial hk
    | taken hup hirps hpackets => rw [hnil] at hpackets; cases hpackets
    | served hup hirps hpackets => rw [hnil] at hpackets; cases hpackets
    | flushPacket hpackets => rw [hnil] at hpackets; cases hpackets
    | completed => exact ⟨hnil, fun j hj => by split at hj <;> cases hj; exact id⟩
    | _ => exact ⟨hnil, fun j hj => by cases hj <;> exact id⟩
  refine ⟨hnew.1, fun j hj => ?_⟩
  rcases Multiset.mem_add.mp hj with hj | hj
  · exact hnew.2 j (mem_started.mp hj)
  · exact h.nobody j (Multiset.mem_cons_of_mem hj)

end

/-- Nothing waits when the device is opened. -/
def OpenedEmpty (before : List Event) (e : Event) : Prop :=
  e = .opened → left before = queued before

/-- While nobody has the device open it is being flushed, or nothing is queued. -/
structure Isolated (q : Pool Exchange Activity) : Prop where
  shut : q.shared.opens = false →
    q.shared.halt = true ∨ (∃ k ∈ q.active, k.flushes) ∨ Quiet q
  opening : .openTap true ∈ q.active → q.shared.opens = false ∧ Quiet q
  fresh : Along OpenedEmpty [] q.shared.log

section

variable {x x' : Exchange} {R : Multiset Activity}

theorem Arrives.opens {k : Option Activity} (hs : Arrives x x' k) (h : x'.opens = false) :
    x.opens = false ∨ x'.halt = true := by
  cases hs with
  | halt => exact .inr rfl
  | _ => exact .inl h

theorem Arrives.keepsHalt {k : Option Activity} (hs : Arrives x x' k) (h : x.halt = true) :
    x'.halt = true := by
  cases hs with
  | halt => rfl
  | _ => exact h

theorem Arrives.stays_shut {k : Option Activity} (hs : Arrives x x' k) (h : x.opens = false) :
    x'.opens = false := by
  cases hs with
  | halt => rfl
  | _ => exact h

theorem Arrives.not_opening {k : Option Activity} (hs : Arrives x x' k) :
    k ≠ some (.openTap true) := by
  cases hs <;> simp

theorem Arrives.along {k : Option Activity} (hs : Arrives x x' k)
    (h : Along OpenedEmpty [] x.log) : Along OpenedEmpty [] x'.log := by
  cases hs <;> simp [along_append, h, OpenedEmpty, Along]

theorem Isolated.arrives {k : Option Activity} (h : Isolated ⟨x, R⟩) (hs : Arrives x x' k) :
    Isolated ⟨x', started k + R⟩ := by
  refine ⟨fun hopens => ?_, fun hopening => ?_, hs.along h.fresh⟩
  · rcases hs.opens hopens with hshut | hhalt
    · rcases h.shut hshut with hhalt | ⟨j, hj, hflush⟩ | hquiet
      · exact .inl (hs.keepsHalt hhalt)
      · exact .inr (.inl ⟨j, Multiset.mem_add.mpr (.inr hj), hflush⟩)
      · exact .inr (.inr (hquiet.arrives hshut hs))
    · exact .inl hhalt
  · have hmem : .openTap true ∈ R := by
      rcases Multiset.mem_add.mp hopening with hnew | hmem
      · exact absurd (mem_started.mp hnew) hs.not_opening
      · exact hmem
    obtain ⟨hshut, hquiet⟩ := h.opening hmem
    exact ⟨hs.stays_shut hshut, hquiet.arrives hshut hs⟩

theorem Moves.opens {k : Activity} {k' : Option Activity} (hs : Moves k x x' k')
    (h : x'.opens = false) : x.opens = false ∨ ∃ j, k' = some j ∧ j.flushes := by
  cases hs with
  | closing hfree => exact .inr ⟨_, rfl, rfl⟩
  | opened => cases h
  | _ => exact .inl h

theorem Moves.stays_shut {k : Activity} {k' : Option Activity} (hs : Moves k x x' k')
    (h : x.opens = false) : x'.opens = false ∨ k = .openTap true := by
  cases hs with
  | opened => exact .inr rfl
  | closing hfree => exact .inl rfl
  | _ => exact .inl h

theorem Moves.keepsHalt {k : Activity} {k' : Option Activity} (hs : Moves k x x' k') :
    x'.halt = x.halt := by
  cases hs <;> rfl

/-- A flush goes on until no packet is left. -/
theorem Moves.flushes {k : Activity} {k' : Option Activity} (hs : Moves k x x' k')
    (h : k.flushes) :
    (∃ j, k' = some j ∧ j.flushes) ∨
      k = .flushPackets true ∧ x.packets = [] ∧ x' = x ∧ k' = some (.flushInject true) := by
  cases hs with
  | flushIrp hirps => exact .inl ⟨_, rfl, h⟩
  | noIrps hnil => exact .inl ⟨_, rfl, h⟩
  | flushedIrp => exact .inl ⟨_, rfl, h⟩
  | flushPacket hpackets => exact .inl ⟨_, rfl, h⟩
  | noPackets hnil =>
      have hclosing : _ = true := h
      subst hclosing
      exact .inr ⟨rfl, hnil, rfl, rfl⟩
  | _ => exact absurd h id

/-- Only an activity that found the device closed opens it. -/
theorem Moves.opening {k : Activity} {k' : Option Activity} (hs : Moves k x x' k')
    (h : k' = some (.openTap true)) :
    x.running = true ∧ x.opens = false ∧ x.openClose = false ∧ x'.opens = false := by
  cases hs with
  | creating available hfree hopen =>
      cases h
      obtain ⟨hrunning, hopens⟩ := hopen rfl
      exact ⟨hrunning, hopens, hfree, hopens⟩
  | completed => split at h <;> cases h
  | _ => cases h

theorem along_moves {k : Activity} {k' : Option Activity} (hs : Moves k x x' k')
    (hopened : k = .openTap true → left x.log = queued x.log)
    (h : Along OpenedEmpty [] x.log) : Along OpenedEmpty [] x'.log := by
  cases hs with
  | opened => simpa [along_append, h, OpenedEmpty] using hopened rfl
  | _ => simp [along_append, h, OpenedEmpty, Along]

theorem Isolated.moves {k : Activity} {k' : Option Activity} (h : Isolated ⟨x, k ::ₘ R⟩)
    (hruns : Runs Unused ExchangeStep ⟨x, k ::ₘ R⟩) (hs : Moves k x x' k')
    (hsettled : Settled ⟨x, k ::ₘ R⟩ ⟨x', started k' + R⟩) :
    Isolated ⟨x', started k' + R⟩ := by
  have hlock := locked hruns
  refine ⟨fun hopens => ?_, fun hopening => ?_, along_moves hs ?_ h.fresh⟩
  · rcases hs.opens hopens with hshut | ⟨j, hj, hflush⟩
    · rcases h.shut hshut with hhalt | ⟨j, hj, hflush⟩ | hquiet
      · exact .inl (by rw [hs.keepsHalt]; exact hhalt)
      · right
        rcases Multiset.mem_cons.mp hj with rfl | hj
        · rcases hs.flushes hflush with ⟨j, hj, hflush⟩ | ⟨rfl, hnil, rfl, rfl⟩
          · exact .inl ⟨j, Multiset.mem_add.mpr (.inl (mem_started.mpr hj)), hflush⟩
          · -- the last turn of the flush: by the condition nobody is going to queue a packet
            have hgone : .flushPackets true ∉ started (some (.flushInject true)) + R := by
              intro hmem
              rcases Multiset.mem_add.mp hmem with hmem | hmem
              · cases mem_started.mp hmem
              · have hnot := not_locks_of_sole hlock rfl _ hmem
                cases hnot
            have hnobody := hsettled (Multiset.mem_cons_self _ _) hgone
            have hquiet : Quiet ⟨x', .flushPackets true ::ₘ R⟩ := ⟨hnil, hnobody⟩
            exact .inr (hquiet.moves hs)
        · exact .inl ⟨j, Multiset.mem_add.mpr (.inr hj), hflush⟩
      · exact .inr (.inr (hquiet.moves hs))
    · exact .inr (.inl ⟨j, Multiset.mem_add.mpr (.inl (mem_started.mpr hj)), hflush⟩)
  · rcases Multiset.mem_add.mp hopening with hnew | hmem
    · obtain ⟨hrunning, hshut, hfree, hshut'⟩ := hs.opening (mem_started.mp hnew)
      refine ⟨hshut', ?_⟩
      rcases h.shut hshut with hhalt | ⟨j, hj, hflush⟩ | hquiet
      · rw [((halting hruns).down hhalt).1] at hrunning
        cases hrunning
      · -- whoever flushes holds the mutex
        rw [hlock.openClose hj hflush.locks] at hfree
        cases hfree
      · exact hquiet.moves hs
    · obtain ⟨hshut, hquiet⟩ := h.opening (Multiset.mem_cons_of_mem hmem)
      refine ⟨?_, hquiet.moves hs⟩
      rcases hs.stays_shut hshut with hshut' | rfl
      · exact hshut'
      · have hnot := not_locks_of_sole hlock rfl _ hmem
        cases hnot
  · rintro rfl
    obtain ⟨-, hquiet⟩ := h.opening (Multiset.mem_cons_self _ _)
    have horder := (inOrder hruns).packets
    rwa [hquiet.packets, List.append_nil] at horder

end

theorem isolated {q : Pool Exchange Activity}
    (h : Runs Unused (Provided ExchangeStep Settled) q) :
    Runs Unused ExchangeStep q ∧ Isolated q := by
  refine h.invariant (I := fun q => Runs Unused ExchangeStep q ∧ Isolated q) ?_ ?_
  · intro q hq
    refine ⟨.start hq, fun _ => .inr (.inr ⟨hq.packets, ?_⟩), ?_, ?_⟩
    · simp [hq.active]
    · simp [hq.active]
    · simp [hq.log]
  · intro q q' ⟨hruns, hisolated⟩ ⟨hs, hsettled⟩
    refine ⟨hruns.next hs, ?_⟩
    cases hs with
    | spawn hb => exact hisolated.arrives hb
    | advance hg => exact hisolated.moves hruns hg hsettled

/-- A frame that was looked at before the device was closed is queued after the flush, and read by
the program that opens the device next. -/
def staleSchedule : List Turn :=
  [.enter .create, .goOn .create, .goOn (.openTap true),
    .enter (.transmit true true true 60 [plainFrame]), .goOn (.transmit true true plainFrame),
    .enter .close, .goOn .close, .goOn (.flushIrps true), .goOn (.flushPackets true),
    .goOn (.flushInject true), .goOn .release, .goOn (.push (packetOf plainFrame)),
    .enter .create, .goOn .create, .goOn (.openTap true), .enter (.read ⟨1, 1500⟩ .mapped),
    .goOn (.immediate ⟨1, 1500⟩), .goOn .cycle,
    .goOn (.complete ⟨1, 1500⟩ (packetOf plainFrame) false)]

theorem staleSchedule_runs : ∃ p, Runs Created DriverStep p ∧ p.active = 0 ∧
    p.shared.log = [.opened, .sent plainFrame, .closed, .queued (packetOf plainFrame)] ++
      .opened :: [.issued ⟨1, 1500⟩, .accepted ⟨1, 1500⟩, .taken ⟨1, 1500⟩ (packetOf plainFrame),
        .completed ⟨1, 1500⟩ ⟨.success, plainFrame.length, plainFrame⟩] := by
  have hsome : ((runOf plainAdapter staleSchedule).any fun p =>
      decide (p.active = 0 ∧
        p.shared.log = [.opened, .sent plainFrame, .closed, .queued (packetOf plainFrame)] ++
          .opened :: [.issued ⟨1, 1500⟩, .accepted ⟨1, 1500⟩,
            .taken ⟨1, 1500⟩ (packetOf plainFrame),
            .completed ⟨1, 1500⟩ ⟨.success, plainFrame.length, plainFrame⟩])) = true := by
    decide +kernel
  obtain ⟨p, hp, hdone⟩ := (Option.any_eq_true _ _).mp hsome
  exact ⟨p, runOf_runs hp, of_decide_eq_true hdone⟩

/-- What is served has left the queue. -/
theorem served_sublist_left (log : List Event) :
    ((served log).map Prod.snd).Sublist (left log) := by
  induction log with
  | nil => exact .slnil
  | cons e log ih =>
      cases e with
      | taken irp packet => simpa using ih
      | flushed packet => simpa using ih.cons packet
      | _ => simpa using ih

/-- Where the flush of a device that is closed outlasts the frames that were on their way, the
packets that leave the queue from the next open on are in order those that are queued from then on,
so that reads get no others; where it does not, a program reads a frame that was sent while the
one before had the device open. -/
theorem sessions_isolated :
    (∀ p : Driver, Runs Created (Provided DriverStep fun p p' =>
        Settled (p.map TapDevice.exchange) (p'.map TapDevice.exchange)) p →
      astray p.shared.log = [] → ∀ before after, p.shared.log = before ++ .opened :: after →
        left after ++ p.shared.packetQueue.items = queued after ∧
          ((served after).map Prod.snd).Sublist (queued after) ∧ (answered after).Nodup) ∧
    ∃ p : Driver, Runs Created DriverStep p ∧ p.active = 0 ∧ ∃ first second after irp frame,
      p.shared.log = first ++ .closed :: second ++ .opened :: after ∧ .sent frame ∈ first ∧
        served after = [(irp, packetOf frame)] ∧ queued after = [] ∧
        .completed irp ⟨.success, frame.length, frame⟩ ∈ after := by
  constructor
  · intro p h hfound before after hlog
    obtain ⟨hruns, hisolated⟩ := isolated (driver_exchanges_provided h)
    have hdriver : Runs Created DriverStep p := h.map id (fun _ hp => hp) fun _ _ hs => hs.1
    have horder : left p.shared.log ++ p.shared.packetQueue.items = queued p.shared.log :=
      (inOrder hruns).packets
    have hfresh : Along OpenedEmpty [] p.shared.log := hisolated.fresh
    have hnodup := answered_nodup hdriver hfound
    rw [hlog] at horder hfresh hnodup
    have hempty : left before = queued before := hfresh.at rfl rfl
    simp only [left, queued, collect_append, collect_cons, Event.leave, Event.queue,
      Option.toList_none, List.nil_append, List.append_assoc] at horder hempty
    rw [hempty] at horder
    have hleft : left after ++ p.shared.packetQueue.items = queued after :=
      List.append_cancel_left horder
    refine ⟨hleft, ?_, ?_⟩
    · rw [← hleft]
      exact (served_sublist_left after).trans (List.sublist_append_left _ _)
    · simp only [answered, collect_append, collect_cons, Event.answer, Option.toList_none,
        List.nil_append] at hnodup
      exact hnodup.of_append_right
  · obtain ⟨p, hruns, hactive, hlog⟩ := staleSchedule_runs
    refine ⟨p, hruns, hactive, [.opened, .sent plainFrame], [.queued (packetOf plainFrame)], _,
      ⟨1, 1500⟩, plainFrame, hlog, ?_, rfl, rfl, ?_⟩ <;> simp

end TapCfg.TapWin32
