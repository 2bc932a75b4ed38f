/-
  TapWin32/Requests.lean --- no read request and no packet is lost or served twice.

  Source: drivers/windows/tap-win32/tapdrvr.c, lines 1795-1860, 2285-2340,
  2599-2680 and 2689-2770.

  A read request is answered by whoever took it from its queue: the loop of
  `AdapterTransmit`, `CancelIRP`, or one of the flushes; or by the call that
  brought it.  They may all run at once.  The exception is a cancel routine that
  is refused the lock of the adapters: it answers a request that stays where it
  is, to be answered again.
-/
import TapCfg.TapWin32.Exchange

set_option autoImplicit false

namespace TapCfg.TapWin32

open TapCfg.Foundation

/-! ## What the log tells -/

@[simp] def Event.answer : Event → Option Irp
  | .completed irp _ => some irp
  | .astray irp => some irp
  | _ => none

@[simp] def Event.settle : Event → Option Irp
  | .completed irp _ => some irp
  | _ => none

@[simp] def Event.stray : Event → Option Irp
  | .astray irp => some irp
  | _ => none

@[simp] def Event.accept : Event → Option Irp
  | .accepted irp => some irp
  | _ => none

@[simp] def Event.queue : Event → Option TapPacket
  | .queued packet => some packet
  | _ => none

@[simp] def Event.leave : Event → Option TapPacket
  | .taken _ packet => some packet
  | .flushed packet => some packet
  | _ => none

@[simp] def Event.serve : Event → Option (Irp × TapPacket)
  | .taken irp packet => some (irp, packet)
  | _ => none

/-- The requests that were answered. -/
@[simp] abbrev answered (log : List Event) : List Irp := collect Event.answer log

/-- The requests that were answered by whoever had them. -/
@[simp] abbrev settled (log : List Event) : List Irp := collect Event.settle log

/-- The requests whose cancel routine did not get the adapter. -/
@[simp] abbrev astray (log : List Event) : List Irp := collect Event.stray log

/-- The requests that were queued or served at once. -/
@[simp] abbrev accepted (log : List Event) : List Irp := collect Event.accept log

/-- The packets that were queued. -/
@[simp] abbrev queued (log : List Event) : List TapPacket := collect Event.queue log

/-- The packets that left the queue. -/
@[simp] abbrev left (log : List Event) : List TapPacket := collect Event.leave log

/-- The requests that were served, each with its packet. -/
@[simp] abbrev served (log : List Event) : List (Irp × TapPacket) := collect Event.serve log

/-! ## Requests -/

/-- The request an activity must answer or queue. -/
def Activity.request : Activity → Option Irp
  | .complete irp _ _ => some irp
  | .immediate irp => some irp
  | .pend irp => some irp
  | .refuse irp => some irp
  | .cancelled irp => some irp
  | .flushIrp irp _ => some irp
  | _ => none

/-- What an activity holds. -/
def Activity.requests (k : Activity) : Multiset Irp := started k.request

theorem count_requests (k : Activity) (irp : Irp) :
    k.requests.count irp = if k.request = some irp then 1 else 0 := by
  unfold Activity.requests
  cases k.request with
  | none => simp
  | some other => simp [Multiset.count_singleton, eq_comm]

/-- Every request is settled, queued, or held by one activity. -/
structure Balanced (x : Exchange) (held : Multiset Irp) : Prop where
  nodup : (issued x.log).Nodup
  balance : ∀ irp, (issued x.log).count irp =
    (settled x.log).count irp + x.irps.count irp + held.count irp

section

variable {x x' : Exchange} {R R' : Multiset Irp}

/-- A section that brings no request passes on those there are. -/
theorem Balanced.keep (h : Balanced x R) (hissued : issued x'.log = issued x.log)
    (hmove : ∀ irp, (settled x'.log).count irp + x'.irps.count irp + R'.count irp =
      (settled x.log).count irp + x.irps.count irp + R.count irp) :
    Balanced x' R' := by
  refine ⟨by rw [hissued]; exact h.nodup, fun irp => ?_⟩
  rw [hissued, hmove]
  exact h.balance irp

/-- A new request is settled at once or held. -/
theorem Balanced.issue {new : Irp} (h : Balanced x R) (hnew : new ∉ issued x.log)
    (hissued : issued x'.log = issued x.log ++ [new])
    (hmove : ∀ irp, (settled x'.log).count irp + x'.irps.count irp + R'.count irp =
      (settled x.log).count irp + x.irps.count irp + R.count irp + [new].count irp) :
    Balanced x' R' := by
  refine ⟨?_, fun irp => ?_⟩
  · rw [hissued]
    rw [← List.concat_eq_append]
    exact h.nodup.concat hnew
  · rw [hissued, hmove, ← h.balance irp, List.count_append]

theorem Balanced.arrives {k : Option Activity} (h : Balanced x R) (hs : Arrives x x' k) :
    Balanced x' (holdings Activity.requests (started k) + R) := by
  cases hs with
  | refused status hnew hstatus =>
      refine h.issue hnew (by simp) fun irp => ?_
      simp
      omega
  | read hnew =>
      refine h.issue hnew (by simp) fun irp => ?_
      simp [count_requests, Activity.request, List.count_cons]
      omega
  | _ => exact h.keep (by simp) (by simp [count_requests, Activity.request])

theorem Balanced.moves {k : Activity} {k' : Option Activity} (h : Balanced x (k.requests + R))
    (hs : Moves k x x' k') : Balanced x' (holdings Activity.requests (started k') + R) := by
  cases hs with
  | @extracted _ gone hmem =>
      -- a queue never holds a request twice, so that one leaves it and no other
      have hone : x.irps.count gone = 1 := by
        have hle := List.nodup_iff_count_le_one.mp h.nodup gone
        have hpos := List.count_pos_iff.mpr hmem
        have hbalance := h.balance gone
        omega
      refine h.keep rfl fun irp => ?_
      by_cases heq : gone = irp
      · subst heq
        have hnone : (x.irps.filter fun i => !decide (i = gone)).count gone = 0 := by
          simp [List.count_eq_zero]
        simp [count_requests, Activity.request, hnone, hone]
        omega
      · have hsame : (x.irps.filter fun i => !decide (i = gone)).count irp = x.irps.count irp :=
          List.count_filter (by simpa using Ne.symm heq)
        simp [count_requests, Activity.request, hsame, heq]
  | completed =>
      refine h.keep (by simp) fun irp => ?_
      split <;> simp [count_requests, Activity.request, List.count_cons] <;> omega
  | _ =>
      refine h.keep (by simp) fun irp => ?_
      simp [count_requests, Activity.request, List.count_cons, *]
      try omega

end

theorem count_holdings (A : Multiset Activity) (irp : Irp) :
    (holdings Activity.requests A).count irp = A.countP (fun k => k.request = some irp) := by
  induction A using Multiset.induction with
  | empty => rfl
  | cons k A ih =>
      rw [holdings_cons, Multiset.count_add, ih, count_requests, Multiset.countP_cons]
      exact Nat.add_comm _ _

theorem balanced {q : Pool Exchange Activity} (h : Runs Unused ExchangeStep q) :
    Balanced q.shared (holdings Activity.requests q.active) := by
  refine h.invariant (I := fun q => Balanced q.shared (holdings Activity.requests q.active)) ?_ ?_
  · intro q hq
    refine ⟨?_, fun irp => ?_⟩
    · simp [hq.log]
    · simp [hq.log, hq.irps, hq.active]
  · intro q q' hq hs
    exact hs.accounts (fun _ _ _ _ h hb => h.arrives hb) (fun _ _ _ _ _ h hg => h.moves hg) hq

/-- An answer comes from whoever had the request, or from its cancel routine. -/
theorem count_answered (log : List Event) (irp : Irp) :
    (answered log).count irp = (settled log).count irp + (astray log).count irp := by
  induction log with
  | nil => rfl
  | cons e log ih =>
      cases e <;> simp [List.count_cons] at ih ⊢ <;> omega

/-- What was answered, is queued or is held: every request that was issued, and what went astray. -/
theorem answers_balance {p : Driver} (h : Runs Created DriverStep p) (irp : Irp) :
    (answered p.shared.log).count irp + p.shared.irpQueue.items.count irp +
        p.active.countP (fun k => k.request = some irp) =
      (if irp ∈ issued p.shared.log then 1 else 0) + (astray p.shared.log).count irp := by
  have hbalanced := balanced (driver_exchanges h)
  have hbalance := hbalanced.balance irp
  rw [count_holdings] at hbalance
  have hheld : (issued p.shared.log).count irp = (settled p.shared.log).count irp +
      p.shared.irpQueue.items.count irp + p.active.countP (fun k => k.request = some irp) :=
    hbalance
  have hissued : (issued p.shared.log).count irp = if irp ∈ issued p.shared.log then 1 else 0 :=
    hbalanced.nodup.count
  rw [← hissued, hheld, count_answered]
  omega

/-- An adapter that is always connected. -/
def plainAdapter : TapAdapter where
  mac := #v[0, 0xff, 1, 2, 3, 4]
  mediaState := 1

/-- The program opens the device and reads. -/
def openAndRead (irp : Irp) : List Turn :=
  [.enter .create, .goOn .create, .goOn (.openTap true), .enter (.read irp .mapped),
    .goOn (.immediate irp), .goOn (.pend irp)]

/-- A frame of the system. -/
def plainFrame : List Byte := List.replicate 60 7

/-- The frame serves the request that waits. -/
def frameTurns (irp : Irp) : List Turn :=
  [.enter (.transmit true true true 60 [plainFrame]), .goOn (.transmit true true plainFrame),
    .goOn (.push (packetOf plainFrame)), .goOn .cycle,
    .goOn (.complete irp (packetOf plainFrame) true), .goOn .cycle]

/-- A request is cancelled by a routine that is refused the adapter, and then served. -/
def straySchedule : List Turn :=
  openAndRead ⟨1, 1500⟩ ++ .enter (.cancel false ⟨1, 1500⟩) :: frameTurns ⟨1, 1500⟩

theorem straySchedule_runs : ∃ p, Runs Created DriverStep p ∧ p.active = 0 ∧
    astray p.shared.log = [⟨1, 1500⟩] ∧ answered p.shared.log = [⟨1, 1500⟩, ⟨1, 1500⟩] := by
  have hsome : ((runOf plainAdapter straySchedule).any fun p =>
      decide (p.active = 0 ∧ astray p.shared.log = [⟨1, 1500⟩] ∧
        answered p.shared.log = [⟨1, 1500⟩, ⟨1, 1500⟩])) = true := by
    decide +kernel
  obtain ⟨p, hp, hdone⟩ := (Option.any_eq_true _ _).mp hsome
  exact ⟨p, runOf_runs hp, of_decide_eq_true hdone⟩

/-- However the calls interleave, a read request is answered exactly once, or it is in the queue,
or exactly one call has it and will answer or queue it; and every cancel routine that is refused
the adapter answers its request once more, so that one can be answered twice. -/
theorem requests_answered_once :
    (∀ p : Driver, Runs Created DriverStep p → ∀ irp,
      (answered p.shared.log).count irp + p.shared.irpQueue.items.count irp +
          p.active.countP (fun k => k.request = some irp) =
        (if irp ∈ issued p.shared.log then 1 else 0) + (astray p.shared.log).count irp) ∧
    ∃ p : Driver, Runs Created DriverStep p ∧ p.active = 0 ∧ ∃ irp,
      astray p.shared.log = [irp] ∧ answered p.shared.log = [irp, irp] := by
  refine ⟨fun p h irp => answers_balance h irp, ?_⟩
  obtain ⟨p, hruns, hactive, hastray, hanswered⟩ := straySchedule_runs
  exact ⟨p, hruns, hactive, _, hastray, hanswered⟩

/-- Where no request goes astray, none is answered twice. -/
theorem answered_nodup {p : Driver} (h : Runs Created DriverStep p)
    (hfound : astray p.shared.log = []) : (answered p.shared.log).Nodup := by
  refine List.nodup_iff_count_le_one.mpr fun irp => ?_
  have hbalance := answers_balance h irp
  rw [hfound, List.count_nil] at hbalance
  split at hbalance <;> omega

/-- Two requests, of which the system cancels the first while a frame is on its way. -/
def cancelSchedule : List Turn :=
  openAndRead ⟨1, 1500⟩ ++
    [.enter (.read ⟨2, 1500⟩ .mapped), .goOn (.immediate ⟨2, 1500⟩), .goOn (.pend ⟨2, 1500⟩),
      .enter (.cancel true ⟨1, 1500⟩),
      .enter (.transmit true true true 60 [plainFrame]), .goOn (.transmit true true plainFrame),
      .goOn (.push (packetOf plainFrame)), .goOn (.cancel ⟨1, 1500⟩), .goOn .cycle,
      .goOn (.cancelled ⟨1, 1500⟩), .goOn (.complete ⟨2, 1500⟩ (packetOf plainFrame) true),
      .goOn .cycle]

theorem cancelSchedule_runs : ∃ p, runOf plainAdapter cancelSchedule = some p ∧
    astray p.shared.log = [] ∧ served p.shared.log = [(⟨2, 1500⟩, packetOf plainFrame)] := by
  have hsome : ((runOf plainAdapter cancelSchedule).any fun p =>
      decide (astray p.shared.log = [] ∧
        served p.shared.log = [(⟨2, 1500⟩, packetOf plainFrame)])) = true := by
    decide +kernel
  obtain ⟨p, hp, hdone⟩ := (Option.any_eq_true _ _).mp hsome
  exact ⟨p, hp, of_decide_eq_true hdone⟩

/-! ## Packets -/

/-- What the log and the queues agree on. -/
structure InOrder (x : Exchange) : Prop where
  /-- what was queued left in order, or waits -/
  packets : left x.log ++ x.packets = queued x.log
  /-- requests are served in the order in which they were accepted -/
  requests : ((served x.log).map Prod.fst ++ x.irps).Sublist (accepted x.log)
  answers : ∀ irp status, .completed irp status ∈ x.log → status.status = .success →
    ∃ packet, (irp, packet) ∈ served x.log ∧ status = completeIrp irp.length.toNat packet

/-- A request is completed with the packet it was taken with. -/
def Paired (x : Exchange) : Activity → Prop
  | .complete irp packet _ => (irp, packet) ∈ served x.log
  | _ => True

theorem Paired.grows {x x' : Exchange} {k : Activity} (h : Paired x k) (hlog : x.log <+: x'.log) :
    Paired x' k := by
  cases k with
  | complete irp packet cycling => exact (collect_grows Event.serve hlog).subset h
  | _ => trivial

/-- A request that was completed anew. -/
theorem InOrder.complete {x : Exchange} {irp : Irp} {status : IoStatus} (h : InOrder x)
    (hok : status.status = .success →
      ∃ packet, (irp, packet) ∈ served x.log ∧ status = completeIrp irp.length.toNat packet) :
    InOrder (x.note (.completed irp status)) := by
  obtain ⟨hpackets, hrequests, hanswers⟩ := h
  refine ⟨by simpa using hpackets, by simpa using hrequests, ?_⟩
  intro i s hmem hs
  rw [Exchange.note_log, List.mem_append, List.mem_singleton, Event.completed.injEq] at hmem
  rcases hmem with hmem | ⟨rfl, rfl⟩
  · simpa using hanswers i s hmem hs
  · simpa using hok hs

theorem InOrder.arrives {x x' : Exchange} {k : Option Activity} (h : InOrder x)
    (hs : Arrives x x' k) : InOrder x' := by
  cases hs with
  | @refused irp status hnew hstatus =>
      have hissued : InOrder (x.note (.issued irp)) :=
        ⟨by simpa using h.packets, by simpa using h.requests, by simpa using h.answers⟩
      exact hissued.complete fun hok => absurd hok hstatus
  | _ => exact ⟨by simpa using h.packets, by simpa using h.requests, by simpa using h.answers⟩

theorem InOrder.moves {x x' : Exchange} {k : Activity} {k' : Option Activity} (h : InOrder x)
    (hk : Paired x k) (hs : Moves k x x' k') : InOrder x' := by
  cases hs with
  | completed => exact h.complete fun _ => ⟨_, hk, rfl⟩
  | refused => exact h.complete fun hok => nomatch hok
  | cancelled => exact h.complete fun hok => nomatch hok
  | flushedIrp => exact h.complete fun hok => nomatch hok
  | @queued _ packet hup hroom =>
      have hrest := congrArg (· ++ [packet]) h.packets
      exact ⟨by simpa using hrest, by simpa using h.requests, by simpa using h.answers⟩
  | taken hup hirps hpackets =>
      have hrest := h.packets
      have horder := h.requests
      rw [hpackets] at hrest
      rw [hirps] at horder
      refine ⟨by simpa using hrest, by simpa using horder, fun irp status hmem hok => ?_⟩
      obtain ⟨packet, hserved, rfl⟩ := h.answers irp status (by simpa using hmem) hok
      exact ⟨packet, by simpa using .inl hserved, rfl⟩
  | served hup hirps hpackets =>
      have hrest := h.packets
      have horder := h.requests
      rw [hpackets] at hrest
      rw [hirps] at horder
      refine ⟨by simpa using hrest, ?_, fun irp status hmem hok => ?_⟩
      · simpa [hirps] using horder
      · obtain ⟨packet, hserved, rfl⟩ := h.answers irp status (by simpa using hmem) hok
        exact ⟨packet, by simpa using .inl hserved, rfl⟩
  | @pended _ irp hup hroom =>
      have horder := h.requests.append_right [irp]
      exact ⟨by simpa using h.packets, by simpa using horder, by simpa using h.answers⟩
  | extracted hmem =>
      refine ⟨h.packets, ?_, h.answers⟩
      exact ((List.Sublist.refl _).append List.filter_sublist).trans h.requests
  | flushIrp hirps =>
      refine ⟨h.packets, ?_, h.answers⟩
      have horder := h.requests
      rw [hirps] at horder
      exact ((List.Sublist.refl _).append (List.sublist_cons_self _ _)).trans horder
  | flushPacket hpackets =>
      have hrest := h.packets
      rw [hpackets] at hrest
      exact ⟨by simpa using hrest, by simpa using h.requests, by simpa using h.answers⟩
  | _ => exact ⟨by simpa using h.packets, by simpa using h.requests, by simpa using h.answers⟩

/-- An activity that is to complete a request has just taken it. -/
theorem Moves.paired {x x' : Exchange} {k : Activity} {k' : Option Activity} (hs : Moves k x x' k') :
    ∀ j, k' = some j → Paired x' j := by
  intro j hj
  cases hs with
  | taken hup hirps hpackets =>
      cases hj
      simp [Paired]
  | served hup hirps hpackets =>
      cases hj
      simp [Paired]
  | completed =>
      split at hj <;> cases hj
      trivial
  | _ => cases hj <;> trivial

theorem Arrives.paired {x x' : Exchange} {k : Option Activity} (hs : Arrives x x' k) :
    ∀ j, k = some j → Paired x' j := by
  intro j hj
  cases hs <;> cases hj <;> trivial

theorem inOrder {q : Pool Exchange Activity} (h : Runs Unused ExchangeStep q) :
    InOrder q.shared := by
  refine (h.invariant (I := Asserts InOrder Paired) ?_ ?_).shared
  · intro q hq
    refine ⟨⟨?_, ?_, ?_⟩, ?_⟩
    · simp [hq.log, hq.packets]
    · simp [hq.log, hq.irps]
    · simp [hq.log]
    · simp [hq.active]
  · intro q q' hq hs
    cases hs with
    | spawn hb => exact hq.spawn (hq.shared.arrives hb) hb.paired fun _ _ hj => hj.grows hb.grows
    | advance hg =>
        exact hq.advance (hq.shared.moves hq.head hg) hg.paired fun _ _ hj => hj.grows hg.grows

/-- However the calls interleave: every packet that was queued leaves the queue once, in the order
of the queue, to one request or to a flush.  Where no request goes astray, requests are served in
the order in which the driver accepted them, each of them is answered at most once, and a read that
succeeds gets the bytes of the packet it was taken with. -/
theorem packets_in_order {p : Driver} (h : Runs Created DriverStep p)
    (hfound : astray p.shared.log = []) :
    left p.shared.log ++ p.shared.packetQueue.items = queued p.shared.log ∧
      ((served p.shared.log).map Prod.fst ++ p.shared.irpQueue.items).Sublist
        (accepted p.shared.log) ∧
      (answered p.shared.log).Nodup ∧
      ∀ irp status, .completed irp status ∈ p.shared.log → status.status = .success →
        ∃ packet, (irp, packet) ∈ served p.shared.log ∧
          status = completeIrp irp.length.toNat packet :=
  have horder := inOrder (driver_exchanges h)
  ⟨horder.packets, horder.requests, answered_nodup h hfound, horder.answers⟩

/-- The packet goes to the request that is left. -/
theorem packets_in_order_cancelled :
    ∃ p, runOf plainAdapter cancelSchedule = some p ∧
      served p.shared.log = [(⟨2, 1500⟩, packetOf plainFrame)] ∧
      left p.shared.log ++ p.shared.packetQueue.items = queued p.shared.log ∧
      ((served p.shared.log).map Prod.fst ++ p.shared.irpQueue.items).Sublist
        (accepted p.shared.log) ∧
      (answered p.shared.log).Nodup := by
  obtain ⟨p, hp, hfound, hserved⟩ := cancelSchedule_runs
  have horder := packets_in_order (runOf_runs hp) hfound
  exact ⟨p, hp, hserved, horder.1, horder.2.1, horder.2.2.1⟩

end TapCfg.TapWin32
