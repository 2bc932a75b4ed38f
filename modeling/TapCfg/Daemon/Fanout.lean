/-
  Daemon/Fanout.lean --- who gets a frame that goes to the clients.

  Source: src/daemon/tapserver.c, lines 182-201 (reader_thread), 259-310
  (writer_thread without a device) and 108-121 (remove_client).

  Both loops take a client out of the table while they walk over it, so the
  client behind it moves to the index just visited and is passed over; below the
  sender a removal also moves the sender away from the index that the forward
  loop leaves out.  `Fanning` follows the walk as a `Sweep`.  A frame reaches all
  it is meant for exactly when no send fails on a client that stands before
  another of these (`broadcast_reaches`, `forward_reaches`).
-/
import TapCfg.Daemon.Server
import TapCfg.Foundation.Sweep

set_option autoImplicit false

namespace TapCfg.Daemon

open TapCfg.Foundation
open Prog

/-! ## The calls -/

/-- The descriptor one event sends to. -/
def Event.target : Event → Option Fd
  | .send fd _ _ => some fd
  | _ => none

/-- The descriptors sent to, call by call. -/
def targets (τ : List Event) : List Fd := τ.filterMap Event.target

/-- Is the event a failed `send` to `fd`? -/
def Event.fails (fd : Fd) : Event → Bool
  | .send s _ none => s == fd
  | _ => false

/-- Has a `send` to `fd` failed? -/
def failed (τ : List Event) (fd : Fd) : Bool := τ.any (Event.fails fd)

@[simp] theorem targets_append (τ ρ : List Event) : targets (τ ++ ρ) = targets τ ++ targets ρ := by
  simp [targets]

@[simp] theorem failed_append (τ ρ : List Event) (fd : Fd) :
    failed (τ ++ ρ) fd = (failed τ fd || failed ρ fd) := by simp [failed]

theorem failed_iff {τ : List Event} {fd : Fd} : failed τ fd = true ↔ SendFailed fd τ := by
  rw [failed, List.any_eq_true]
  refine ⟨?_, fun ⟨d, hd⟩ => ⟨_, hd, beq_self_eq_true fd⟩⟩
  rintro ⟨e, he, hf⟩
  cases e with
  | send s d r =>
      cases r with
      | none =>
          rw [Event.fails, beq_iff_eq] at hf
          exact ⟨d, hf ▸ he⟩
      | some k => cases hf
  | _ => cases hf

/-- Nothing is sent, and nothing fails, where no call is made. -/
theorem not_target {τ : List Event} {fd : Fd} (h : fd ∉ targets τ) :
    sentTo fd τ = [] ∧ failed τ fd = false := by
  have hne : ∀ s d r, Event.send s d r ∈ τ → s ≠ fd := by
    rintro s d r he rfl
    exact h (List.mem_filterMap.mpr ⟨_, he, rfl⟩)
  refine ⟨List.flatMap_eq_nil_iff.mpr fun e he => ?_, ?_⟩
  · cases e with
    | send s d r => cases r <;> simp [Event.sentTo, hne s d _ he]
    | _ => rfl
  · rw [failed, List.any_eq_false]
    intro e he
    cases e with
    | send s d r => cases r <;> simp [Event.fails, hne s d _ he]
    | _ => simp [Event.fails]

theorem SendTrace.targets_eq {L : Allows} {h τ : List Event} {s : Fd} {data : List Byte}
    (hτ : SendTrace L h s data τ) : ∀ fd ∈ targets τ, fd = s := by
  intro fd hfd
  obtain ⟨e, he, htarget⟩ := List.mem_filterMap.mp hfd
  obtain ⟨d, r, -, rfl⟩ := hτ.only e he
  exact (Option.some.inj htarget).symm

/-! ## What a walk over the table owes its clients -/

/-- The calls `τ`, which leave `rest` of the clients `table`, send `data` to the
clients `meant`: just once to each whose sends all succeed, to nobody else, in
table order; and just those for which a send failed are taken out. -/
structure FannedOut (data : List Byte) (meant table : List Fd) (τ : List Event)
    (rest : List Fd) : Prop where
  sent : ∀ fd ∈ meant, ¬ SendFailed fd τ → sentTo fd τ = data
  only : ∀ fd ∈ targets τ, fd ∈ meant
  order : (targets τ).Pairwise fun a b => table.idxOf a ≤ table.idxOf b
  kept : rest = table.filter fun fd => !failed τ fd

/-- The walk that began in `w₀` stands at index `j`: it has made the calls `τ` to
the clients `seen`. -/
structure Fanning (skip : Nat → Bool) (data : List Byte) (w₀ : World) (τ : List Event) (j : Nat)
    (seen : List Fd) (w : World) : Prop where
  wf : w.table.Wf
  hist : w.hist = w₀.hist ++ τ
  sweep : ∀ fails : Fd → Bool, (∀ fd ∈ seen, fails fd = failed τ fd) →
    Sweep skip fails w₀.live j seen w.live
  sent : ∀ fd ∈ seen, failed τ fd = false → sentTo fd τ = data
  only : ∀ fd ∈ targets τ, fd ∈ seen
  order : (targets τ).Pairwise fun a b => w₀.live.idxOf a ≤ w₀.live.idxOf b

namespace Fanning

variable {skip : Nat → Bool} {data : List Byte} {w₀ w w' : World} {τ ρ : List Event} {j : Nat}
  {seen : List Fd} {fd : Fd}

theorem start (skip : Nat → Bool) (data : List Byte) (hw : w.table.Wf) (hnodup : w.live.Nodup) :
    Fanning skip data w [] 0 [] w where
  wf := hw
  hist := by simp
  sweep fails _ := Sweep.start skip fails hnodup
  sent fd hfd := by cases hfd
  only fd hfd := by cases hfd
  order := List.Pairwise.nil

theorem pass (h : Fanning skip data w₀ τ j seen w) (hj : w.live[j]? = some fd)
    (hs : skip j = true) : Fanning skip data w₀ τ (j + 1) seen w :=
  { h with sweep := fun fails hf => (h.sweep fails hf).pass hj hs }

theorem fresh (h : Fanning skip data w₀ τ j seen w) (hj : w.live[j]? = some fd) : fd ∉ seen :=
  (h.sweep (failed τ) fun _ _ => rfl).fresh hj

/-- What the calls to the client at the index add to the account. -/
theorem visited (h : Fanning skip data w₀ τ j seen w) (hj : w.live[j]? = some fd)
    (hρ : ∀ a ∈ targets ρ, a = fd) (hsent : failed ρ fd = false → sentTo fd ρ = data) :
    (∀ a ∈ seen ++ [fd], failed (τ ++ ρ) a = false → sentTo a (τ ++ ρ) = data) ∧
      (∀ a ∈ targets (τ ++ ρ), a ∈ seen ++ [fd]) ∧
      (targets (τ ++ ρ)).Pairwise (fun a b => w₀.live.idxOf a ≤ w₀.live.idxOf b) ∧
      failed (τ ++ ρ) fd = failed ρ fd ∧ ∀ a ∈ seen, failed (τ ++ ρ) a = failed τ a := by
  have hnew : fd ∉ targets τ := fun hmem => h.fresh hj (h.only fd hmem)
  have hold : ∀ a ∈ seen, a ∉ targets ρ := by
    intro a ha hmem
    rw [hρ a hmem] at ha
    exact h.fresh hj ha
  refine ⟨fun a ha hnf => ?_, fun a ha => ?_, ?_, ?_, fun a ha => ?_⟩
  · rw [failed_append, Bool.or_eq_false_iff] at hnf
    rw [sentTo_append]
    rcases List.mem_append.mp ha with ha | ha
    · rw [(not_target (hold a ha)).1, List.append_nil]
      exact h.sent a ha hnf.1
    · rw [List.mem_singleton.mp ha] at hnf ⊢
      rw [(not_target hnew).1, List.nil_append]
      exact hsent hnf.2
  · rw [targets_append] at ha
    rw [List.mem_append, List.mem_singleton]
    exact (List.mem_append.mp ha).imp (h.only a) (hρ a)
  · rw [targets_append]
    refine List.pairwise_append.mpr ⟨h.order, ?_, fun a ha b hb => ?_⟩
    · refine List.pairwise_of_forall_mem_list fun a ha b hb => ?_
      exact Nat.le_of_eq (by rw [hρ a ha, hρ b hb])
    · rw [hρ b hb]
      exact (h.sweep (failed τ) fun _ _ => rfl).before hj (h.only a ha)
  · rw [failed_append, (not_target hnew).2, Bool.false_or]
  · rw [failed_append, (not_target (hold a ha)).2, Bool.or_false]

/-- The record was accepted whole. -/
theorem sending (h : Fanning skip data w₀ τ j seen w) (hj : w.live[j]? = some fd)
    (hs : skip j = false) {L : Allows} (hρ : SendTrace L w.hist fd data ρ)
    (hnf : ¬ SendFailed fd ρ) (hsent : sentTo fd ρ = data) :
    Fanning skip data w₀ (τ ++ ρ) (j + 1) (seen ++ [fd]) (w.log ρ) := by
  obtain ⟨hsent', honly, horder, hnew, hold⟩ := h.visited hj hρ.targets_eq fun _ => hsent
  refine ⟨h.wf, by rw [World.log_hist, h.hist, List.append_assoc], fun fails hf => ?_, hsent',
    honly, horder⟩
  have hfd := hf fd (by simp)
  rw [hnew, Bool.eq_false_iff.mpr fun hf => hnf (failed_iff.mp hf)] at hfd
  exact (h.sweep fails fun a ha =>
    (hf a (List.mem_append_left _ ha)).trans (hold a ha)).keep hj hs hfd

/-- A send failed and the client was taken out. -/
theorem dropping (h : Fanning skip data w₀ τ j seen w) (hj : w.live[j]? = some fd)
    (hs : skip j = false) {L : Allows} (hρ : SendTrace L w.hist fd data ρ)
    (hfail : SendFailed fd ρ) (hr : removeClient (w.log ρ) j = .ok w') :
    Fanning skip data w₀ (τ ++ (ρ ++ [.removed fd])) (j + 1) (seen ++ [fd]) w' := by
  obtain ⟨hwf, hlive, hhist, -⟩ := removeClient_spec (w := w.log ρ) h.wf hj hr
  have hmark : failed (ρ ++ [.removed fd]) fd = true := by
    rw [failed_append, failed_iff.mpr hfail, Bool.true_or]
  have htargets : ∀ a ∈ targets (ρ ++ [.removed fd]), a = fd := by
    rw [targets_append, show targets [.removed fd] = [] from rfl, List.append_nil]
    exact hρ.targets_eq
  obtain ⟨hsent, honly, horder, hnew, hold⟩ := h.visited hj htargets fun hf => by
    rw [hmark] at hf
    cases hf
  refine ⟨hwf, ?_, fun fails hf => ?_, hsent, honly, horder⟩
  · rw [hhist, World.log_hist, h.hist, List.append_assoc, List.append_assoc]
  · have hfd := hf fd (by simp)
    rw [hnew, hmark] at hfd
    rw [hlive]
    exact (h.sweep fails fun a ha =>
      (hf a (List.mem_append_left _ ha)).trans (hold a ha)).drop hj hs hfd

theorem lt_live (h : Fanning skip data w₀ τ j seen w) (hj : w.live[j]? = some fd) :
    j < w₀.live.length := by
  have hlen := List.length_filter_le (fun a => !(decide (a ∈ seen) && failed τ a)) w₀.live
  rw [← (h.sweep (failed τ) fun _ _ => rfl).erased] at hlen
  exact Nat.lt_of_lt_of_le (List.getElem?_eq_some_iff.mp hj).1 hlen

/-- The clients it has visited are those it has made calls to. -/
theorem mem_targets (h : Fanning skip data w₀ τ j seen w) (hdata : data ≠ []) (hfd : fd ∈ seen) :
    fd ∈ targets τ := by
  by_contra hnot
  obtain ⟨hnone, hnf⟩ := not_target hnot
  exact hdata ((h.sent fd hfd hnf).symm.trans hnone)

/-- At the end of the walk, it has reached the clients `meant` exactly when these
are the clients it has visited. -/
theorem fannedOut_iff (h : Fanning skip data w₀ τ j seen w) (hdata : data ≠ [])
    (hj : w.live.length ≤ j) {meant : List Fd} (hsub : meant.Sublist w₀.live) :
    FannedOut data meant w₀.live τ w.live ↔ visits skip (failed τ) 0 w₀.live = meant := by
  have hsweep := h.sweep (failed τ) fun _ _ => rfl
  rw [← hsweep.done hj]
  constructor
  · intro hout
    have hseen : seen.Sublist w₀.live := (List.sublist_append_left seen _).trans hsweep.order
    refine sublist_eq hsweep.nodup hseen hsub
      fun fd => ⟨fun hfd => hout.only fd (h.mem_targets hdata hfd), fun hfd => ?_⟩
    apply h.only fd
    by_contra hnot
    obtain ⟨hnone, hnf⟩ := not_target hnot
    refine hdata ((hout.sent fd hfd fun hf => ?_).symm.trans hnone)
    rw [failed_iff.mpr hf] at hnf
    cases hnf
  · rintro rfl
    refine ⟨fun fd hfd hnf => h.sent fd hfd ?_, h.only, h.order, ?_⟩
    · exact Bool.eq_false_iff.mpr fun hf => hnf (failed_iff.mp hf)
    · rw [hsweep.erased]
      apply List.filter_congr
      intro fd _
      by_cases hfd : fd ∈ seen
      · simp [hfd]
      · simp [hfd, (not_target fun hmem => hfd (h.only fd hmem)).2]

end Fanning

/-! ## The two walks -/

/-- Enough for the calls of one record and the iterations of the walk. -/
def relayBound (w₀ : World) : Nat := w₀.live.length + bufSize + 4

/-- The walk has not returned yet: a bound that is used up was a low one, or a
call to `send` need not make progress. -/
def Unfinished (L : Allows) (w₀ : World) (fuel : Nat) (e : Fault) (_ : World) : Prop :=
  e = .fuel ∧ (Progressive L → fuel < relayBound w₀)

section Walks

variable (L : Allows)

theorem relay_fanning (w₀ : World) (skip : Nat → Bool) {frame : List Byte}
    (hlegal : Legal bufSize frame) (fuel : Nat) :
    RelayInv L skip (record frame) (fun _ => True)
      (fun w => ∃ τ seen j, Fanning skip (record frame) w₀ τ j seen w ∧ w.live.length ≤ j)
      (Unfinished L w₀ fuel)
      (fun n j w => (∃ τ seen, Fanning skip (record frame) w₀ τ j seen w) ∧
        j ≤ w₀.live.length ∧ fuel ≤ n + j) where
  wf h := by
    obtain ⟨⟨τ, seen, hf⟩, -⟩ := h
    exact hf.wf
  holds _ := trivial
  skipped h hj hs := by
    obtain ⟨⟨τ, seen, hf⟩, -, hle⟩ := h
    have hlt := hf.lt_live hj
    exact ⟨⟨τ, seen, hf.pass hj hs⟩, by omega, by omega⟩
  mid _ _ _ _ := trivial
  sent h hj hs hτ hnf hsent := by
    obtain ⟨⟨τ, seen, hf⟩, -, hle⟩ := h
    have hlt := hf.lt_live hj
    exact ⟨⟨_, _, hf.sending hj hs hτ hnf hsent⟩, by omega, by omega⟩
  dropped h hj hs hτ hfail hr := by
    obtain ⟨⟨τ, seen, hf⟩, -, hle⟩ := h
    have hlt := hf.lt_live hj
    exact ⟨⟨_, _, hf.dropping hj hs hτ hfail hr⟩, by omega, by omega⟩
  spent h := by
    obtain ⟨-, hj, hle⟩ := h
    refine ⟨rfl, fun _ => ?_⟩
    unfold relayBound
    omega
  stuck h hj _ hτ hle hnf := by
    obtain ⟨⟨τ, seen, hf⟩, -, hbound⟩ := h
    have hlt := hf.lt_live hj
    have hframe := hlegal.2
    refine ⟨rfl, fun hL => ?_⟩
    have hcalls := hτ.length_le hL hnf
    rw [record_length] at hcalls
    unfold relayBound
    omega
  done h hj := by
    obtain ⟨⟨τ, seen, hf⟩, -⟩ := h
    exact ⟨τ, seen, _, hf, hj⟩

/-- The walk that began in `w₀` is over; who has been reached is told by the
failures. -/
theorem Fanning.account {skip : Nat → Bool} {frame : List Byte} {w₀ w : World} {τ : List Event}
    {j : Nat} {seen : List Fd} (h : Fanning skip (record frame) w₀ τ j seen w)
    (hj : w.live.length ≤ j) {meant : List Fd} (hsub : meant.Sublist w₀.live)
    (hvisits : visits skip (failed τ) 0 w₀.live = meant ↔
      ∀ fd ∈ meant.dropLast, failed τ fd = false) :
    FannedOut (record frame) meant w₀.live τ w.live ↔ ∀ fd ∈ meant.dropLast, ¬ SendFailed fd τ := by
  rw [h.fannedOut_iff (record_ne_nil frame) hj hsub, hvisits]
  simp only [← failed_iff, Bool.not_eq_true]

/-- A broadcast pass returns when its sends make progress.  It reaches every
client exactly when no send fails but on the last one. -/
theorem broadcast_reaches {w₀ : World} (hw : w₀.table.Wf) (hnodup : w₀.live.Nodup)
    {frame : List Byte} (hlegal : Legal bufSize frame) (fuel : Nat) :
    Sat (osEnv L) (fun _ => True)
      (fun _ w => ∃ τ, w.hist = w₀.hist ++ τ ∧
        (FannedOut (record frame) w₀.live w₀.live τ w.live ↔
          ∀ fd ∈ w₀.live.dropLast, ¬ SendFailed fd τ))
      (Unfinished L w₀ fuel) (broadcast fuel frame) w₀ := by
  refine ((relay_fanning L w₀ _ hlegal fuel).sat_broadcast hlegal
    ⟨⟨[], [], .start _ _ hw hnodup⟩, Nat.zero_le _, Nat.le_refl _⟩).mono (fun _ h => h) ?_
    (fun _ _ _ h => h)
  rintro - w - ⟨τ, seen, j, hf, hj⟩
  exact ⟨τ, hf.hist, hf.account hj (List.Sublist.refl _) (visits_all_iff fun _ _ => rfl)⟩

/-- What the iteration that serves client `c`, at index `i`, comes to in
forwarder mode: no record, and the client is taken out; or a complete frame,
which reaches all the others exactly when no send fails but on the last of
them. -/
def Served (w₀ : World) (i : Nat) (c : Fd) (w : World) : Prop :=
  ∃ ρ, RecordTrace L (w₀.hist ++ [.serving c]) c ρ ∧
    ((Refused c ρ ∧ w.hist = w₀.hist ++ .serving c :: ρ ++ [.removed c]) ∨
      ∃ frame τ, Legal bufSize frame ∧ receivedFrom c ρ = record frame ∧
        w.hist = w₀.hist ++ .serving c :: ρ ++ .forward c frame :: τ ∧
        (FannedOut (record frame) (w₀.live.eraseIdx i) w₀.live τ w.live ↔
          ∀ fd ∈ (w₀.live.eraseIdx i).dropLast, ¬ SendFailed fd τ))

/-- The bound on the calls is used up in the middle of the record. -/
def Reading (w₀ : World) (c : Fd) (e : Fault) (w : World) : Prop :=
  e = .fuel ∧ ∃ ρ, RecordTrace L (w₀.hist ++ [.serving c]) c ρ ∧ w = w₀.log (.serving c :: ρ)

/-- In forwarder mode a client is served so, and the walk over the others
returns when its sends make progress. -/
theorem forward_reaches {w₀ : World} (hw : w₀.table.Wf) (hnodup : w₀.live.Nodup) {i : Nat} {c : Fd}
    (hi : w₀.live[i]? = some c) {ready : List Fd} (hready : c ∈ ready) {buf : List Byte}
    (hbuf : buf.length = bufSize) (fuel : Nat) :
    Sat (osEnv L) (fun _ => True) (fun _ w => Served L w₀ i c w)
      (fun e w => Reading L w₀ c e w ∨ Unfinished L w₀ fuel e w)
      (serviceClient fuel false ready i buf) w₀ := by
  have hin : i < w₀.live.length := (List.getElem?_eq_some_iff.mp hi).1
  refine sat_serviceClient hbuf hw hi trivial (fun hnot => (hnot hready).elim)
    (fun _ _ _ => trivial) ?_ (fun htap => by cases htap) ?_ ?_
  · intro _ ρ w buf' hρ hrefused hr _
    obtain ⟨-, -, hhist, -⟩ := removeClient_spec (w := w₀.log (.serving c :: ρ)) hw hi hr
    exact ⟨trivial, ρ, hρ, .inl ⟨hrefused, hhist⟩⟩
  · intro _ _ ρ frame buf' hρ hlegal hgot hbuf' htake
    refine ((relay_fanning L (w₀.log (.serving c :: ρ ++ [.forward c frame])) _ hlegal
      fuel).sat_forwardLoop hlegal hbuf' htake
      ⟨⟨[], [], .start _ _ hw hnodup⟩, Nat.zero_le _, Nat.le_refl _⟩).mono (fun _ h => h) ?_
      (fun _ _ _ h => Or.inr h)
    rintro - w - ⟨τ, seen, j, hf, hj⟩
    refine ⟨ρ, hρ, .inr ⟨frame, τ, hlegal, hgot, ?_, ?_⟩⟩
    · rw [hf.hist, World.log_hist]
      simp
    · exact hf.account hj (List.eraseIdx_sublist _ _) (visits_others_iff hnodup hin)
  · intro _ ρ hρ _ _
    exact .inl ⟨rfl, ρ, hρ, rfl⟩

end Walks

/-! ## Walks that reach everybody, and two that do not -/

/-- An environment like `scripted` in which sends to the clients `bad` fail. -/
def refusing (bad : List Fd) (stream : Fd → List Byte) : Responder World Call Call.Ans :=
  fun w c => match c with
  | .send fd data =>
      if fd ∈ bad then (none, w.log [.send fd data none]) else scripted stream 1 w (.send fd data)
  | c => scripted stream 1 w c

theorem refusing_follows (bad : List Fd) (stream : Fd → List Byte) :
    Follows (refusing bad stream) (osEnv anyAnswer) := by
  intro w c
  cases c with
  | send fd data =>
      by_cases hbad : fd ∈ bad
      · rw [show refusing bad stream w (.send fd data) = (none, w.log [.send fd data none]) from
          if_pos hbad]
        exact ⟨trivial, trivial, rfl⟩
      · rw [show refusing bad stream w (.send fd data) = scripted stream 1 w (.send fd data) from
          if_neg hbad]
        exact scripted_follows_any stream 1 w _
  | recv fd n => exact scripted_follows_any stream 1 w _
  | write fd data => exact scripted_follows_any stream 1 w _

/-- A table of two clients. -/
def twoClients : World := ⟨.holding [3, 4], [.added 3, .added 4, .relay [9]]⟩

/-- Client 4, the last one, is gone: the frame reaches client 3. -/
theorem broadcast_reaches_last :
    ∃ τ rest, FannedOut (record [9]) [3, 4] [3, 4] τ rest ∧ SendFailed 4 τ := by
  have hsat := broadcast_reaches anyAnswer (show twoClients.table.Wf by decide) (by decide)
    (show Legal bufSize [9] by decide) 8
  have hrun := hsat.run (refusing_follows [4] fun _ => [])
  have hok : ((broadcast 8 [9]).run (refusing [4] fun _ => []) twoClients).1 = .ok () := by
    decide +kernel
  have hhist : ((broadcast 8 [9]).run (refusing [4] fun _ => []) twoClients).2.hist =
      twoClients.hist ++ [.send 3 [0, 1] (some 2), .send 3 [9] (some 1), .send 4 [0, 1] none,
        .removed 4] := by decide +kernel
  cases hw : (broadcast 8 [9]).run (refusing [4] fun _ => []) twoClients with
  | mk result w =>
      rw [hw] at hok hhist hrun
      cases hok
      obtain ⟨τ, hτ, hiff⟩ := hrun
      obtain rfl := List.append_cancel_left (hτ.symm.trans hhist)
      refine ⟨_, _, hiff.mpr fun fd hfd => ?_, [0, 1], by decide⟩
      rw [← failed_iff]
      revert fd
      decide

/-- Client 3 is gone and is taken out, so client 4 moves to its index and the
frame of the device never reaches it. -/
theorem broadcast_misses : ∃ w τ, Prog.Reaches (osEnv anyAnswer) (broadcast 8 [9], twoClients)
    (.ret (), w) ∧ w.hist = twoClients.hist ++ τ ∧ ¬ SendFailed 4 τ ∧ 4 ∈ w.live ∧
      sentTo 4 τ ≠ record [9] := by
  have hok : ((broadcast 8 [9]).run (refusing [3] fun _ => []) twoClients).1 = .ok () := by
    decide +kernel
  have hhist : ((broadcast 8 [9]).run (refusing [3] fun _ => []) twoClients).2.hist =
      twoClients.hist ++ [.send 3 [0, 1] none, .removed 3] := by decide +kernel
  have hmem : 4 ∈ ((broadcast 8 [9]).run (refusing [3] fun _ => []) twoClients).2.live := by
    decide +kernel
  refine ⟨_, _, reaches_run (refusing_follows [3] fun _ => []) (Prod.ext hok rfl), hhist, ?_, hmem,
    by decide⟩
  rw [← failed_iff]
  decide

/-- A table of three clients, one of which is about to be served. -/
def threeClients : World := ⟨.holding [3, 4, 5], [.added 3, .added 4, .added 5, .round [5]]⟩

/-- Client 5 has sent a frame, and client 4, the last of the others, is gone. -/
theorem forward_reaches_last : ∃ w, Served anyAnswer threeClients 2 5 w ∧ w.live = [3, 5] := by
  have hsat := forward_reaches anyAnswer (show threeClients.table.Wf by decide) (by decide)
    (show threeClients.live[2]? = some 5 by decide) (show 5 ∈ [5] by decide)
    (show (List.replicate bufSize (0 : Byte)).length = bufSize from List.length_replicate) 8
  have hrun := hsat.run (refusing_follows [4] fun _ => [0, 1, 9])
  have hok : ((serviceClient 8 false [5] 2 (List.replicate bufSize 0)).run
      (refusing [4] fun _ => [0, 1, 9]) threeClients).1.map Prod.fst = .ok .next := by
    decide +kernel
  have hlive : ((serviceClient 8 false [5] 2 (List.replicate bufSize 0)).run
      (refusing [4] fun _ => [0, 1, 9]) threeClients).2.live = [3, 5] := by decide +kernel
  cases hw : (serviceClient 8 false [5] 2 (List.replicate bufSize 0)).run
      (refusing [4] fun _ => [0, 1, 9]) threeClients with
  | mk result w =>
      rw [hw] at hok hlive hrun
      cases result with
      | error e => cases hok
      | ok r => exact ⟨w, hrun, hlive⟩

/-- Client 3 is gone and is taken out, so the sender, client 5, is no longer at
the index that is left out: it gets its own frame, and client 4 gets none. -/
theorem forward_misses : ∃ r w ρ τ, Prog.Reaches (osEnv anyAnswer)
    (serviceClient 8 false [5] 2 (List.replicate bufSize 0), threeClients) (.ret r, w) ∧
      w.hist = threeClients.hist ++ .serving 5 :: ρ ++ .forward 5 [9] :: τ ∧
      ¬ SendFailed 4 τ ∧ sentTo 4 τ = [] ∧ sentTo 5 τ = record [9] := by
  have hok : ((serviceClient 8 false [5] 2 (List.replicate bufSize 0)).run
      (refusing [3] fun _ => [0, 1, 9]) threeClients).1.map Prod.fst = .ok .next := by
    decide +kernel
  have hhist : ((serviceClient 8 false [5] 2 (List.replicate bufSize 0)).run
      (refusing [3] fun _ => [0, 1, 9]) threeClients).2.hist = threeClients.hist ++
        .serving 5 :: [.recv 5 2 (some [0, 1]), .recv 5 1 (some [9])] ++ .forward 5 [9] ::
          [.send 3 [0, 1] none, .removed 3, .send 5 [0, 1] (some 2), .send 5 [9] (some 1)] := by
    decide +kernel
  cases hw : (serviceClient 8 false [5] 2 (List.replicate bufSize 0)).run
      (refusing [3] fun _ => [0, 1, 9]) threeClients with
  | mk result w =>
      rw [hw] at hok hhist
      cases result with
      | error e => cases hok
      | ok r =>
          refine ⟨r, w, _, _, reaches_run (refusing_follows [3] fun _ => [0, 1, 9]) hw, hhist, ?_,
            by decide, by decide⟩
          rw [← failed_iff]
          decide

end TapCfg.Daemon
