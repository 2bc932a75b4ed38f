/-
  Windows/Reading.lean --- `tapcfg_wait_for_data`, `tapcfg_wait_readable` and
  `tapcfg_read` on Windows.

  Source: src/lib/tapcfg_windows.c, lines 235-346.

  `reading` is set while a request is pending.  `Inv` ties it to the request: no
  request is outstanding when it is not set, and a request that has come to its
  end has left its frame in `inbuf`.  It holds between two calls and is kept by
  everything a pending request may do.
-/
import TapCfg.Windows.Types

set_option autoImplicit false

namespace TapCfg.Windows

open TapCfg.Foundation
open Prog hiding ret

/-! ## The program -/

/-- The first part of `tapcfg_wait_for_data`: start a new read. -/
def startRead : Io Int := do
  modify fun cfg => { cfg with reading := true }
  let w ← load
  let answer ← readFile w.cfg.devHandle tapcfgBufsize
  match answer with
  | .done len =>
      -- If read successful, mark reading finished
      modify fun cfg => { cfg with reading := false, inbuflen := len }
      return 1
  | .pending => return 0
  | .failed =>
      modify fun cfg => { cfg with reading := false }
      return 0

/-- The second part: wait for the pending read. -/
def finishRead (timeout : Nat) (ret : Int) : Io Int := do
  let answer ← waitForSingleObject timeout
  if answer = .object0 then
    let w ← load
    let got ← getOverlappedResult w.cfg.devHandle
    match got with
    | none =>
        modify fun cfg => { cfg with reading := false }
        return ret
    | some len =>
        modify fun cfg => { cfg with reading := false, inbuflen := len }
        return 1
  else return ret

/-- `tapcfg_wait_for_data` -/
def tapcfgWaitForData (timeout : Nat) : Io Int := do
  let w ← load
  if w.cfg.inbuflen ≠ 0 then return 1
  let ret ← (if w.cfg.reading = false then startRead else return 0 : Io Int)
  let w ← load
  if w.cfg.reading then finishRead timeout ret else return ret

/-- `tapcfg_wait_readable` -/
def tapcfgWaitReadable (msec : Int) : Io Int := do
  let w ← load
  if w.cfg.started = false then return 0
  tapcfgWaitForData (toDword msec)

/-- The second part of `tapcfg_read`; `count` is compared with a `DWORD`. -/
def deliverFrame (count : Int) : Io Int := do
  let w ← load
  if toDword count < w.cfg.inbuflen then return -1
  let ret := w.cfg.inbuflen
  update fun w =>
    match memcpy w.user w.cfg.inbuf w.cfg.inbuflen with
    | some user => .ok { w with user := user }
    | none => .error .overrun
  modify fun cfg => { cfg with inbuflen := 0 }
  return ret

/-- `tapcfg_read` -/
def tapcfgRead (count : Int) : Io Int := do
  let w ← load
  if w.cfg.started = false then return -1
  let ready ← tapcfgWaitForData infinite
  if ready = 0 then return -1
  deliverFrame count

/-! ## The request and the frame held -/

/-- The frame the library holds. -/
def World.held (w : World) : List (List Byte) :=
  if w.cfg.inbuflen = 0 then [] else [w.cfg.inbuf.take w.cfg.inbuflen]

/-- No request is outstanding. -/
structure Idle (w : World) : Prop where
  reading : w.cfg.reading = false
  none : outstanding w.log = 0

/-- A request has been made and not been taken over. -/
structure Pending (w : World) : Prop where
  reading : w.cfg.reading = true
  empty : w.cfg.inbuflen = 0
  one : outstanding w.log ≤ 1
  signaled : w.overlapped.signaled = true → outstanding w.log = 0
  result : ∀ bs, outstanding w.log = 0 → w.overlapped.result = some bs →
    bs.length ≤ tapcfgBufsize ∧ w.cfg.inbuf.take bs.length = bs

/-- What holds between two calls. -/
structure Inv (w : World) : Prop where
  size : w.cfg.inbuf.length = tapcfgBufsize
  le : w.cfg.inbuflen ≤ tapcfgBufsize
  phase : Idle w ∨ Pending w
  accounts : Accounts [] w.held w.log
  disciplined : Disciplined [] w.log

/-- What a pending request leaves alone. -/
structure Drift (w w' : World) : Prop where
  cfg : w'.cfg = { w.cfg with inbuf := w'.cfg.inbuf }
  user : w'.user = w.user
  hist : w'.hist = w.hist
  log : ∃ n, w'.log = w.log ++ List.replicate n .ended

section

variable {w w' : World}

theorem Drift.refl (w : World) : Drift w w := ⟨rfl, rfl, rfl, 0, by simp⟩

theorem Drift.trans {w₁ w₂ w₃ : World} (h : Drift w₁ w₂) (h' : Drift w₂ w₃) : Drift w₁ w₃ := by
  obtain ⟨n, hn⟩ := h.log
  obtain ⟨m, hm⟩ := h'.log
  refine ⟨?_, h'.user.trans h.user, h'.hist.trans h.hist, n + m, ?_⟩
  · rw [h'.cfg, h.cfg]
  · rw [hm, hn, List.append_assoc, List.replicate_append_replicate]

theorem Ends.drift (h : Ends w w') : Drift w w' := by
  cases h with
  | delivered bs hout hfit => exact ⟨rfl, rfl, rfl, 1, rfl⟩
  | failed hout => exact ⟨rfl, rfl, rfl, 1, rfl⟩

theorem drift_of_lapses (h : Lapses w w') : Drift w w' := by
  induction h with
  | refl => exact .refl w
  | tail _ hs ih => exact ih.trans hs.drift

/-- Nothing happens when no request is outstanding. -/
theorem lapses_none (hnone : outstanding w.log = 0) (h : Lapses w w') : w' = w := by
  rcases Relation.ReflTransGen.cases_head h with rfl | ⟨w₁, hs, -⟩
  · rfl
  · cases hs with
    | delivered bs hout hfit => omega
    | failed hout => omega

theorem lapses_called {hist : List Event} (hnone : outstanding w.log = 0)
    (h : Lapses { w with hist := hist } w') : w' = { w with hist := hist } := lapses_none hnone h

theorem Ends.inv (hw : Inv w) (h : Ends w w') : Inv w' := by
  have hpending : Pending w := by
    rcases hw.phase with hidle | hpending
    · cases h with
      | delivered bs hout hfit => exact absurd hidle.none (by omega)
      | failed hout => exact absurd hidle.none (by omega)
    · exact hpending
  have hout₀ : outstanding (w.log ++ [.ended]) = 0 := by
    have := hpending.one
    rw [outstanding_ended]
    omega
  have hnone : w.held = [] := if_pos hpending.empty
  have haccounts : Accounts [] [] (w.log ++ [.ended]) := by
    have := hw.accounts
    rw [hnone] at this
    exact this.append rfl
  have hdisciplined : Disciplined [] (w.log ++ [.ended]) := hw.disciplined.append (by simp)
  cases h with
  | delivered bs hout hfit =>
      have hheld : World.held { w with
          cfg := { w.cfg with inbuf := splice w.cfg.inbuf 0 bs }
          overlapped := { signaled := true, result := some bs }
          log := w.log ++ [.ended] } = [] := if_pos hpending.empty
      have hone : outstanding (w.log ++ [.ended]) ≤ 1 := by omega
      refine ⟨?_, hw.le,
        .inr ⟨hpending.reading, hpending.empty, hone, fun _ => hout₀, ?_⟩,
        by rw [hheld]; exact haccounts, hdisciplined⟩
      · exact (splice_length (by rw [hw.size]; omega)).trans hw.size
      · rintro bs' - hbs
        cases hbs
        exact ⟨hfit, by simp [splice]⟩
  | failed hout =>
      have hheld : World.held { w with
          overlapped := { signaled := true, result := none }
          log := w.log ++ [.ended] } = [] := if_pos hpending.empty
      have hone : outstanding (w.log ++ [.ended]) ≤ 1 := by omega
      refine ⟨hw.size, hw.le,
        .inr ⟨hpending.reading, hpending.empty, hone, fun _ => hout₀, ?_⟩,
        by rw [hheld]; exact haccounts, hdisciplined⟩
      rintro bs' - hbs
      cases hbs

/-- A pending request keeps the invariant. -/
theorem Inv.lapses (hw : Inv w) (h : Lapses w w') : Inv w' := by
  induction h with
  | refl => exact hw
  | tail _ hs ih => exact hs.inv ih

end

/-! ## One call -/

/-- An item is asked for only when nothing is outstanding and nothing held. -/
def Orderly (w : World) : Prop := Disciplined [] w.log

/-- The moves of `tapcfg_wait_for_data`: no device is opened and nothing handed on, and what
is awaited or taken over has been asked for, in these moves or in those before. -/
structure Goes (w : World) (τ : List (Move Byte)) (w' : World) : Prop where
  started : w'.cfg.started = w.cfg.started
  log : w'.log = w.log ++ τ
  opened : ∀ e ∈ τ, e.isOpened = false
  given : given τ = []
  owned : Owned (w.cfg.reading = true) τ
  reading : w'.cfg.reading = true → w.cfg.reading = true ∨ .asked ∈ τ

/-- What `tapcfg_wait_for_data` comes to, by its result: no frame is held, one is held, or
the request has read nothing. -/
inductive Outcome (τ : List (Move Byte)) (w' : World) : Int → Prop where
  | nothing (hlen : w'.cfg.inbuflen = 0) (h : .took [] ∉ τ) : Outcome τ w' 0
  | frame (hlen : w'.cfg.inbuflen ≠ 0) (h : .took [] ∉ τ) : Outcome τ w' 1
  | empty (hlen : w'.cfg.inbuflen = 0) (hidle : Idle w') (h : .took [] ∈ τ) : Outcome τ w' 1

/-- What `tapcfg_wait_for_data` leaves. -/
structure Advances (w : World) (r : Int) (w' : World) : Prop where
  inv : Inv w'
  user : w'.user = w.user
  held : w.cfg.inbuflen ≠ 0 → w' = w
  moves : ∃ τ, Goes w τ w' ∧ Outcome τ w' r

section

variable {w w' : World}

theorem Goes.refl (w : World) : Goes w [] w where
  started := rfl
  log := by simp
  opened := by simp
  given := rfl
  owned := .nil _
  reading := .inl

theorem Goes.trans {w₁ w₂ w₃ : World} {τ₁ τ₂ : List (Move Byte)} (h : Goes w₁ τ₁ w₂)
    (h' : Goes w₂ τ₂ w₃) : Goes w₁ (τ₁ ++ τ₂) w₃ where
  started := h'.started.trans h.started
  log := by rw [h'.log, h.log, List.append_assoc]
  opened := fun e he => (List.mem_append.mp he).elim (h.opened e) (h'.opened e)
  given := by rw [given_append, h.given, h'.given]; rfl
  owned := h.owned.append h'.owned h.reading
  reading := fun hr => by
    rcases h'.reading hr with hr | hasked
    · exact (h.reading hr).imp_right fun hasked => List.mem_append_left _ hasked
    · exact .inr (List.mem_append_right _ hasked)

/-- What a pending request does. -/
theorem Drift.goes (h : Drift w w') : ∃ τ, Goes w τ w' ∧ .took [] ∉ τ := by
  obtain ⟨n, hn⟩ := h.log
  have hcfg := h.cfg
  have hended : ∀ e ∈ List.replicate n (Move.ended : Move Byte), e = .ended :=
    fun e he => List.eq_of_mem_replicate he
  refine ⟨List.replicate n .ended, ⟨by rw [hcfg], hn, ?_, ?_, .of_none ?_, ?_⟩, ?_⟩
  · intro e he
    rw [hended e he]
    rfl
  · exact List.filterMap_eq_nil_iff.mpr fun e he => by rw [hended e he]; rfl
  · intro e he
    rw [hended e he]
    rfl
  · rw [hcfg]
    exact .inl
  · exact fun he => absurd (hended _ he) (by simp)

/-- The invariant says nothing of what has been called. -/
theorem Inv.called (h : Inv w) (hist : List Event) : Inv { w with hist := hist } where
  size := h.size
  le := h.le
  phase := h.phase.imp (fun h => ⟨h.reading, h.none⟩)
    fun h => ⟨h.reading, h.empty, h.one, h.signaled, h.result⟩
  accounts := h.accounts
  disciplined := h.disciplined

theorem Goes.called {τ : List (Move Byte)} (h : Goes w τ w') (hist : List Event) :
    Goes w τ { w' with hist := hist } :=
  ⟨h.started, h.log, h.opened, h.given, h.owned, h.reading⟩

theorem sat_readFile {h : Int} {n : Nat} {I : World → Prop} {Q : ReadFileAns → World → Prop}
    {F : Fault → World → Prop} (hI : I w) (hout : outstanding w.log = 0)
    (hQ : ∀ a w₂ w', ReadsFile w n a w₂ →
      Lapses { w₂ with hist := w₂.hist ++ [⟨.readFile h n, a⟩] } w' → I w' ∧ Q a w') :
    Sat osEnv I Q F (readFile h n) w := by
  refine ⟨hI, ?_⟩
  rintro a w' ⟨w₁, w₂, hl, -, hacts, hl'⟩
  obtain rfl := lapses_none hout hl
  exact hQ a w₂ w' hacts hl'

theorem sat_waitForSingleObject {timeout : Nat} {I : World → Prop} {Q : WaitAns → World → Prop}
    {F : Fault → World → Prop} (hI : I w)
    (hQ : ∀ a w₁ w₂ w', Lapses w w₁ → WaitsFor w₁ timeout a w₂ →
      Lapses { w₂ with hist := w₂.hist ++ [⟨.waitForSingleObject timeout, a⟩] } w' →
      I w' ∧ Q a w') :
    Sat osEnv I Q F (waitForSingleObject timeout) w := by
  refine ⟨hI, ?_⟩
  rintro a w' ⟨w₁, w₂, hl, -, hacts, hl'⟩
  exact hQ a w₁ w₂ w' hl hacts hl'

theorem sat_getOverlappedResult {h : Int} {I : World → Prop} {Q : Option Nat → World → Prop}
    {F : Fault → World → Prop} (hI : I w) (hout : outstanding w.log = 0)
    (hQ : ∀ a w₂ w', GetsResult w a w₂ →
      Lapses { w₂ with hist := w₂.hist ++ [⟨.getOverlappedResult h, a⟩] } w' → I w' ∧ Q a w') :
    Sat osEnv I Q F (getOverlappedResult h) w := by
  refine ⟨hI, ?_⟩
  rintro a w' ⟨w₁, w₂, hl, -, hacts, hl'⟩
  obtain rfl := lapses_none hout hl
  exact hQ a w₂ w' hacts hl'

theorem sat_modify {f : Tapcfg → Tapcfg} {I : World → Prop} {Q : Unit → World → Prop}
    {F : Fault → World → Prop} (hI : I w) (hI' : I { w with cfg := f w.cfg })
    (hQ : Q () { w with cfg := f w.cfg }) : Sat osEnv I Q F (modify f) w :=
  sat_update rfl hI hI' hQ

/-- With a request pending no frame is held, and the result is 0. -/
theorem Outcome.of_pending {τ : List (Move Byte)} {r : Int} (h : Outcome τ w r)
    (hpending : Pending w) : r = 0 ∧ .took [] ∉ τ := by
  cases h with
  | nothing hlen h => exact ⟨rfl, h⟩
  | frame hlen h => exact absurd hpending.empty hlen
  | empty hlen hidle h => exact absurd hpending.reading (by simp [hidle.reading])

theorem Inv.pending (hw : Inv w) (hreading : w.cfg.reading = true) : Pending w :=
  hw.phase.resolve_left fun hidle => by simp [hidle.reading] at hreading

theorem Inv.idle (hw : Inv w) (hreading : w.cfg.reading = false) : Idle w :=
  hw.phase.resolve_right fun hpending => by simp [hpending.reading] at hreading

/-- The frame held after a request that has read `bs`. -/
theorem outcome_take {τ : List (Move Byte)} {bs : List Byte} (hlen : w.cfg.inbuflen = bs.length)
    (hidle : Idle w) (hτ : .took [] ∉ τ) : Outcome (τ ++ [.took bs]) w 1 := by
  cases bs with
  | nil => exact .empty hlen hidle (by simp)
  | cons b bs => exact .frame (by rw [hlen]; exact Nat.succ_ne_zero _) (by simpa using hτ)

/-- Nothing is held. -/
theorem accounts_of_empty (hempty : w.cfg.inbuflen = 0) (h : Accounts [] [] w.log) :
    Accounts [] w.held w.log := by
  have hnone : w.held = [] := if_pos hempty
  rw [hnone]
  exact h

/-- The request has come to its end, and what it has read is taken over. -/
theorem Advances.took {τ : List (Move Byte)} {bs : List Byte} (hempty : w.cfg.inbuflen = 0)
    (hgoes : Goes w (τ ++ [.took bs]) w') (hτ : .took [] ∉ τ) (huser : w'.user = w.user)
    (haccounts : Accounts [] [] (w.log ++ τ)) (hdisciplined : Disciplined [] w'.log)
    (hidle : Idle w') (hlen : w'.cfg.inbuflen = bs.length)
    (hsize : w'.cfg.inbuf.length = tapcfgBufsize) (hfit : bs.length ≤ tapcfgBufsize)
    (hbytes : w'.cfg.inbuf.take bs.length = bs) : Advances w 1 w' := by
  have hlog : w'.log = w.log ++ τ ++ [.took bs] := by rw [hgoes.log, List.append_assoc]
  have hheld : [] ++ taken [.took bs] = given [.took bs] ++ w'.held := by
    unfold World.held
    rw [hlen, hbytes, taken_cons, given_cons]
    cases bs with
    | nil => rfl
    | cons b bs => rfl
  have hinv : Inv w' := by
    refine ⟨hsize, hlen ▸ hfit, .inl hidle, ?_, hdisciplined⟩
    rw [hlog]
    exact haccounts.append hheld
  exact ⟨hinv, huser, absurd hempty, _, hgoes, outcome_take hlen hidle hτ⟩

/-- The request has come to its end and has read nothing. -/
theorem Advances.missed {τ : List (Move Byte)} (hempty : w.cfg.inbuflen = 0)
    (hgoes : Goes w τ w') (hτ : .took [] ∉ τ) (huser : w'.user = w.user)
    (haccounts : Accounts [] [] w'.log) (hdisciplined : Disciplined [] w'.log)
    (hidle : Idle w') (hlen : w'.cfg.inbuflen = 0)
    (hsize : w'.cfg.inbuf.length = tapcfgBufsize) : Advances w 0 w' := by
  have hle : w'.cfg.inbuflen ≤ tapcfgBufsize := by
    rw [hlen]
    exact Nat.zero_le _
  exact ⟨⟨hsize, hle, .inl hidle, accounts_of_empty hlen haccounts, hdisciplined⟩, huser,
    absurd hempty, _, hgoes, .nothing hlen hτ⟩

/-- A request has been made, which may come to its end from now on. -/
theorem advances_issued (hw : Inv w) (hidle : Idle w) (hempty : w.cfg.inbuflen = 0)
    {hist : List Event}
    (hl : Lapses { World.issue { w with cfg := { w.cfg with reading := true } } with
      hist := hist } w') : Advances w 0 w' := by
  have hnone : w.held = [] := if_pos hempty
  have haccounts : Accounts [] [] w.log := hnone ▸ hw.accounts
  have hout : outstanding (w.log ++ [.asked]) = 1 := by rw [outstanding_asked, hidle.none]
  have hissued : Inv { World.issue { w with cfg := { w.cfg with reading := true } } with
      hist := hist } := by
    refine ⟨hw.size, hw.le,
      .inr ⟨rfl, hempty, Nat.le_of_eq hout, (fun h => by cases h), fun bs hzero => ?_⟩, ?_,
      hw.disciplined.ask hidle.none haccounts⟩
    · exact absurd (hout.symm.trans hzero) Nat.one_ne_zero
    · exact accounts_of_empty hempty (haccounts.append (τ := [.asked]) rfl)
  have hdrift := drift_of_lapses hl
  obtain ⟨τ, hgoes, hτ⟩ := hdrift.goes
  have hlog : w'.log = w.log ++ (.asked :: τ) := by
    rw [hgoes.log]
    simp [World.issue]
  have hempty' : w'.cfg.inbuflen = 0 := by
    have hcfg := hdrift.cfg
    rw [hcfg]
    exact hempty
  refine ⟨hissued.lapses hl, hdrift.user, absurd hempty, .asked :: τ, ?_, ?_⟩
  · refine ⟨hgoes.started, hlog, ?_, ?_, .of_asked _ _, fun _ => .inr (by simp)⟩
    · exact List.forall_mem_cons.mpr ⟨rfl, hgoes.opened⟩
    · rw [given_cons, hgoes.given]
      rfl
  · exact .nothing hempty' (by simpa using hτ)

theorem sat_startRead (hw : Inv w) (hidle : Idle w) (hempty : w.cfg.inbuflen = 0) :
    Sat osEnv Orderly (Advances w) (fun _ _ => False) startRead w := by
  have hnone : w.held = [] := if_pos hempty
  have haccounts : Accounts [] [] w.log := hnone ▸ hw.accounts
  have hasked : Disciplined [] (w.log ++ [.asked]) := hw.disciplined.ask hidle.none haccounts
  have hout : outstanding (w.log ++ [.asked]) = 1 := by rw [outstanding_asked, hidle.none]
  have hout' : outstanding (w.log ++ [.asked] ++ [.ended]) = 0 := by rw [outstanding_ended, hout]
  unfold startRead
  refine sat_bind (sat_modify hw.disciplined hw.disciplined ?_)
  refine sat_bind (sat_load hw.disciplined ?_)
  refine sat_bind (sat_readFile hw.disciplined hidle.none fun a w₂ w' hreads hl => ?_)
  cases hreads with
  | done bs hfit =>
      -- the request has come to its end at once
      have hout₂ : outstanding (w.log ++ [.asked] ++ [.ended, .took bs]) = 0 := by
        have hlog : w.log ++ [.asked] ++ [.ended, .took bs] =
            w.log ++ [.asked] ++ [.ended] ++ [.took bs] := by simp
        rw [hlog, outstanding_append _ (by simp)]
        exact hout'
      have hd₂ : Disciplined [] (w.log ++ [.asked] ++ [.ended, .took bs]) :=
        hasked.append (by simp)
      obtain rfl := lapses_none hout₂ hl
      refine ⟨hd₂, sat_bind (sat_modify hd₂ hd₂ (sat_ret hd₂ ?_))⟩
      refine .took (τ := [.asked, .ended]) hempty ?_ (by simp) rfl
        (haccounts.append (τ := [.asked, .ended]) rfl) hd₂ ⟨rfl, hout₂⟩ rfl ?_ hfit
        (by simp [splice])
      · exact ⟨rfl, by simp [World.issue], by simp [Move.isOpened], rfl,
          .of_asked _ [.ended, .took bs], fun h => by cases h⟩
      · exact (splice_length (by rw [hw.size]; omega)).trans hw.size
  | pending =>
      have hadv : Advances w 0 w' := advances_issued hw hidle hempty hl
      exact ⟨hadv.inv.disciplined, sat_ret hadv.inv.disciplined hadv⟩
  | failed =>
      have hd₂ : Disciplined [] (w.log ++ [.asked] ++ [.ended]) := hasked.append (by simp)
      obtain rfl := lapses_none hout' hl
      refine ⟨hd₂, sat_bind (sat_modify hd₂ hd₂ (sat_ret hd₂ ?_))⟩
      refine .missed (τ := [.asked, .ended]) hempty ?_ (by simp) rfl ?_ hd₂ ⟨rfl, hout'⟩
        hempty hw.size
      · exact ⟨rfl, by simp [World.issue], by simp [Move.isOpened], rfl, .of_asked _ [.ended],
          fun h => by cases h⟩
      · exact (haccounts.append (τ := [.asked]) rfl).append rfl

/-- A pending request drifts. -/
theorem Pending.lapses (hw : Inv w) (hp : Pending w) (h : Lapses w w') :
    Inv w' ∧ Pending w' ∧ w'.user = w.user ∧ ∃ τ, Goes w τ w' ∧ .took [] ∉ τ := by
  have hinv : Inv w' := hw.lapses h
  have hdrift : Drift w w' := drift_of_lapses h
  have hreading : w'.cfg.reading = true := by
    rw [hdrift.cfg]
    exact hp.reading
  exact ⟨hinv, hinv.pending hreading, hdrift.user, hdrift.goes⟩

/-- The waiting begins. -/
theorem Pending.await (hw : Inv w) (hp : Pending w) :
    Inv w.await ∧ Pending w.await ∧ ∃ τ, Goes w τ w.await ∧ .took [] ∉ τ := by
  have hnone : w.held = [] := if_pos hp.empty
  have haccounts : Accounts [] [] w.log := hnone ▸ hw.accounts
  have hτ : ∃ τ, w.await.log = w.log ++ τ ∧ ∀ e ∈ τ, e = .awaited ∨ e = .blocked :=
    ⟨_, rfl, by cases w.overlapped.signaled <;> simp⟩
  obtain ⟨τ, hlog, hτ⟩ := hτ
  have hquiet : ∀ e ∈ τ, e ≠ .asked ∧ e ≠ .ended := by
    intro e he
    exact (hτ e he).elim (fun h => by simp [h]) fun h => by simp [h]
  have htaken : taken τ = [] :=
    List.filterMap_eq_nil_iff.mpr fun e he => by rcases hτ e he with rfl | rfl <;> rfl
  have hgiven : given τ = [] :=
    List.filterMap_eq_nil_iff.mpr fun e he => by rcases hτ e he with rfl | rfl <;> rfl
  have hout : outstanding w.await.log = outstanding w.log := by
    rw [hlog, outstanding_append _ hquiet]
  have hpending : Pending w.await :=
    ⟨hp.reading, hp.empty, by rw [hout]; exact hp.one, fun h => by rw [hout]; exact hp.signaled h,
      fun bs hzero => hp.result bs (hout.symm.trans hzero)⟩
  refine ⟨⟨hw.size, hw.le, .inr hpending, ?_, ?_⟩, hpending, τ, ?_, ?_⟩
  · refine accounts_of_empty hp.empty ?_
    rw [hlog]
    exact haccounts.append (by rw [htaken, hgiven])
  · rw [hlog]
    exact hw.disciplined.append fun h => (hquiet _ h).1 rfl
  · refine ⟨rfl, hlog, fun e he => ?_, hgiven, .of_true hp.reading _, .inl⟩
    rcases hτ e he with rfl | rfl <;> rfl
  · intro he
    rcases hτ _ he with h | h <;> cases h

/-- Waiting for a pending request leaves it pending; when the event is set the request
has come to its end. -/
theorem WaitsFor.pending {timeout : Nat} {a : WaitAns} (hw : Inv w) (hp : Pending w)
    (h : WaitsFor w timeout a w') :
    Inv w' ∧ Pending w' ∧ w'.user = w.user ∧ (a = .object0 → outstanding w'.log = 0) ∧
      ∃ τ, Goes w τ w' ∧ .took [] ∉ τ := by
  obtain ⟨hawait, hpending, τ₁, hgoes₁, hτ₁⟩ := hp.await hw
  have hlapsed : ∀ {v : World}, Lapses w.await v →
      Inv v ∧ Pending v ∧ v.user = w.user ∧ ∃ τ, Goes w τ v ∧ .took [] ∉ τ := by
    intro v hl
    obtain ⟨hinv, hpend, huser, τ₂, hgoes₂, hτ₂⟩ := hpending.lapses hawait hl
    exact ⟨hinv, hpend, huser, τ₁ ++ τ₂, hgoes₁.trans hgoes₂, by simp [hτ₁, hτ₂]⟩
  cases h with
  | @object0 v hl hset =>
      obtain ⟨hinv, hpend, huser, τ, hgoes, hτ⟩ := hlapsed hl
      have hout : outstanding v.log = 0 := hpend.signaled hset
      have hpend' : Pending { v with overlapped := { v.overlapped with signaled := false } } :=
        ⟨hpend.reading, hpend.empty, hpend.one, (fun h => by cases h), hpend.result⟩
      exact ⟨⟨hinv.size, hinv.le, .inr hpend', hinv.accounts, hinv.disciplined⟩, hpend',
        huser, fun _ => hout, τ, ⟨hgoes.1, hgoes.2, hgoes.3, hgoes.4, hgoes.5, hgoes.6⟩, hτ⟩
  | timeout hl hfinite =>
      obtain ⟨hinv, hpend, huser, hmoves⟩ := hlapsed hl
      exact ⟨hinv, hpend, huser, (fun h => by cases h), hmoves⟩
  | failed hl =>
      obtain ⟨hinv, hpend, huser, hmoves⟩ := hlapsed hl
      exact ⟨hinv, hpend, huser, (fun h => by cases h), hmoves⟩

/-- What `finishRead` does once the wait has told that the read is complete. -/
def takeResult (ret : Int) : Io Int := do
  let w ← load
  let got ← getOverlappedResult w.cfg.devHandle
  match got with
  | none =>
      modify fun cfg => { cfg with reading := false }
      return ret
  | some len =>
      modify fun cfg => { cfg with reading := false, inbuflen := len }
      return 1

theorem finishRead_eq (timeout : Nat) (ret : Int) : finishRead timeout ret =
    (waitForSingleObject timeout).bind fun answer =>
      if answer = .object0 then takeResult ret else .ret ret := rfl

/-- The read that was pending is over: its frame is held, or there is none. -/
theorem sat_takeResult {w₁ : World} {τ : List (Move Byte)} (hempty : w.cfg.inbuflen = 0)
    (hw₁ : Inv w₁) (hp₁ : Pending w₁) (hgoes : Goes w τ w₁) (hτ : .took [] ∉ τ)
    (huser : w₁.user = w.user) (hout : outstanding w₁.log = 0) :
    Sat osEnv Orderly (Advances w) (fun _ _ => False) (takeResult 0) w₁ := by
  have hnone : w₁.held = [] := if_pos hp₁.empty
  have haccounts : Accounts [] [] w₁.log := hnone ▸ hw₁.accounts
  unfold takeResult
  refine sat_bind (sat_load hw₁.disciplined ?_)
  refine sat_bind (sat_getOverlappedResult hw₁.disciplined hout fun got w₂ w₃ hgets hl₃ => ?_)
  cases hgets with
  | @done bs hzero hresult =>
      obtain ⟨hfit, hbytes⟩ := hp₁.result bs hzero hresult
      have hout' : outstanding (w₁.log ++ [.took bs]) = 0 := by
        rw [outstanding_append _ (by simp)]
        exact hout
      have hd : Disciplined [] (w₁.log ++ [.took bs]) := hw₁.disciplined.append (by simp)
      have htook : Goes w₁ [.took bs] { w₁ with
          cfg := { w₁.cfg with reading := false, inbuflen := bs.length }
          hist := w₁.hist ++ [⟨.getOverlappedResult w₁.cfg.devHandle, some bs.length⟩]
          log := w₁.log ++ [.took bs] } :=
        ⟨rfl, rfl, by simp [Move.isOpened], rfl, .of_true hp₁.reading _, fun h => by cases h⟩
      obtain rfl := lapses_none hout' hl₃
      refine ⟨hd, sat_bind (sat_modify hd hd (sat_ret hd ?_))⟩
      refine .took hempty (hgoes.trans htook) hτ huser ?_ hd ⟨rfl, hout'⟩ rfl hw₁.size hfit hbytes
      rw [← hgoes.log]
      exact haccounts
  | failed =>
      have hd : Disciplined [] w₁.log := hw₁.disciplined
      have hstay : Goes w₁ [] { w₁ with
          cfg := { w₁.cfg with reading := false }
          hist := w₁.hist ++ [⟨.getOverlappedResult w₁.cfg.devHandle, none⟩] } :=
        ⟨rfl, by simp, by simp, rfl, .nil _, fun h => by cases h⟩
      obtain rfl := lapses_called hout hl₃
      refine ⟨hd, sat_bind (sat_modify hd hd (sat_ret hd ?_))⟩
      exact .missed hempty (hgoes.trans hstay) (by simpa using hτ) huser haccounts hd ⟨rfl, hout⟩
        hp₁.empty hw₁.size

theorem sat_finishRead (timeout : Nat) (hw : Inv w) (hp : Pending w) :
    Sat osEnv Orderly (Advances w) (fun _ _ => False) (finishRead timeout 0) w := by
  rw [finishRead_eq]
  refine sat_bind (sat_waitForSingleObject hw.disciplined fun a w₁ w₂ w₃ hl hwaits hl' => ?_)
  obtain ⟨hw₁, hp₁, huser₁, τ₁, hgoes₁, hτ₁⟩ := hp.lapses hw hl
  obtain ⟨hw₂, hp₂, huser₂, hend, τ₂, hgoes₂, hτ₂⟩ := hwaits.pending hw₁ hp₁
  have hw₂' := hw₂.called (w₂.hist ++ [⟨.waitForSingleObject timeout, a⟩])
  have hgoes₂' := (hgoes₁.trans hgoes₂).called (w₂.hist ++ [⟨.waitForSingleObject timeout, a⟩])
  obtain ⟨hw₃, hp₃, huser₃, τ₃, hgoes₃, hτ₃⟩ :=
    Pending.lapses hw₂' (hw₂'.pending hp₂.reading) hl'
  have huser : w₃.user = w.user := huser₃.trans (huser₂.trans huser₁)
  have hgoes := hgoes₂'.trans hgoes₃
  have hτ : Move.took [] ∉ τ₁ ++ τ₂ ++ τ₃ := by simp [hτ₁, hτ₂, hτ₃]
  refine ⟨hw₃.disciplined, ?_⟩
  by_cases ha : a = .object0
  · have hout : outstanding w₃.log = 0 := by
      rw [lapses_called (hend ha) hl']
      exact hend ha
    rw [if_pos ha]
    exact sat_takeResult hp.empty hw₃ hp₃ hgoes hτ huser hout
  · rw [if_neg ha]
    exact sat_ret hw₃.disciplined
      ⟨hw₃, huser, absurd hp.empty, _, hgoes, .nothing hp₃.empty hτ⟩

theorem Advances.trans {w₁ w₂ w₃ : World} {r : Int} (h : Advances w₁ 0 w₂)
    (h' : Advances w₂ r w₃) : Advances w₁ r w₃ := by
  obtain ⟨τ₁, hgoes₁, hτ₁⟩ := h.moves
  obtain ⟨τ₂, hgoes₂, hout⟩ := h'.moves
  have hnot : Move.took [] ∉ τ₁ := by
    generalize hr : (0 : Int) = r₁ at hτ₁
    cases hτ₁ with
    | nothing hlen h => exact h
    | frame hlen h => cases hr
    | empty hlen hidle h => cases hr
  have hheld : w₁.cfg.inbuflen ≠ 0 → w₃ = w₁ := by
    intro hlen
    obtain rfl := h.held hlen
    exact h'.held hlen
  refine ⟨h'.inv, h'.user.trans h.user, hheld, τ₁ ++ τ₂, hgoes₁.trans hgoes₂, ?_⟩
  cases hout with
  | nothing hlen h => exact .nothing hlen (by simp [hnot, h])
  | frame hlen h => exact .frame hlen (by simp [hnot, h])
  | empty hlen hidle h => exact .empty hlen hidle (by simp [h])

theorem sat_tapcfgWaitForData (timeout : Nat) (hw : Inv w) :
    Sat osEnv Orderly (Advances w) (fun _ _ => False) (tapcfgWaitForData timeout) w := by
  unfold tapcfgWaitForData
  refine sat_bind (sat_load hw.disciplined ?_)
  by_cases hlen : w.cfg.inbuflen = 0
  · rw [if_neg (not_not_intro hlen)]
    have hfirst : Sat osEnv Orderly (Advances w) (fun _ _ => False)
        (if w.cfg.reading = false then startRead else pure 0 : Io Int) w := by
      by_cases hreading : w.cfg.reading = false
      · rw [if_pos hreading]
        exact sat_startRead hw (hw.idle hreading) hlen
      · rw [if_neg hreading]
        exact sat_ret hw.disciplined ⟨hw, rfl, fun _ => rfl, [], .refl w, .nothing hlen (by simp)⟩
    refine sat_seq hfirst fun ret w₁ hadv => ?_
    refine sat_bind (sat_load hadv.inv.disciplined ?_)
    cases hreading : w₁.cfg.reading with
    | true =>
        have hp := hadv.inv.pending hreading
        obtain ⟨τ, hgoes, hout⟩ := hadv.moves
        obtain ⟨rfl, -⟩ := hout.of_pending hp
        exact (sat_finishRead timeout hadv.inv hp).post fun r w' h => hadv.trans h
    | false => exact sat_ret hadv.inv.disciplined hadv
  · rw [if_pos hlen]
    exact sat_ret hw.disciplined ⟨hw, rfl, fun _ => rfl, [], .refl w, .frame hlen (by simp)⟩

theorem memcpy_held (hw : Inv w) (huser : w.cfg.inbuflen ≤ w.user.length) :
    memcpy w.user w.cfg.inbuf w.cfg.inbuflen =
      some (w.cfg.inbuf.take w.cfg.inbuflen ++ w.user.drop w.cfg.inbuflen) := by
  have hsize := hw.size
  have hle := hw.le
  unfold memcpy
  rw [if_pos ⟨by omega, by omega, by omega⟩, Int.toNat_natCast]

theorem memcpy_overrun (huser : w.user.length < w.cfg.inbuflen) :
    memcpy w.user w.cfg.inbuf w.cfg.inbuflen = none := by
  unfold memcpy
  rw [if_neg (by omega)]

/-- What `deliverFrame` leaves. -/
structure Delivers (count : Int) (w : World) (r : Int) (w' : World) : Prop where
  cfg : w'.cfg = { w.cfg with inbuflen := w'.cfg.inbuflen }
  le : w'.cfg.inbuflen ≤ w.cfg.inbuflen
  overlapped : w'.overlapped = w.overlapped
  log : w'.log = w.log
  ends : ∃ handed, CallEnds (toDword count) w.user w.held r w'.user handed w'.held

theorem sat_deliverFrame (count : Int) (hw : Inv w) :
    Sat osEnv Orderly (Delivers count w) (fun _ _ => w.user.length < toDword count)
      (deliverFrame count) w := by
  have hd : Orderly w := hw.disciplined
  have hheld : w.cfg.inbuflen ≠ 0 → w.held = [w.cfg.inbuf.take w.cfg.inbuflen] :=
    fun hlen => if_neg hlen
  have hsize : (w.cfg.inbuf.take w.cfg.inbuflen).length = w.cfg.inbuflen := by
    have := hw.size
    have := hw.le
    rw [List.length_take]
    omega
  unfold deliverFrame
  refine sat_bind (sat_load hd ?_)
  by_cases hcount : toDword count < w.cfg.inbuflen
  · rw [if_pos hcount]
    refine sat_ret hd ⟨rfl, Nat.le_refl _, rfl, rfl, [], ?_⟩
    rw [hheld (by omega)]
    exact .tooSmall (List.ne_nil_of_length_pos (by omega)) (by rw [hsize]; omega)
  · rw [if_neg hcount]
    by_cases huser : w.cfg.inbuflen ≤ w.user.length
    · have hcopy := memcpy_held hw huser
      refine sat_bind (sat_update (by rw [hcopy]) hd ?_ ?_)
      · exact hd
      refine sat_bind (sat_modify hd hd (sat_ret hd ⟨rfl, Nat.zero_le _, rfl, rfl, w.held, ?_⟩))
      by_cases hlen : w.cfg.inbuflen = 0
      · have hnone : w.held = [] := if_pos hlen
        rw [hnone, hlen]
        exact .nothing (Int.le_refl 0)
      · rw [hheld hlen]
        have hne : w.cfg.inbuf.take w.cfg.inbuflen ≠ [] := List.ne_nil_of_length_pos (by omega)
        have hends : CallEnds (toDword count) w.user [w.cfg.inbuf.take w.cfg.inbuflen] _ _ _ [] :=
          .handed hne (by omega)
        rw [hsize] at hends
        exact hends
    · have hcopy := memcpy_overrun (w := w) (by omega)
      exact sat_bind (sat_update_fault (by rw [hcopy]) hd (by omega))

/-- What one call of `tapcfg_read` does. -/
structure Reads (count : Int) (w : World) (r : Int) (w' : World) : Prop where
  size : w'.cfg.inbuf.length = tapcfgBufsize
  le : w'.cfg.inbuflen ≤ tapcfgBufsize
  phase : Idle w' ∨ Pending w'
  disciplined : Orderly w'
  held : w.cfg.inbuflen ≠ 0 → w'.log = w.log
  moves : ∃ τ, Goes w τ w' ∧
    ∃ handed, CallEnds (toDword count) w.user (w.held ++ taken τ) r w'.user handed w'.held

/-- What the moves between two invariant states take over. -/
theorem Inv.split {τ : List (Move Byte)} (hw : Inv w) (hw' : Inv w')
    (hlog : w'.log = w.log ++ τ) : w.held ++ taken τ = given τ ++ w'.held := by
  have h : taken w.log = given w.log ++ w.held := hw.accounts
  have h' : taken w'.log = given w'.log ++ w'.held := hw'.accounts
  rw [hlog, taken_append, given_append, h, List.append_assoc, List.append_assoc] at h'
  exact List.append_cancel_left h'

/-- Nothing is handed over: there was no frame. -/
theorem Advances.reads_nothing {count : Int} (hw : Inv w) (h : Advances w 0 w') :
    Reads count w (-1) w' := by
  obtain ⟨τ, hgoes, hout⟩ := h.moves
  have hempty : w'.cfg.inbuflen = 0 := by
    generalize hr : (0 : Int) = r at hout
    cases hout with
    | nothing hlen _ => exact hlen
    | frame hlen _ => cases hr
    | empty hlen _ _ => exact hlen
  have hnone : w'.held = [] := if_pos hempty
  have hsplit := hw.split h.inv hgoes.log
  rw [hgoes.given, hnone] at hsplit
  refine ⟨h.inv.size, h.inv.le, h.inv.phase, h.inv.disciplined, fun hlen => ?_, τ, hgoes, [], ?_⟩
  · rw [h.held hlen]
  · rw [hsplit, hnone, h.user]
    exact .nothing (by decide)

/-- The frame at hand is handed over, unless the caller has no room for it. -/
theorem Delivers.reads {count r : Int} {w₁ : World} (hw : Inv w) (h : Advances w 1 w₁)
    (hd : Delivers count w₁ r w') : Reads count w r w' := by
  obtain ⟨τ, hgoes, hout⟩ := h.moves
  have hidle : Idle w₁ := by
    refine h.inv.phase.resolve_right fun hp => ?_
    have := (hout.of_pending hp).1
    omega
  have hcfg := hd.cfg
  obtain ⟨handed, hends⟩ := hd.ends
  have hsplit := hw.split h.inv hgoes.log
  rw [hgoes.given, List.nil_append] at hsplit
  have hreading : w'.cfg.reading = false := by
    rw [hcfg]
    exact hidle.reading
  refine ⟨?_, ?_, .inl ⟨hreading, ?_⟩, ?_, fun hlen => ?_, τ, ?_, handed, ?_⟩
  · rw [hcfg]
    exact h.inv.size
  · exact Nat.le_trans hd.le h.inv.le
  · rw [hd.log]
    exact hidle.none
  · unfold Orderly
    rw [hd.log]
    exact h.inv.disciplined
  · rw [hd.log, h.held hlen]
  · refine ⟨?_, hd.log.trans hgoes.log, hgoes.opened, hgoes.given, hgoes.owned, fun h => ?_⟩
    · rw [hcfg]
      exact hgoes.started
    · simp [hreading] at h
  · rw [hsplit, ← h.user]
    exact hends

theorem sat_tapcfgRead (count : Int) (hw : Inv w) (hstarted : w.cfg.started = true) :
    Sat osEnv Orderly (Reads count w) (fun _ _ => w.user.length < toDword count)
      (tapcfgRead count) w := by
  unfold tapcfgRead
  refine sat_bind (sat_load hw.disciplined ?_)
  rw [if_neg (by simp [hstarted])]
  refine sat_seq ((sat_tapcfgWaitForData infinite hw).mono (fun _ h => h) (fun _ _ _ h => h)
    (fun _ _ _ h => h.elim)) fun ready w₁ hadv => ?_
  by_cases hready : ready = 0
  · rw [if_pos hready]
    exact sat_ret hadv.inv.disciplined (Advances.reads_nothing hw (hready ▸ hadv))
  · have hone : ready = 1 := by
      obtain ⟨τ, -, hout⟩ := hadv.moves
      cases hout with
      | nothing _ _ => exact absurd rfl hready
      | frame _ _ => rfl
      | empty _ _ _ => rfl
    rw [if_neg hready]
    refine (sat_deliverFrame count hadv.inv).mono (fun _ h => h)
      (fun r w' _ hd => hd.reads hw (hone ▸ hadv)) fun _ _ _ h => ?_
    rw [← hadv.user]
    exact h

/-- A device that is not started is not read. -/
theorem sat_tapcfgRead_idle (count : Int) (hw : Orderly w) (hidle : w.cfg.started = false) :
    Sat osEnv Orderly (fun r w' => r = -1 ∧ w' = w) (fun _ _ => False) (tapcfgRead count) w := by
  unfold tapcfgRead
  refine sat_bind (sat_load hw ?_)
  rw [if_pos hidle]
  exact sat_ret hw ⟨rfl, rfl⟩

theorem sat_tapcfgWaitReadable (msec : Int) (hw : Inv w) (hstarted : w.cfg.started = true) :
    Sat osEnv Orderly (Advances w) (fun _ _ => False) (tapcfgWaitReadable msec) w := by
  unfold tapcfgWaitReadable
  refine sat_bind (sat_load hw.disciplined ?_)
  rw [if_neg (by simp [hstarted])]
  exact sat_tapcfgWaitForData _ hw

/-- A device that is not started is not waited for. -/
theorem sat_tapcfgWaitReadable_idle (msec : Int) (hw : Orderly w) (hidle : w.cfg.started = false) :
    Sat osEnv Orderly (fun r w' => r = 0 ∧ w' = w) (fun _ _ => False)
      (tapcfgWaitReadable msec) w := by
  unfold tapcfgWaitReadable
  refine sat_bind (sat_load hw ?_)
  rw [if_pos hidle]
  exact sat_ret hw ⟨rfl, rfl⟩

end

end TapCfg.Windows
