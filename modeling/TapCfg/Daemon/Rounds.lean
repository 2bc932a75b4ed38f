/-
  Daemon/Rounds.lean --- one round of the servicing loop.

  The set that select has left is a snapshot: until the pass is over either
  thread may take clients out of the table, and the entries behind them move.
  The pass never turns to a client twice nevertheless, because every removal
  moves entries towards the indices that are done with (`mem_drop_of_eraseIdx`),
  never past them.

  `Disciplined` says which events may follow a history; that it holds along
  every history is the main result.
-/
import TapCfg.Daemon.Admission

set_option autoImplicit false

namespace TapCfg.Daemon

open TapCfg.Foundation
open Prog

/-! ## What a history says of the current round -/

/-- A round begins. -/
def Event.startsRound : Event → Bool
  | .round _ => true
  | _ => false

/-- The set `select` has left in the current round. -/
def roundSet (h : List Event) : List Fd :=
  h.foldl (fun ready e => match e with
    | .round ready' => ready'
    | _ => ready) []

/-- The client one event turns to. -/
def Event.turnsTo : Event → Option Fd
  | .serving fd => some fd
  | _ => none

/-- The clients the current round has turned to. -/
def served (h : List Event) : List Fd := (since Event.startsRound h).filterMap Event.turnsTo

/-- Which events may follow: a pass turns to a client of the table that is in
the set of this round and has not had its turn; `recv` is called on the client
whose turn it is. -/
def Disciplined (h : List Event) : Event → Prop
  | .serving fd => fd ∈ tableOf h ∧ fd ∈ roundSet h ∧ fd ∉ served h
  | .recv fd _ _ => fd ∈ tableOf h ∧ fd ∈ roundSet h ∧ (served h).getLast? = some fd
  | _ => True

/-- Is the event part of the bookkeeping of rounds? -/
def Event.ofRound : Event → Bool
  | .round _ => true
  | .serving _ => true
  | _ => false

/-- Does `Disciplined` ask anything of the event? -/
def Event.idle : Event → Bool
  | .round _ => false
  | .serving _ => false
  | .recv _ _ _ => false
  | _ => true

theorem roundSet_append {τ : List Event} (h : List Event) (hτ : ∀ e ∈ τ, e.ofRound = false) :
    roundSet (h ++ τ) = roundSet h := by
  induction τ using List.reverseRecOn with
  | nil => simp
  | append_singleton τ e ih =>
      have he : e.ofRound = false := hτ e (by simp)
      rw [← List.append_assoc, ← ih fun e h => hτ e (by simp [h])]
      cases e <;> simp_all [roundSet, Event.ofRound]

theorem served_append {τ : List Event} (h : List Event) (hτ : ∀ e ∈ τ, e.ofRound = false) :
    served (h ++ τ) = served h := by
  have hround : ∀ e ∈ τ, e.startsRound = false := by
    intro e he
    have := hτ e he
    cases e <;> simp_all [Event.ofRound, Event.startsRound]
  have hturn : τ.filterMap Event.turnsTo = [] := by
    rw [List.filterMap_eq_nil_iff]
    intro e he
    have := hτ e he
    cases e <;> simp_all [Event.ofRound, Event.turnsTo]
  rw [served, since_append_of_not_mem h hround, List.filterMap_append, hturn, List.append_nil,
    served]

theorem served_serving (h : List Event) (fd : Fd) :
    served (h ++ [.serving fd]) = served h ++ [fd] := by
  simp [served, since_concat, Event.startsRound, Event.turnsTo]

theorem roundSet_round (h : List Event) (ready : List Fd) :
    roundSet (h ++ [.round ready]) = ready := by simp [roundSet]

theorem served_round (h : List Event) (ready : List Fd) : served (h ++ [.round ready]) = [] := by
  simp [served, since_concat, Event.startsRound]

theorem Event.ofRound_of_idle {e : Event} (h : e.idle = true) : e.ofRound = false := by
  cases e <;> simp_all [Event.idle, Event.ofRound]

theorem along_idle {h τ : List Event} (hτ : ∀ e ∈ τ, e.idle = true) : Along Disciplined h τ := by
  rw [along_iff]
  rintro τ₁ e τ₂ rfl
  have := hτ e (by simp)
  cases e <;> simp_all [Event.idle, Disciplined]

/-! ## The invariant of a pass -/

/-- The content of the mutex, with a disciplined history. -/
structure Orderly (w : World) : Prop where
  wf : w.Wf
  disciplined : Along Disciplined [] w.hist

/-- The content of the mutex at index `i` of a pass over `ready`: the clients
from there on have not had their turn. -/
structure Turn (ready : List Fd) (i : Nat) (w : World) : Prop extends Orderly w where
  set : roundSet w.hist = ready
  fresh : ∀ fd ∈ w.live.drop i, fd ∉ served w.hist

namespace Orderly

variable {w w' : World}

theorem log (h : Orderly w) {τ : List Event} (htab : ∀ e ∈ τ, e.onTable = false)
    (hτ : Along Disciplined w.hist τ) : Orderly (w.log τ) :=
  ⟨h.wf.log htab, along_append.mpr ⟨h.disciplined, by simpa using hτ⟩⟩

theorem remove (h : Orderly w) {j : Nat} {fd : Fd} (hj : w.live[j]? = some fd)
    (hr : removeClient w j = .ok w') : Orderly w' := by
  refine ⟨(h.wf.remove hj hr).1, ?_⟩
  rw [(removeClient_spec h.wf.table hj hr).2.2.1]
  exact along_append.mpr ⟨h.disciplined, along_singleton.mpr trivial⟩

end Orderly

namespace Turn

variable {ready : List Fd} {i : Nat} {w w' : World}

theorem idle (h : Turn ready i w) {τ : List Event} (htab : ∀ e ∈ τ, e.onTable = false)
    (hτ : ∀ e ∈ τ, e.idle = true) : Turn ready i (w.log τ) := by
  have hround : ∀ e ∈ τ, e.ofRound = false := fun e he => Event.ofRound_of_idle (hτ e he)
  refine ⟨h.toOrderly.log htab (along_idle hτ), ?_, ?_⟩
  · rw [World.log_hist, roundSet_append _ hround, h.set]
  · rw [World.log_hist, served_append _ hround]
    exact h.fresh

theorem remove (h : Turn ready i w) {j : Nat} {fd : Fd} (hj : w.live[j]? = some fd)
    (hr : removeClient w j = .ok w') : Turn ready i w' := by
  obtain ⟨-, hlive, hhist, -⟩ := removeClient_spec h.wf.table hj hr
  have hround : ∀ e ∈ [Event.removed fd], e.ofRound = false := List.forall_mem_singleton.mpr rfl
  refine ⟨h.toOrderly.remove hj hr, ?_, fun fd' hmem => ?_⟩
  · rw [hhist, roundSet_append _ hround, h.set]
  · rw [hhist, served_append _ hround]
    rw [hlive] at hmem
    exact h.fresh fd' (mem_drop_of_eraseIdx hmem)

/-- The turn of the client at index `i`. -/
theorem serve (h : Turn ready i w) {L : Allows} {fd : Fd} {τ : List Event}
    (hi : w.live[i]? = some fd) (hready : fd ∈ ready)
    (hτ : RecordTrace L (w.hist ++ [.serving fd]) fd τ) :
    Turn ready (i + 1) (w.log (.serving fd :: τ)) := by
  have hdrop := drop_of_getElem? hi
  have hmem : fd ∈ tableOf w.hist := by
    rw [h.wf.told]
    exact List.mem_of_getElem? hi
  have honly : ∀ e ∈ τ, ∃ n r, e = .recv fd n r := fun e he => by
    obtain ⟨n, r, -, rfl⟩ := hτ.only e he
    exact ⟨n, r, rfl⟩
  have hround : ∀ e ∈ τ, e.ofRound = false := fun e he => by
    obtain ⟨n, r, rfl⟩ := honly e he
    rfl
  have htable : ∀ e ∈ ([.serving fd] : List Event), e.onTable = false :=
    List.forall_mem_singleton.mpr rfl
  have hset : roundSet (w.hist ++ [.serving fd]) = ready := by
    rw [← h.set]
    simp [roundSet]
  have hserved : served (w.hist ++ [.serving fd]) = served w.hist ++ [fd] := served_serving _ _
  have hhist : (w.log (.serving fd :: τ)).hist = (w.hist ++ [.serving fd]) ++ τ := by simp
  refine ⟨h.toOrderly.log hτ.served_not_onTable ⟨?_, ?_⟩, ?_, ?_⟩
  · refine ⟨hmem, h.set ▸ hready, h.fresh fd ?_⟩
    rw [hdrop]
    exact List.mem_cons_self
  · -- every `recv` of the trace is made with the same table, set and turn
    rw [along_iff]
    rintro τ₁ e τ₂ rfl
    obtain ⟨n, r, rfl⟩ := honly e (by simp)
    have hbefore : ∀ e ∈ τ₁, e.ofRound = false := fun e he => hround e (by simp [he])
    have htab : ∀ e ∈ τ₁, e.onTable = false := fun e he => hτ.not_onTable e (by simp [he])
    refine ⟨?_, ?_, ?_⟩
    · rw [tableOf_append _ htab, tableOf_append _ htable]
      exact hmem
    · rw [roundSet_append _ hbefore, hset]
      exact hready
    · rw [served_append _ hbefore, hserved, List.getLast?_concat]
  · rw [hhist, roundSet_append _ hround, hset]
  · rw [hhist, served_append _ hround, hserved]
    intro fd' hfd' hold
    have hlater : fd' ∈ w.live.drop (i + 1) := hfd'
    rcases List.mem_append.mp hold with hold | hold
    · refine h.fresh fd' ?_ hold
      rw [hdrop]
      exact List.mem_cons_of_mem fd hlater
    · rw [List.mem_singleton.mp hold] at hlater
      exact not_mem_drop_succ h.wf.nodup hi hlater

end Turn

theorem SendTrace.idle {L : Allows} {h : List Event} {s : Fd} {data : List Byte} {τ : List Event}
    (hτ : SendTrace L h s data τ) : ∀ e ∈ τ, e.idle = true := by
  intro e he
  obtain ⟨d, r, -, rfl⟩ := hτ.only e he
  rfl

section Sections

variable (L : Allows)

theorem relay_orderly (skip : Nat → Bool) (data : List Byte) :
    RelayInv L skip data Orderly Orderly NotReturned (fun _ _ => Orderly) where
  wf h := h.wf.table
  holds h := h
  skipped h _ _ := h
  mid h _ _ hτ := h.log hτ.not_onTable (along_idle hτ.idle)
  sent h _ _ hτ _ _ := h.log hτ.not_onTable (along_idle hτ.idle)
  dropped h hfd _ hτ _ hr := (h.log hτ.not_onTable (along_idle hτ.idle)).remove hfd hr
  spent _ := rfl
  stuck _ _ _ _ _ _ := rfl
  done h _ := h

theorem relay_turn (ready : List Fd) (i : Nat) (skip : Nat → Bool) (data : List Byte) :
    RelayInv L skip data Orderly (Turn ready i) NotReturned (fun _ _ => Turn ready i) where
  wf h := h.wf.table
  holds h := h.toOrderly
  skipped h _ _ := h
  mid h _ _ hτ := (h.idle hτ.not_onTable hτ.idle).toOrderly
  sent h _ _ hτ _ _ := h.idle hτ.not_onTable hτ.idle
  dropped h hfd _ hτ _ hr := (h.idle hτ.not_onTable hτ.idle).remove hfd hr
  spent _ := rfl
  stuck _ _ _ _ _ _ := rfl
  done h _ := h

theorem pass_turn (tapcfg : Bool) (ready : List Fd) :
    PassInv L tapcfg ready Orderly (fun _ => Orderly) NotReturned (fun _ => Turn ready) where
  wf h := h.wf.table
  holds h := h.toOrderly
  skipped h hfd hnot := by
    refine ⟨h.toOrderly, h.set, fun fd' hmem => h.fresh fd' ?_⟩
    rw [drop_of_getElem? hfd]
    exact List.mem_cons_of_mem _ hmem
  mid h hfd hready hτ := (h.serve hfd hready hτ).toOrderly
  refused h hfd hready hτ _ hr := (h.serve hfd hready hτ).remove hfd hr
  written _ h hfd hready hτ _ _ _ _ := by
    rw [← World.log_log]
    exact (h.serve hfd hready hτ).idle (List.forall_mem_singleton.mpr rfl)
      (List.forall_mem_singleton.mpr rfl)
  rejected {n i w fd τ frame answer} _ h hfd hready hτ _ _ _ _ := by
    have hturn : Turn ready (i + 1) ((w.log (.serving fd :: τ)).log [.write fd frame answer]) :=
      (h.serve hfd hready hτ).idle (List.forall_mem_singleton.mpr rfl)
        (List.forall_mem_singleton.mpr rfl)
    rw [← World.log_log]
    exact ⟨hturn.toOrderly, hturn.toOrderly⟩
  forwarded _ h hfd hready hτ hlegal _ hbuf hframe := by
    apply RelayInv.sat_forwardLoop hlegal hbuf hframe (relay_turn L ready _ _ _)
    rw [← World.log_log]
    exact (h.serve hfd hready hτ).idle (List.forall_mem_singleton.mpr rfl)
      (List.forall_mem_singleton.mpr rfl)
  spent _ := rfl
  stuck _ _ _ _ _ _ := rfl
  done h _ := h.toOrderly

theorem orderly : WorldInv L (fun _ => Orderly) fun _ => Orderly where
  init tapcfg := ⟨Sys.init_wf tapcfg, trivial⟩
  holds h := h
  add h hfd hadd := by
    refine ⟨h.wf.add hfd hadd, ?_⟩
    rcases addClient_spec h.wf.table hadd with ⟨-, rfl, -⟩ | ⟨-, -, -, -, hhist, -⟩
    · exact h.disciplined
    · rw [hhist]
      exact along_append.mpr ⟨h.disciplined, along_singleton.mpr trivial⟩
  broadcast fuel h hlegal := by
    apply RelayInv.sat_broadcast hlegal (relay_orderly L _ _)
    exact h.log (List.forall_mem_singleton.mpr rfl) (along_singleton.mpr trivial)
  pass {tapcfg w ready buf} fuel h hbuf := by
    have hlog : Orderly (w.log [.round ready]) :=
      h.log (List.forall_mem_singleton.mpr rfl) (along_singleton.mpr trivial)
    refine (pass_turn L tapcfg ready).sat fuel 0 buf _ hbuf ⟨hlog, roundSet_round _ _, ?_⟩
    rw [World.log_hist, served_round]
    exact fun _ _ => List.not_mem_nil

end Sections

/-! ## Every round of every run -/

/-- Along a disciplined history no client has two turns in one round. -/
theorem served_nodup {h : List Event} (hd : Along Disciplined [] h) : (served h).Nodup := by
  induction h using List.reverseRecOn with
  | nil => exact List.nodup_nil
  | append_singleton h e ih =>
      obtain ⟨hbefore, he⟩ := along_append.mp hd
      have hstay : e.ofRound = false → (served (h ++ [e])).Nodup := fun hfalse => by
        rw [served_append _ (List.forall_mem_singleton.mpr hfalse)]
        exact ih hbefore
      cases e with
      | serving fd =>
          have hnew : fd ∉ served h := (along_singleton.mp he).2.2
          rw [served_serving, List.nodup_append]
          refine ⟨ih hbefore, List.nodup_singleton fd, ?_⟩
          rintro a ha b hb rfl
          exact hnew (List.mem_singleton.mp hb ▸ ha)
      | round ready =>
          rw [served_round]
          exact List.nodup_nil
      | added | removed | relay | forward | send | recv | write => exact hstay rfl

section Runs

variable {L : Allows} {σ : Sys}

/-- The first argument of `select` is above the whole set. -/
theorem selecting_lt (h : Reachable L σ) :
    ∀ rfds nfds, σ.writer = .selecting rfds nfds → ∀ fd ∈ rfds, (fd : Int) < nfds := by
  induction h with
  | init => simp [Sys.init]
  | @step σ σ' hσ hs ih =>
      intro rfds nfds hw
      cases hs with
      | outside h =>
          cases h with
          | startListening | startQuiet | selectFailed | select | noAccept | acceptFailed | accept
          | join => cases hw
          | writerCheck => cases hrun : σ.server.running <;> simp [hrun] at hw
          | startFailed | readNothing | readFrame | readerCheck | stop | destroy =>
              exact ih rfds nfds hw
      | locked hf h =>
          have hwf := (((admission L).reachable hσ).1 hf).wf
          cases h with
          | addClient => exact ih rfds nfds hw
          | buildEmpty | buildFault | addFault | add => cases hw
          | build _ hset _ =>
              obtain ⟨highest, hset', hbound⟩ := fdSet_spec hwf.table (s := σ.server)
              cases hset.symm.trans hset'
              cases hw
              intro fd hfd
              have := hbound fd hfd
              omega
      | readerLock | readerRun | readerUnlock => exact ih rfds nfds hw
      | writerLock | writerRun | writerUnlock | writerClear | writerLeave => cases hw

/-- In every run: `recv` is called on a client of the table that `select` has
reported in this round and whose turn it is; in no round has a client two turns;
and the first argument of `select` is above the set. -/
theorem rounds_safe (h : Reachable L σ) :
    (∀ h₁ fd n ret h₂, σ.hist = h₁ ++ .recv fd n ret :: h₂ →
      fd ∈ tableOf h₁ ∧ fd ∈ roundSet h₁ ∧ (served h₁).getLast? = some fd) ∧
      (∀ h₁ h₂, σ.hist = h₁ ++ h₂ → (served h₁).Nodup) ∧
      ∀ rfds nfds, σ.writer = .selecting rfds nfds → ∀ fd ∈ rfds, (fd : Int) < nfds := by
  have hd : Along Disciplined [] σ.hist := ((orderly L).sysInv.reachable h).2.disciplined
  refine ⟨fun h₁ fd n ret h₂ hs => hd.at hs, fun h₁ h₂ hs => ?_, selecting_lt h⟩
  rw [hs, along_append] at hd
  exact served_nodup hd.1

end Runs

/-- A run up to the first `recv` for client 5 of a device-mode server. -/
theorem receiving_reachable : ∃ σ, Reachable anyAnswer σ ∧
    σ.hist = [.added 5, .round [5], .serving 5] ++ .recv 5 2 (some [0]) :: [] := by
  have hadd := (Reachable.init (L := anyAnswer) true).step (.locked
    ⟨by simp [Sys.ReaderInside, Sys.init], by simp [Sys.WriterInside, Sys.init]⟩
    (.addClient rfl rfl rfl (show 5 ∉ (Sys.init true).live by decide) rfl))
  have hstart := hadd.step (.outside (.startQuiet rfl rfl rfl))
  have hbuild := hstart.step (.locked ⟨by simp [Sys.ReaderInside, Sys.init, Sys.withWorld,
    tapserverInit], by simp [Sys.WriterInside]⟩
    (.build rfl (show fdSet _ = .ok ([5], 5) from rfl) (by decide)))
  have hselect := hbuild.step (.outside (.select rfl (List.Subset.refl [5])))
  have hlock := hselect.step (.writerLock 2 ⟨by simp [Sys.ReaderInside, Sys.init, Sys.withWorld,
    tapserverInit], by simp [Sys.WriterInside]⟩ rfl (List.length_replicate (n := bufSize) (a := 0)))
  have hload := hlock.step (.writerRun rfl (.atomic rfl))
  have hentry := hload.step (.writerRun rfl (.atomic rfl))
  have hmark := hentry.step (.writerRun rfl (.atomic rfl))
  have hcred : (Event.recv 5 2 (some [0])).Credible := show 1 ≤ 2 by decide
  exact ⟨_, hmark.step (.writerRun rfl (.call ⟨hcred, trivial, rfl⟩)), rfl⟩

theorem rounds_safe_receiving :
    5 ∈ tableOf [.added 5, .round [5], .serving 5] ∧
      5 ∈ roundSet [.added 5, .round [5], .serving 5] := by
  obtain ⟨σ, hσ, hhist⟩ := receiving_reachable
  have h := (rounds_safe hσ).1 _ _ _ _ _ hhist
  exact ⟨h.1, h.2.1⟩

end TapCfg.Daemon
