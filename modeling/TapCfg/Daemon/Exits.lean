/-
  Daemon/Exits.lean --- the five ways out of writer_thread, and `running`.

  Source: src/daemon/tapserver.c, lines 205-208 (the check of reader_thread) and
  227-336 (writer_thread).

  `running` is what tells `reader_thread` that the server is over.  Two ways out
  of `writer_thread` go with it: a device write error clears it, and a stop has
  cleared it.  The other three (no descriptor to wait for, a `select` error, an
  `accept` error) leave the loop and leave it set, so `reader_thread` goes on
  sending to clients that nobody reads from.  `Heeded` leaves these three out
  while `running` is set, and nothing else (`running_cleared`).
-/
import TapCfg.Daemon.Descriptors
import TapCfg.Foundation.Runs

set_option autoImplicit false

namespace TapCfg.Daemon

open TapCfg.Foundation

/-- Once `writer_thread` has returned, `running` is 0 and `reader_thread` leaves
its loop at its next check. -/
structure Quits (L : Allows) (σ : Sys) : Prop where
  cleared : σ.writer = .done → σ.server.running = false
  leaves : σ.writer = .done → σ.reader = .check →
    ∀ σ', Step L σ σ' → σ'.reader = .check ∨ σ'.reader = .done

/-- The exits of `writer_thread` that do not look at `running`. -/
inductive Cut (σ σ' : Sys) : Prop where
  /-- `if (highest_fd == -1) break` -/
  | empty (hw : σ.writer = .top) (hset : admitted σ.server ++ σ.live = [])
      (hd : σ'.writer = .done)
  /-- `if (tmp < 0) break` -/
  | select {rfds : List Fd} {nfds : Int} (hw : σ.writer = .selecting rfds nfds)
      (hd : σ'.writer = .done)
  /-- `if (client_fd == -1) goto exit` -/
  | accept {ready : List Fd} (hw : σ.writer = .served ready)
      (hy : σ.server.listening = true ∧ σ.server.serverFd ∈ ready) (hd : σ'.writer = .done)

/-- No such exit is taken while the server is to go on. -/
def Heeded (σ σ' : Sys) : Prop := σ.server.running = true → ¬ Cut σ σ'

/-- `running` is 0 from the moment `writer_thread` decides to return. -/
def Lowered (σ : Sys) : Prop :=
  σ.writer = .exiting ∨ σ.writer = .done → σ.server.running = false

theorem fdSet_empty {s : Tapserver} (hs : s.table.Wf) {rfds : List Fd}
    (h : fdSet s = .ok (rfds, -1)) : admitted s ++ s.table.live = [] := by
  obtain ⟨highest, hok, hbound⟩ := fdSet_spec hs
  rw [h] at hok
  obtain ⟨rfl, rfl⟩ := Prod.mk.inj (Except.ok.inj hok)
  rw [List.eq_nil_iff_forall_not_mem]
  intro fd hfd
  have := hbound fd hfd
  omega

section Steps

variable {L : Allows} {σ σ' : Sys}

/-- `writer_thread` returns where it has cleared `running` or found it cleared,
or by one of the other exits. -/
theorem Step.returns (hwf : σ.server.table.Wf) (hs : Step L σ σ') (hd : σ'.writer = .done) :
    Cut σ σ' ∨ (σ.writer = .exiting ∨ σ.writer = .done) ∨
      (σ.writer = .check ∧ σ.server.running = false) := by
  cases hs with
  | outside h =>
      cases h with
      | selectFailed hw => exact .inl (.select hw rfl)
      | acceptFailed hw hy => exact .inl (.accept hw hy rfl)
      | writerCheck hw =>
          dsimp only at hd
          split at hd
          · cases hd
          · exact .inr (.inr ⟨hw, Bool.eq_false_iff.mpr ‹_›⟩)
      | startListening | startQuiet | select | noAccept | accept | join => cases hd
      | startFailed | readNothing | readFrame | readerCheck | stop | destroy =>
          exact .inr (.inl (.inr hd))
  | locked _ h =>
      cases h with
      | buildEmpty hw h => exact .inl (.empty hw (fdSet_empty hwf h) rfl)
      | addClient => exact .inr (.inl (.inr hd))
      | build | buildFault | add | addFault => cases hd
  | readerLock | readerRun | readerUnlock => exact .inr (.inl (.inr hd))
  | writerLock | writerRun | writerUnlock | writerClear => cases hd
  | writerLeave hw => exact .inr (.inl (.inl hw))

theorem Step.exits (hs : Step L σ σ') (he : σ'.writer = .exiting) :
    σ'.server.running = false ∨ σ.writer = .exiting := by
  cases hs with
  | outside h =>
      cases h with
      | writerCheck =>
          dsimp only at he
          split at he <;> cases he
      | startListening | startQuiet | selectFailed | select | noAccept | acceptFailed | accept
      | join => cases he
      | startFailed | readNothing | readFrame | readerCheck | stop | destroy => exact .inr he
  | locked _ h =>
      cases h with
      | addClient => exact .inr he
      | buildEmpty | build | buildFault | add | addFault => cases he
  | readerLock | readerRun | readerUnlock => exact .inr he
  | writerLock | writerRun | writerUnlock | writerLeave => cases he
  | writerClear => exact .inl rfl

/-- While there is a writer, `running` changes only where it is cleared: by a
stop, and before the writer leaves. -/
theorem Step.running (hs : Step L σ σ') (hoff : σ.writer ≠ .off) :
    σ'.server.running = σ.server.running ∨
      (σ'.server.running = false ∧ (σ'.writer = σ.writer ∨ σ'.writer = .exiting)) := by
  cases hs with
  | outside h =>
      cases h with
      | startListening _ hw | startQuiet _ hw => exact (hoff hw).elim
      | stop => exact .inr ⟨rfl, .inl rfl⟩
      | _ => exact .inl rfl
  | locked _ h => cases h <;> exact .inl rfl
  | writerClear => exact .inr ⟨rfl, .inr rfl⟩
  | _ => exact .inl rfl

theorem Step.stays_lowered (hs : Step L σ σ') (hoff : σ.writer ≠ .off)
    (hr : σ.server.running = false) : σ'.server.running = false := by
  rcases hs.running hoff with heq | ⟨hfalse, -⟩
  · rw [heq, hr]
  · exact hfalse

theorem Cut.not_off (hc : Cut σ σ') : σ.writer ≠ .off := by
  cases hc <;> simp [*]

/-- Such an exit leaves `running` as it is. -/
theorem Cut.running (hs : Step L σ σ') (hc : Cut σ σ') :
    σ'.writer = .done ∧ σ'.server.running = σ.server.running := by
  have hd : σ'.writer = .done ∧ σ.writer ≠ .done := by cases hc <;> simp [*]
  rcases hs.running hc.not_off with heq | ⟨-, hsame | hexit⟩
  · exact ⟨hd.1, heq⟩
  · exact (hd.2 (hsame.symm.trans hd.1)).elim
  · rw [hd.1] at hexit
    cases hexit

theorem Lowered.step (hl : Lowered σ) (hwf : σ.server.table.Wf) (hs : Step L σ σ')
    (hh : Heeded σ σ') : Lowered σ' := by
  rintro (he | hd)
  · rcases hs.exits he with hfalse | hw
    · exact hfalse
    · exact hs.stays_lowered (by simp [hw]) (hl (.inl hw))
  · rcases hs.returns hwf hd with hc | hw | ⟨hw, hr⟩
    · exact hs.stays_lowered hc.not_off (Bool.eq_false_iff.mpr fun hr => hh hr hc)
    · exact hs.stays_lowered (by rcases hw with hw | hw <;> simp [hw]) (hl hw)
    · exact hs.stays_lowered (by simp [hw]) hr

/-- The check of `reader_thread`, with `running` cleared. -/
theorem Step.check (hs : Step L σ σ') (hc : σ.reader = .check)
    (hr : σ.server.running = false) : σ'.reader = .check ∨ σ'.reader = .done := by
  cases hs with
  | outside h =>
      cases h with
      | readerCheck =>
          rw [hr]
          exact .inr rfl
      | startListening hoff | startQuiet hoff => rw [hc] at hoff; cases hoff
      | readNothing hr' | readFrame hr' => rw [hc] at hr'; cases hr'
      | join _ hdone => rw [hc] at hdone; cases hdone
      | _ => exact .inl hc
  | locked _ h => cases h <;> exact .inl hc
  | readerLock _ _ hr' | readerRun hr' | readerUnlock hr' => rw [hc] at hr'; cases hr'
  | writerLock | writerRun | writerUnlock | writerClear | writerLeave => exact .inl hc

theorem Lowered.quits (hl : Lowered σ) : Quits L σ where
  cleared hd := hl (.inr hd)
  leaves hd hc _ hs := hs.check hc (hl (.inr hd))

end Steps

/-- The runs in which no exit is taken unheeded. -/
abbrev HeededRun (L : Allows) (tapcfg : Bool) : Sys → Prop :=
  Runs (· = Sys.init tapcfg) (Provided (Step L) Heeded)

theorem heededRun_reachable {L : Allows} {tapcfg : Bool} {σ : Sys} (h : HeededRun L tapcfg σ) :
    Reachable L σ := by
  refine h.invariant (I := Reachable L) ?_ fun σ σ' hσ hs => hσ.step hs.1
  rintro σ rfl
  exact .init tapcfg

theorem heededRun_lowered {L : Allows} {tapcfg : Bool} {σ : Sys} (h : HeededRun L tapcfg σ) :
    Lowered σ := by
  induction h with
  | start h =>
      rw [h]
      exact fun hw => by rcases hw with hw | hw <;> cases hw
  | next h hs ih => exact ih.step (heededRun_reachable h).wf.table hs.1 hs.2

/-- In every run that takes none of the three exits while `running` is set, the
flag is 0 once `writer_thread` has returned; a step from a state reached so
keeps this exactly when it takes none of them either. -/
theorem running_cleared {L : Allows} {tapcfg : Bool} {σ : Sys} (h : HeededRun L tapcfg σ) :
    Quits L σ ∧ ∀ σ', Step L σ σ' → (Quits L σ' ↔ Heeded σ σ') := by
  have hl := heededRun_lowered h
  refine ⟨hl.quits, fun σ' hs => ⟨fun hq hr hc => ?_, fun hh => ?_⟩⟩
  · obtain ⟨hd, hkept⟩ := hc.running hs
    rw [hq.cleared hd, hr] at hkept
    cases hkept
  · exact (hl.step (heededRun_reachable h).wf.table hs hh).quits

/-- A server without a client is started and stopped; the writer, which was at
the head of its loop, returns. -/
theorem running_cleared_stopped : ∃ σ, σ.writer = .done ∧ Quits anyAnswer σ := by
  have hinit : HeededRun anyAnswer true (Sys.init true) := .start rfl
  have hstart := Runs.next hinit ⟨.outside (.startQuiet rfl rfl rfl), fun hr => by cases hr⟩
  have hstop := Runs.next hstart ⟨.outside (.stop (by simp [Sys.init, tapserverInit]) rfl),
    fun _ hc => by cases hc <;> contradiction⟩
  have hfree : Sys.Free { Sys.atTop true (Sys.init true).world with
      server := { tapserverInit true with joined := true } } :=
    ⟨by simp [Sys.ReaderInside, Sys.atTop], by simp [Sys.WriterInside, Sys.atTop]⟩
  have hend := Runs.next hstop ⟨.locked hfree
    (.buildEmpty rfl (show fdSet _ = .ok ([], -1) from rfl)), fun hr => by cases hr⟩
  exact ⟨_, rfl, (running_cleared hend).1⟩

/-- `select` fails on a server with a device and client 5: the writer is gone,
nobody reads from the client any more, and the next frame of the device is sent
to it all the same. -/
theorem running_left : ∃ σ σ' : Sys, Reachable anyAnswer σ ∧ ¬ Quits anyAnswer σ ∧
    σ.writer = .done ∧ Reachable anyAnswer σ' ∧ σ'.writer = .done ∧
    .send 5 [9] (some 1) ∈ σ'.hist := by
  have htop := atTop_reachable anyAnswer true (show [5].Nodup by decide) (by decide)
  have hselect := htop.step (.locked (atTop_free _ _)
    (.build rfl (show fdSet _ = .ok ([5], 5) from rfl) (by decide)))
  have hdone := hselect.step (.outside (.selectFailed rfl))
  have hfree : Sys.Free { Sys.atTop true ⟨.holding [5], [.added 5]⟩ with writer := .done } :=
    ⟨by simp [Sys.ReaderInside, Sys.atTop], by simp [Sys.WriterInside]⟩
  have hok : ((broadcast 5 [9]).run (scripted (fun _ => []) 1)
      ⟨.holding [5], [.added 5, .relay [9]]⟩).1 = .ok () := by decide +kernel
  have hsent : .send 5 [9] (some 1) ∈ ((broadcast 5 [9]).run (scripted (fun _ => []) 1)
      ⟨.holding [5], [.added 5, .relay [9]]⟩).2.hist := by decide +kernel
  have hrelay := hdone.relays hfree rfl (show Legal bufSize [9] by decide)
    (scripted_follows_any (fun _ => []) 1) 5 (Prod.ext hok rfl)
  refine ⟨_, _, hdone, fun hq => ?_, rfl, hrelay, rfl, hsent⟩
  cases hq.cleared rfl

end TapCfg.Daemon
