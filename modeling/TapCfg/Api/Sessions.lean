/-
  Api/Sessions.lean --- what the reading functions promise on every platform.

  Source: src/include/tapcfg.h, lines 120-145, src/lib/tapcfg_unix.c, lines
  94-233, and src/lib/tapcfg_windows.c, lines 207-346.

  The two implementations keep the frame that is held, and on Windows the
  request that is pending, over a stop and a start; and only the one on Windows
  looks at the frame before it waits.
-/
import TapCfg.Unix.Sessions
import TapCfg.Windows.Sessions

set_option autoImplicit false

namespace TapCfg.Api

open TapCfg.Foundation

/-- In every run in which no device is opened while a frame is held, or on Windows a
request pending: the frames handed on are of the device that was opened last, and on
Windows the requests that are awaited or taken over have been made since. -/
theorem sessions_current {b : Unix.Backend} {s : Unix.Reader} {w : Windows.World}
    (hs : Runs Unix.Reader.Initial (Provided (Unix.SessionStep b) Unix.OpenedEmpty) s)
    (hw : Runs Windows.World.Initial Windows.TidySteps w) :
    Current s.log ∧ Current w.log ∧ Owned False (session w.log) :=
  ⟨(Unix.Tidy.runs hs).accounts.current, (Windows.Tidy.runs hw).accounts.current,
    (Windows.Tidy.runs hw).owned⟩

/-- A start and a read that has no room for the frame. -/
theorem sessions_current_held :
    Current Unix.heldReader.log ∧ Current Windows.startedWorld.opened.log ∧
      Owned False (session Windows.startedWorld.opened.log) := by
  have hunix : Runs Unix.Reader.Initial (Provided (Unix.SessionStep .linux) Unix.OpenedEmpty)
      Unix.heldReader := by
    have h₀ : Runs Unix.Reader.Initial (Provided (Unix.SessionStep .linux) Unix.OpenedEmpty)
        Unix.initialReader := .start Unix.initialReader_initial
    have h₁ := h₀.next ⟨Unix.firstReader_step, fun _ => rfl⟩
    refine h₁.next ⟨.reading Unix.heldReader_step, fun h => ?_⟩
    exact absurd h.1 (by decide +kernel)
  have hwindows : Runs Windows.World.Initial Windows.TidySteps Windows.startedWorld.opened :=
    Windows.start_step fun _ _ hs hunused => ⟨true, hs, fun _ => hunused⟩
  exact sessions_current hunix hwindows

/-- A frame that is held when a device is stopped is handed on after the next start, and on
Windows a request that is pending is awaited. -/
theorem sessions_stale :
    (∃ s, Runs Unix.Reader.Initial (Unix.SessionStep .linux) s ∧ ¬ Current s.log) ∧
    (∃ w, Runs Windows.World.Initial Windows.SessionSteps w ∧ ¬ Current w.log) ∧
    ∃ w, Runs Windows.World.Initial Windows.SessionSteps w ∧ ¬ Owned False (session w.log) :=
  ⟨⟨_, Unix.staleReader_runs, Unix.staleReader_stale⟩,
    ⟨_, Windows.staleWorld_runs, Windows.staleWorld_stale⟩,
    ⟨_, Windows.lateWorld_runs, Windows.lateWorld_late⟩⟩

/-- In every started state that runs reach: on Unix a wait keeps its promise when no frame
is held, or the device is reported to have another, and in whatever way it ends just when no
frame is held; on Windows when it takes over no request that has read nothing. -/
theorem waiting_agrees {b : Unix.Backend} {s : Unix.Reader} {w : Windows.World}
    (hs : Runs Unix.Reader.Initial (Unix.SessionStep b) s) (hsup : s.cfg.started = true)
    (hw : Runs Windows.World.Initial Windows.SessionSteps w) (hwup : w.cfg.started = true)
    (msec : Int) :
    (∀ r s', Unix.ReadStep s (.wait msec) r s' →
      (Unix.WaitAgrees s r s' ↔ s.buflen = 0 ∨ s'.log = s.log ++ [.polled true])) ∧
    ((∀ r s', Unix.ReadStep s (.wait msec) r s' → Unix.WaitAgrees s r s') ↔ s.buflen = 0) ∧
    ∀ r w', Windows.ReadStep w (.wait msec) r w' →
      ∃ τ, w'.log = w.log ++ τ ∧ (Windows.WaitAgrees w r w' ↔ .took [] ∉ τ) := by
  have hrange := Unix.SessionStep.runs_inRange hs
  exact ⟨fun r s' hwait => Unix.waitAgrees_iff hrange hsup hwait,
    Unix.waitAgrees_all_iff msec hrange hsup,
    fun r w' hwait => Windows.waitAgrees_iff (Windows.inv_of_runs hw) hwup hwait⟩

/-- A wait on a device that has just been opened. -/
theorem waiting_agrees_opened :
    (∀ r s', Unix.ReadStep Unix.firstReader (.wait 20) r s' →
      Unix.WaitAgrees Unix.firstReader r s') ∧
    Windows.WaitAgrees Windows.startedWorld.opened 0 Windows.polledWorld := by
  have hunix : Runs Unix.Reader.Initial (Unix.SessionStep .linux) Unix.firstReader :=
    (Runs.start Unix.initialReader_initial).next Unix.firstReader_step
  have hwindows : Runs Windows.World.Initial Windows.SessionSteps Windows.startedWorld.opened :=
    Windows.start_step fun _ _ hs _ => ⟨true, hs⟩
  have hlog : Windows.polledWorld.log =
      Windows.startedWorld.opened.log ++ [.asked, .awaited, .blocked] := by decide +kernel
  obtain ⟨-, hall, hwait⟩ :=
    waiting_agrees hunix (by decide +kernel) hwindows (by decide +kernel) 20
  refine ⟨hall.mpr (by decide +kernel), ?_⟩
  obtain ⟨τ, hτ, hiff⟩ := hwait 0 _ Windows.polledWorld_step
  have hmoves : τ = [.asked, .awaited, .blocked] := List.append_cancel_left (hτ.symm.trans hlog)
  exact hiff.mpr (by simp [hmoves])

/-- On Unix a wait that times out does not report the frame held; on Windows the read after
a wait that has taken over an empty frame waits. -/
theorem waiting_disagrees :
    (∃ s, Runs Unix.Reader.Initial (Unix.SessionStep .linux) s ∧ s.held = [[1, 2, 3]] ∧
      ∃ s', Unix.ReadStep s (.wait 20) 0 s' ∧ ¬ Unix.WaitAgrees s 0 s') ∧
    ∃ w w', Runs Windows.World.Initial Windows.SessionSteps w ∧
      Windows.ReadStep w (.wait 20) 1 w' ∧ ¬ Windows.WaitAgrees w 1 w' := by
  have hunix : Runs Unix.Reader.Initial (Unix.SessionStep .linux) Unix.heldReader :=
    ((Runs.start Unix.initialReader_initial).next Unix.firstReader_step).next
      (.reading Unix.heldReader_step)
  have hheld : Unix.heldReader.held = [[1, 2, 3]] := by decide +kernel
  have hwindows : Runs Windows.World.Initial Windows.SessionSteps Windows.startedWorld.opened :=
    Windows.start_step fun _ _ hs _ => ⟨true, hs⟩
  refine ⟨⟨_, hunix, hheld, _, Unix.wait_timesOut 20 (by decide +kernel), fun hagrees => ?_⟩,
    ⟨_, _, hwindows, Windows.emptyWorld_step, fun hagrees => ?_⟩⟩
  · exact hagrees.1 (by simp [hheld]) rfl
  · obtain ⟨τ, hτ, hiff⟩ := Windows.waitAgrees_iff (Windows.inv_of_runs hwindows)
      (by decide +kernel) Windows.emptyWorld_step
    have hlog : Windows.emptyWorld.log =
        Windows.startedWorld.opened.log ++ [.asked, .ended, .took []] := by decide +kernel
    have hmoves : τ = [.asked, .ended, .took []] := List.append_cancel_left (hτ.symm.trans hlog)
    exact hiff.mp hagrees (by simp [hmoves])

end TapCfg.Api
