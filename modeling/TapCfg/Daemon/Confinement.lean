/-
  Daemon/Confinement.lean --- what one client can do to the others.

  Source: src/daemon/tapserver.c, lines 259-292.

  The bytes of a client pass through the length, the buffer size, the device and
  the table.  In device mode no way in which they can be bad reaches another
  client: at most the sender is taken out (`servicing_confined`).  The one thing
  that reaches further is intended: a result of `tapcfg_write` that is not
  positive clears `running` and ends the thread, with the table as it was.
-/
import TapCfg.Daemon.Admission

set_option autoImplicit false

namespace TapCfg.Daemon

open TapCfg.Foundation
open Prog

/-! ## One turn of one client -/

/-- What is left of the pass after the turn of the client at index `i`. -/
def passRest (n : Nat) (tapcfg : Bool) (ready : List Fd) (i : Nat) : Flow × List Byte → Io Flow
  | (.exit, _) => return .exit
  | (.next, buf) => servicePass n tapcfg ready (i + 1) buf

/-- A pass that finds a client at its index is the turn of that client and the
rest. -/
theorem servicePass_succ (n : Nat) (tapcfg : Bool) (ready : List Fd) (i : Nat) (buf : List Byte) :
    servicePass (n + 1) tapcfg ready i buf = load.bind fun w =>
      if (i : Int) < w.table.clients then
        (serviceClient n tapcfg ready i buf).bind (passRest n tapcfg ready i)
      else return .next := by
  rw [servicePass]
  refine congrArg load.bind (funext fun w => if_congr Iff.rfl ?_ rfl)
  refine congrArg (Prog.bind _) (funext fun r => ?_)
  obtain ⟨flow, buf⟩ := r
  cases flow <;> rfl

/-- The writer makes part or all of the turn of the client at index `i`, up to
and including the clearing of `running`. -/
inductive Services (L : Allows) (i : Nat) : Sys → Sys → Prop where
  | during {σ : Sys} {ready : List Fd} {n : Nat} {buf : List Byte} {q : Io (Flow × List Byte)}
      {w : World} (hbuf : buf.length = bufSize)
      (hw : σ.writer = .inside ready ((serviceClient n σ.server.tapcfg ready i buf).bind
        (passRest n σ.server.tapcfg ready i)))
      (hr : Prog.Reaches (osEnv L) (serviceClient n σ.server.tapcfg ready i buf, σ.world) (q, w)) :
      Services L i σ { σ.withWorld w with
        writer := .inside ready (q.bind (passRest n σ.server.tapcfg ready i)) }
  | cleared {σ : Sys} {ready : List Fd} {n : Nat} {buf buf' : List Byte} {w : World}
      (hbuf : buf.length = bufSize)
      (hw : σ.writer = .inside ready ((serviceClient n σ.server.tapcfg ready i buf).bind
        (passRest n σ.server.tapcfg ready i)))
      (hr : Prog.Reaches (osEnv L) (serviceClient n σ.server.tapcfg ready i buf, σ.world)
        (.ret (.exit, buf'), w)) :
      Services L i σ { σ.withWorld w with
        server := { (σ.withWorld w).server with running := false }
        writer := .exiting }

/-- A turn is made of steps of the system. -/
theorem Services.reachable {L : Allows} {i : Nat} {σ σ' : Sys} (hs : Services L i σ σ')
    (h : Reachable L σ) : Reachable L σ' := by
  cases hs with
  | during _ hw hr => exact h.writerRuns hw rfl (hr.bind _)
  | cleared _ hw hr => exact (h.writerRuns hw rfl (hr.bind _)).step (.writerClear rfl)

/-! ## What a turn leaves alone -/

/-- The table of `w₀`, with `c` taken out at most. -/
def Spared (c : Fd) (w₀ w : World) : Prop := w.live = w₀.live ∨ w.live = w₀.live.erase c

/-- The device has not taken a complete frame of `c`, and nobody was taken out. -/
def Rejected (c : Fd) (w₀ w : World) : Prop :=
  w.live = w₀.live ∧ ∃ τ frame answer, w.hist = w₀.hist ++ τ ++ [.write c frame answer] ∧
    receivedFrom c τ = record frame ∧ Legal bufSize frame ∧ answer ≤ 0

theorem Spared.mem {c : Fd} {w₀ w : World} (h : Spared c w₀ w) {fd : Fd} (hfd : fd ∈ w₀.live)
    (hne : fd ≠ c) : fd ∈ w.live := by
  rcases h with h | h <;> rw [h]
  · exact hfd
  · exact (List.mem_erase_of_ne hne).mpr hfd

/-- In device mode a turn spares the others at every moment, and ends the pass
only when the device has not taken the frame. -/
theorem serviceClient_spares (L : Allows) {ready : List Fd} {n i : Nat} {c : Fd} {buf : List Byte}
    (hbuf : buf.length = bufSize) {w : World} (hw : w.Wf) (hi : w.live[i]? = some c) :
    Sat (osEnv L) (Spared c w) (fun r w' => r.1 = .exit → Rejected c w w') NotReturned
      (serviceClient n true ready i buf) w := by
  apply sat_serviceClient hbuf hw.table hi (.inl rfl)
  · intro _ hexit
    cases hexit
  · intro _ τ hτ
    exact .inl rfl
  · intro _ τ w' buf' hτ _ hr _
    have herase := ((hw.log hτ.served_not_onTable).remove (w := w.log (.serving c :: τ)) hi hr).2
    refine ⟨.inr herase, fun hexit => ?_⟩
    cases hexit
  · intro _ _ τ frame answer buf' hτ hlegal hgot _ _
    refine ⟨.inl rfl, fun hexit => ⟨rfl, .serving c :: τ, frame, answer, ?_, hgot, hlegal, ?_⟩⟩
    · rw [World.log_hist, List.append_assoc]
    · by_contra hpos
      rw [if_neg hpos] at hexit
      cases hexit
  · intro htap
    cases htap
  · intro _ _ _ _ _
    rfl

/-- In device mode, from every reachable state, for everything the client may
have sent and everything the device may answer: servicing a client keeps every
other client in the table, takes out at most the client itself, and leaves the
running flag as it was unless the device has not taken a complete frame. -/
theorem servicing_confined {L : Allows} {i : Nat} {c : Fd} {σ σ' : Sys} (h : Reachable L σ)
    (hdev : σ.server.tapcfg = true) (hi : σ.live[i]? = some c) (hs : Services L i σ σ') :
    (∀ fd ∈ σ.live, fd ≠ c → fd ∈ σ'.live) ∧
      (σ'.live = σ.live ∨ σ'.live = σ.live.erase c) ∧
      (σ'.server.running = σ.server.running ∨
        (σ'.server.running = false ∧ Rejected c σ.world σ'.world)) := by
  have hwf : σ.world.Wf := ((admission L).reachable h).2
  cases hs with
  | @during ready n buf q w hbuf hw hr =>
      rw [hdev] at hr
      have hspared : Spared c σ.world w :=
        ((serviceClient_spares L hbuf hwf hi).reaches hr).holds
      exact ⟨fun fd hfd hne => hspared.mem hfd hne, hspared, .inl rfl⟩
  | @cleared ready n buf buf' w hbuf hw hr =>
      rw [hdev] at hr
      have hend := (serviceClient_spares L hbuf hwf hi).reaches hr
      have hspared : Spared c σ.world w := hend.holds
      exact ⟨fun fd hfd hne => hspared.mem hfd hne, hspared, .inr ⟨rfl, hend.2 rfl⟩⟩

/-! ## A frame the device does not take -/

/-- From the head of its loop the writer comes to the turn of the first client. -/
theorem Reachable.firstTurn {L : Allows} {σ : Sys} (h : Reachable L σ) (hf : σ.Free)
    (hw : σ.writer = .top) {rfds ready : List Fd} {highest : Int}
    (hset : fdSet σ.server = .ok (rfds, highest)) (hne : highest ≠ -1) (hready : ready ⊆ rfds)
    (n : Nat) {buf : List Byte} (hbuf : buf.length = bufSize)
    (hclients : 0 < σ.server.table.clients) :
    Reachable L { σ.withWorld (σ.world.log [.round ready]) with
      writer := .inside ready ((serviceClient n σ.server.tapcfg ready 0 buf).bind
        (passRest n σ.server.tapcfg ready 0)) } := by
  have hreader : ¬ σ.ReaderInside := hf.1
  have hbuild := h.step (.locked hf (.build hw hset hne))
  have hselect := hbuild.step (.outside (.select rfl hready))
  have hlock := hselect.step
    (.writerLock (n + 1) ⟨hreader, by simp [Sys.WriterInside]⟩ rfl hbuf)
  refine hlock.step (.writerRun (w := σ.world.log [.round ready]) rfl ?_)
  rw [servicePass_succ]
  have hpos : ((0 : Nat) : Int) < (σ.world.log [.round ready]).table.clients := hclients
  have hstep : Prog.Step (osEnv L)
      (.atomic Except.ok fun w : World => if ((0 : Nat) : Int) < w.table.clients then
        (serviceClient n σ.server.tapcfg ready 0 buf).bind (passRest n σ.server.tapcfg ready 0)
        else return .next, σ.world.log [.round ready]) (_, σ.world.log [.round ready]) :=
    .atomic rfl
  rw [if_pos hpos] at hstep
  exact hstep

/-- Client 5 of a server with a device and two clients has sent the 1-byte frame
7, and the device answers -1: its turn ends with `running` cleared. -/
theorem rejecting_reachable : ∃ σ σ', Reachable anyAnswer σ ∧ Services anyAnswer 0 σ σ' ∧
    σ.server.tapcfg = true ∧ σ.live = [5, 6] ∧ σ.server.running = true ∧
    σ'.server.running = false := by
  have htop := atTop_reachable anyAnswer true (show [5, 6].Nodup by decide) (by decide)
  have hbuf : (List.replicate bufSize (0 : Byte)).length = bufSize := List.length_replicate
  have hturn := htop.firstTurn (atTop_free _ _) rfl (show fdSet _ = .ok ([5, 6], 6) from rfl)
    (by decide) (show [5] ⊆ [5, 6] by decide) 3 hbuf (by decide)
  have hexit : ((serviceClient 3 true [5] 0 (List.replicate bufSize 0)).run
      (scripted (fun _ => [0, 1, 7]) (-1))
      ⟨.holding [5, 6], [.added 5, .added 6, .round [5]]⟩).1.map Prod.fst = .ok .exit := by
    decide +kernel
  cases hrun : (serviceClient 3 true [5] 0 (List.replicate bufSize 0)).run
      (scripted (fun _ => [0, 1, 7]) (-1))
      ⟨.holding [5, 6], [.added 5, .added 6, .round [5]]⟩ with
  | mk result w =>
      rw [hrun] at hexit
      match result, hexit with
      | .ok (.exit, buf'), _ =>
          exact ⟨_, _, hturn, .cleared hbuf rfl (reaches_run (scripted_follows_any _ _) hrun), rfl,
            rfl, rfl, rfl⟩

/-- So a turn may change the running flag, although the frame was legal. -/
theorem servicing_clears_running : ∃ σ σ' : Sys, Reachable anyAnswer σ ∧
    σ.server.tapcfg = true ∧ σ.live[0]? = some 5 ∧ Services anyAnswer 0 σ σ' ∧
    σ'.server.running ≠ σ.server.running := by
  obtain ⟨σ, σ', hσ, hs, hdev, hlive, hbefore, hafter⟩ := rejecting_reachable
  refine ⟨σ, σ', hσ, hdev, by rw [hlive]; rfl, hs, ?_⟩
  rw [hbefore, hafter]
  decide

/-- The turn of client 5, from the state in which it has sent that frame. -/
theorem servicing_confined_rejecting : ∃ σ σ' : Sys, σ.live = [5, 6] ∧ 6 ∈ σ'.live := by
  obtain ⟨σ, σ', hσ, hs, hdev, hlive, -, -⟩ := rejecting_reachable
  have h := servicing_confined hσ hdev (c := 5) (by rw [hlive]; rfl) hs
  exact ⟨σ, σ', hlive, h.1 6 (by rw [hlive]; decide) (by decide)⟩

end TapCfg.Daemon
