/-
  Daemon/Stopping.lean --- how often reader_thread reads after tapserver_stop.

  Source: src/daemon/tapserver.c, lines 171-207 (reader_thread) and 362-380
  (tapserver_stop).

  The inner loop of `reader_thread` goes round as long as the device is readable,
  and does not look at `running`; only when the device has been silent for a
  while, or a read has failed, does the thread get to its check.  So it may read
  any number of frames after a stop (`reads_continue`), and one at most when it
  finds the device silent after the first (`reads_at_most_once`).  The loop of
  `writer_thread` looks at `running` in every round.

  `Step` says of the inner loop only where it goes.  `Poll` is what it comes
  upon there, and `Counted` adds the number of its reads to the system.
-/
import TapCfg.Daemon.Exits

set_option autoImplicit false

namespace TapCfg.Daemon

open TapCfg.Foundation

/-! ## The inner loop -/

/-- What the inner loop of `reader_thread` comes upon. -/
inductive Poll where
  /-- `tapcfg_wait_readable` returns 0 -/
  | silent
  /-- the device is readable, and `tapcfg_read` gives nothing -/
  | failed
  /-- the device is readable, and `tapcfg_read` gives a frame -/
  | frame (f : Frame)

/-- The device is readable, so that `tapcfg_read` is called. -/
def Poll.readable : Poll → Bool
  | .silent => false
  | .failed => true
  | .frame _ => true

/-- One turn of the inner loop, up to the table mutex. -/
inductive Polls (σ : Sys) : Poll → Sys → Prop where
  | silent (hr : σ.reader = .wait) : Polls σ .silent { σ with reader := .check }
  | failed (hr : σ.reader = .wait) : Polls σ .failed { σ with reader := .check }
  | frame {f : Frame} (hr : σ.reader = .wait) (hf : Legal bufSize f) :
      Polls σ (.frame f) { σ with reader := .got f, reads := σ.reads ++ [f] }

/-- A step of the system, with what the inner loop has come upon when it is a turn of that. -/
inductive PollStep (L : Allows) (σ : Sys) : Option Poll → Sys → Prop where
  | poll {p : Poll} {σ' : Sys} (h : Polls σ p σ') : PollStep L σ (some p) σ'
  | other {σ' : Sys} (hs : Step L σ σ') (hkeep : σ.reader = .wait → σ'.reader = .wait) :
      PollStep L σ none σ'

section

variable {L : Allows} {σ σ' : Sys} {p : Poll}

theorem Polls.step (h : Polls σ p σ') : Step L σ σ' := by
  cases h with
  | silent hr => exact .outside (.readNothing hr)
  | failed hr => exact .outside (.readNothing hr)
  | frame hr hf => exact .outside (.readFrame hr hf)

theorem Polls.server (h : Polls σ p σ') : σ'.server = σ.server := by cases h <;> rfl

theorem PollStep.step {p : Option Poll} (h : PollStep L σ p σ') : Step L σ σ' := by
  cases h with
  | poll h => exact h.step
  | other hs _ => exact hs

/-- Only a turn of the inner loop leaves the place before it. -/
theorem Step.polls (hs : Step L σ σ') : ∃ p, PollStep L σ p σ' := by
  by_cases hkeep : σ.reader = .wait → σ'.reader = .wait
  · exact ⟨none, .other hs hkeep⟩
  obtain ⟨hr, hleft⟩ := Classical.not_imp.mp hkeep
  cases hs with
  | outside h =>
      cases h with
      | readNothing _ => exact ⟨_, .poll (.silent hr)⟩
      | readFrame _ hf => exact ⟨_, .poll (.frame hr hf)⟩
      | startListening hr' | startQuiet hr' | readerCheck hr' | join _ hr' =>
          rw [hr] at hr'
          cases hr'
      | _ => exact (hleft hr).elim
  | locked _ h => cases h <;> exact (hleft hr).elim
  | readerLock _ _ hr' | readerRun hr' | readerUnlock hr' =>
      rw [hr] at hr'
      cases hr'
  | _ => exact (hleft hr).elim

end

/-! ## The reads since the stop -/

/-- A server, and how often `tapcfg_read` has been called since `tapserver_stop`. -/
structure Counted where
  sys : Sys
  calls : Nat

/-- The count after a step: it begins with the stop, which sets `joined`. -/
def Counted.after (s : Counted) (p : Option Poll) (σ' : Sys) : Counted where
  sys := σ'
  calls := if σ'.server.joined then s.calls + (if p.any Poll.readable then 1 else 0) else 0

/-- A step of the system, counted. -/
inductive CountStep (L : Allows) (s : Counted) (p : Option Poll) : Counted → Prop where
  | intro {σ' : Sys} (h : PollStep L s.sys p σ') : CountStep L s p (s.after p σ')

/-- The runs whose steps all meet a condition. -/
abbrev CountRun (L : Allows) (tapcfg : Bool) (cond : Counted → Option Poll → Prop) :
    Counted → Prop :=
  Runs (· = ⟨Sys.init tapcfg, 0⟩) fun s s' => ∃ p, CountStep L s p s' ∧ cond s p

/-- Once the thread has read after the stop, it finds the device silent. -/
def FallsSilent (s : Counted) (p : Option Poll) : Prop :=
  1 ≤ s.calls → p.any Poll.readable = false

/-- `tapcfg_read` is called once at most after the stop, and at its check the thread returns. -/
structure Stops (L : Allows) (s : Counted) : Prop where
  once : s.calls ≤ 1
  leaves : s.sys.server.joined = true → s.sys.reader = .check →
    ∀ σ', Step L s.sys σ' → σ'.reader = .check ∨ σ'.reader = .done

section

variable {L : Allows} {tapcfg : Bool} {cond : Counted → Option Poll → Prop} {s s' : Counted}
  {σ σ' : Sys} {p : Option Poll}

/-- Leaving the count away gives the runs of the system. -/
theorem CountRun.reachable (h : CountRun L tapcfg cond s) : Reachable L s.sys := by
  induction h with
  | start h =>
      rw [h]
      exact .init tapcfg
  | next _ hs ih =>
      obtain ⟨p, ⟨hpoll⟩, -⟩ := hs
      exact ih.step hpoll.step

/-- Every run of the system has a count. -/
theorem Reachable.counted (h : Reachable L σ) :
    ∃ tapcfg s, CountRun L tapcfg (fun _ _ => True) s ∧ s.sys = σ := by
  induction h with
  | init tapcfg => exact ⟨tapcfg, _, .start rfl, rfl⟩
  | step _ hs ih =>
      obtain ⟨tapcfg, s, hrun, rfl⟩ := ih
      obtain ⟨p, hpoll⟩ := hs.polls
      exact ⟨tapcfg, _, hrun.next ⟨p, ⟨hpoll⟩, trivial⟩, rfl⟩

/-- From the stop to the next start `running` is 0; before it nothing is counted. -/
structure Stopped (s : Counted) : Prop where
  cleared : s.sys.server.joined = true → s.sys.server.running = false
  uncounted : s.sys.server.joined = false → s.calls = 0

theorem Step.joined (hs : Step L σ σ')
    (h : σ.server.joined = true → σ.server.running = false) :
    σ'.server.joined = true → σ'.server.running = false := by
  cases hs with
  | outside h' =>
      cases h' with
      | startListening | startQuiet => exact fun hj => (by cases hj)
      | stop => exact fun _ => rfl
      | _ => exact h
  | locked _ h' => cases h' <;> exact h
  | writerClear => exact fun _ => rfl
  | _ => exact h

theorem CountStep.stopped (h : CountStep L s p s') (hs : Stopped s) : Stopped s' := by
  obtain ⟨hpoll⟩ := h
  exact ⟨hpoll.step.joined hs.cleared, fun hj => if_neg (Bool.eq_false_iff.mp hj)⟩

theorem CountRun.stopped (h : CountRun L tapcfg cond s) : Stopped s := by
  refine Runs.invariant (I := Stopped) ?_ ?_ h
  · rintro s rfl
    exact ⟨fun hj => (by cases hj), fun _ => rfl⟩
  · rintro s s' hs ⟨p, hstep, -⟩
    exact hstep.stopped hs

theorem Stopped.leaves (h : Stopped s) (hj : s.sys.server.joined = true)
    (hc : s.sys.reader = .check) :
    ∀ σ', Step L s.sys σ' → σ'.reader = .check ∨ σ'.reader = .done :=
  fun _ hs => hs.check hc (h.cleared hj)

/-- One more step: the count stays within one just when the device is silent after the first
read. -/
theorem CountStep.once_iff (h : CountStep L s p s') (hs : Stopped s) (hle : s.calls ≤ 1) :
    s'.calls ≤ 1 ↔ FallsSilent s p := by
  obtain @⟨σ', hpoll⟩ := h
  cases hpoll with
  | other hstep hkeep =>
      refine iff_of_true ?_ fun _ => rfl
      show (if σ'.server.joined = true then s.calls + 0 else 0) ≤ 1
      split
      · exact hle
      · exact Nat.zero_le 1
  | @poll p _ hp =>
      have hserver := hp.server
      show (if σ'.server.joined = true then s.calls + (if p.readable = true then 1 else 0)
        else 0) ≤ 1 ↔ (1 ≤ s.calls → p.readable = false)
      rw [hserver]
      cases hj : s.sys.server.joined with
      | false => simp [hs.uncounted hj]
      | true =>
          cases hread : p.readable with
          | false => simpa using hle
          | true =>
              simp

/-- In every run in which the device is silent after the first read since the stop, that
read is the last; a further step keeps this exactly when the device is silent there. -/
theorem reads_at_most_once (h : CountRun L tapcfg FallsSilent s) :
    Stops L s ∧ ∀ p s', CountStep L s p s' → (Stops L s' ↔ FallsSilent s p) := by
  have honce : s.calls ≤ 1 := by
    induction h with
    | start h =>
        rw [h]
        exact Nat.zero_le 1
    | next h hs ih =>
        obtain ⟨p, hstep, hsilent⟩ := hs
        exact (hstep.once_iff (CountRun.stopped h) ih).mpr hsilent
  have hstopped := CountRun.stopped h
  refine ⟨⟨honce, hstopped.leaves⟩, fun p s' hstep => ?_⟩
  have hiff := hstep.once_iff hstopped honce
  constructor
  · intro hstops
    exact hiff.mp hstops.once
  · intro hsilent
    exact ⟨hiff.mpr hsilent, (hstep.stopped hstopped).leaves⟩

/-! ## A device that is never silent -/

/-- A stopped server without clients whose reader is in the inner loop. -/
structure Draining (s : Counted) : Prop where
  reader : s.sys.reader = .wait
  writer : s.sys.writer = .top
  joined : s.sys.server.joined = true
  clients : s.sys.server.table.clients = 0

/-- A step after the stop that is no turn of the inner loop. -/
theorem CountRun.other (h : CountRun L tapcfg cond s) (hcond : ∀ s, cond s none)
    (hs : Step L s.sys σ') (hkeep : s.sys.reader = .wait → σ'.reader = .wait)
    (hj : σ'.server.joined = true) : CountRun L tapcfg cond ⟨σ', s.calls⟩ := by
  have hnext : CountRun L tapcfg cond (s.after none σ') :=
    h.next ⟨none, ⟨.other hs hkeep⟩, hcond s⟩
  have hafter : s.after none σ' = ⟨σ', s.calls⟩ := by simp [Counted.after, hj]
  rwa [hafter] at hnext

theorem broadcast_nobody {w : World} {f : Frame} (h : w.table.clients = 0) :
    Prog.Step (osEnv L) (broadcast 1 f, w) (.ret (), w) := by
  have hstep : Prog.Step (osEnv L) (broadcast 1 f, w)
      (if ((0 : Nat) : Int) < w.table.clients then _ else .ret (), w) := .atomic rfl
  rwa [if_neg (by simp [h])] at hstep

/-- One more frame is read, and relayed to nobody. -/
theorem CountRun.again (h : CountRun L tapcfg cond s) (hcond : ∀ s, cond s none)
    (hd : Draining s) {f : Frame} (hf : Legal bufSize f) (hframe : cond s (some (.frame f))) :
    ∃ s', CountRun L tapcfg cond s' ∧ Draining s' ∧ s'.calls = s.calls + 1 := by
  have hwriter : ¬ s.sys.WriterInside := by simp [Sys.WriterInside, hd.writer]
  have hread : CountRun L tapcfg cond
      ⟨{ s.sys with reader := .got f, reads := s.sys.reads ++ [f] }, s.calls + 1⟩ := by
    have hnext := Runs.next h ⟨_, CountStep.intro (.poll (.frame hd.reader hf)), hframe⟩
    simpa [Counted.after, hd.joined, Poll.readable] using hnext
  have hlock := hread.other hcond (.readerLock 1 ⟨by simp [Sys.ReaderInside], hwriter⟩ rfl)
    (by simp) hd.joined
  have hrun := hlock.other hcond (.readerRun rfl (broadcast_nobody hd.clients)) (by simp) hd.joined
  have hunlock := hrun.other hcond (.readerUnlock rfl) (by simp) hd.joined
  exact ⟨_, hunlock, ⟨rfl, hd.writer, hd.joined, hd.clients⟩, rfl⟩

/-- A server is started and stopped before its reader has read anything. -/
theorem stoppedEarly (hcond : ∀ s, cond s none) :
    ∃ s, CountRun L true cond s ∧ Draining s ∧ s.calls = 0 := by
  have hinit : CountRun L true cond ⟨Sys.init true, 0⟩ := .start rfl
  have hstart := hinit.next
    ⟨none, .intro (.other (.outside (.startQuiet rfl rfl rfl)) (by simp [Sys.init])), hcond _⟩
  have hstop := Runs.next hstart
    ⟨none,
      .intro (.other (.outside (.stop (by simp [Counted.after, Sys.init, tapserverInit]) rfl)) id),
      hcond _⟩
  exact ⟨_, hstop, ⟨rfl, rfl, rfl, rfl⟩, rfl⟩

end

/-- The first frame after the stop. -/
theorem reads_at_most_once_first : ∃ s, s.calls = 1 ∧ s.sys.server.joined = true ∧
    s.sys.reader = .wait ∧ Stops anyAnswer s := by
  have hcond : ∀ s, FallsSilent s none := fun _ _ => rfl
  obtain ⟨s₀, hrun₀, hd₀, hcalls₀⟩ := stoppedEarly (L := anyAnswer) hcond
  obtain ⟨s, hrun, hd, hcalls⟩ := hrun₀.again hcond hd₀ (show Legal bufSize [9] by decide)
    fun hle => by omega
  exact ⟨s, by omega, hd.joined, hd.reader, (reads_at_most_once hrun).1⟩

/-- Frames go on arriving: the reader of a stopped server goes on reading them. -/
theorem reads_continue : (∀ n, ∃ s, CountRun anyAnswer true (fun _ _ => True) s ∧
      s.sys.server.joined = true ∧ s.sys.server.running = false ∧ s.sys.reader = .wait ∧
      s.calls = n) ∧
    ∃ s, CountRun anyAnswer true (fun _ _ => True) s ∧ ¬ Stops anyAnswer s := by
  have hdrains : ∀ n, ∃ s, CountRun anyAnswer true (fun _ _ => True) s ∧ Draining s ∧
      s.calls = n := by
    intro n
    induction n with
    | zero => exact stoppedEarly fun _ => trivial
    | succ n ih =>
        obtain ⟨s, hrun, hd, rfl⟩ := ih
        exact hrun.again (fun _ => trivial) hd (show Legal bufSize [9] by decide) trivial
  constructor
  · intro n
    obtain ⟨s, hrun, hd, hcalls⟩ := hdrains n
    exact ⟨s, hrun, hd.joined, hrun.stopped.cleared hd.joined, hd.reader, hcalls⟩
  · obtain ⟨s, hrun, -, hcalls⟩ := hdrains 2
    refine ⟨s, hrun, fun hstops => ?_⟩
    have honce := hstops.once
    omega

end TapCfg.Daemon
