/-
  Unix/Sessions.lean --- reading across starts and stops on Unix.

  Source: src/lib/tapcfg_unix.c, lines 94-233.

  A start and a stop act on the fields of `Tapcfg` and never on `buffer` and
  `buflen`: a frame that is held when a device is stopped is still held when the
  next one is started.
-/
import TapCfg.Unix.Reading

set_option autoImplicit false

namespace TapCfg.Unix

open TapCfg.Foundation
open Prog hiding ret

/-- The object as `tapcfg_init` leaves it. -/
structure Reader.Initial (s : Reader) : Prop where
  cfg : s.cfg = tapcfgInit
  buffer : s.buffer = List.replicate tapcfgBufsize 0
  buflen : s.buflen = 0
  hist : s.hist = []
  log : s.log = []

/-- The world of the backend. -/
def Reader.world (s : Reader) : World := ⟨s.cfg, s.hist⟩

/-- What a start or a stop leaves of the object. -/
def Reader.withWorld (s : Reader) (w : World) : Reader := { s with cfg := w.cfg, hist := w.hist }

/-- A device is opened, and may have something ready. -/
def Reader.opened (s : Reader) (ready : List Outcome) : Reader :=
  { s with device := s.cfg.tapFd, ready := ready, log := s.log ++ [.opened] }

/-- One call of `tapcfg_start`, `tapcfg_stop`, `tapcfg_wait_readable` or `tapcfg_read`,
or something that becomes ready. -/
inductive SessionStep (b : Backend) : Reader → Reader → Prop where
  | reading {s s' : Reader} {a : ReadAct} {r : Int} (h : ReadStep s a r s') : SessionStep b s s'
  | start {s : Reader} {w' : World} {ifname : Option CStr} {fallback : Bool} {r : Int}
      (hr : Reaches (osEnv anyAnswer) (tapcfgStart b ifname fallback, s.world) (.ret r, w'))
      (hnot : w'.cfg.started = false ∨ s.cfg.started = true) : SessionStep b s (s.withWorld w')
  | startOpened {s : Reader} {w' : World} {ifname : Option CStr} {fallback : Bool} {r : Int}
      (hr : Reaches (osEnv anyAnswer) (tapcfgStart b ifname fallback, s.world) (.ret r, w'))
      (hidle : s.cfg.started = false) (hup : w'.cfg.started = true) (ready : List Outcome) :
      SessionStep b s ((s.withWorld w').opened ready)
  | stop {s : Reader} {w' : World}
      (hr : Reaches (osEnv anyAnswer) (tapcfgStop b, s.world) (.ret (), w')) :
      SessionStep b s (s.withWorld w')

/-- No device is opened while the library holds a frame. -/
def OpenedEmpty (s s' : Reader) : Prop :=
  s.cfg.started = false ∧ s'.cfg.started = true → s.buflen = 0

section

variable {b : Backend} {s s' : Reader}

/-- A read or a wait, whether or not the device is started. -/
theorem ReadStep.moves {a : ReadAct} {r : Int} (hs : s.InRange) (h : ReadStep s a r s') :
    Same s s' ∧ s'.InRange ∧ ∃ τ, s'.log = s.log ++ τ ∧ (∀ e ∈ τ, e.isOpened = false) ∧
      s.held ++ taken τ = given τ ++ s'.held := by
  cases hstarted : s.cfg.started with
  | true =>
      cases a with
      | wait msec =>
          obtain ⟨hwaits, ready, hlog, -, -⟩ := h.wait_polls hstarted
          refine ⟨hwaits.same, hs.of_eq hwaits.buffer hwaits.buflen, _, hlog, ?_, ?_⟩
          · simp [Move.isOpened]
          · rw [Reader.held_of_eq hwaits.buffer hwaits.buflen]
            simp [taken_cons, given_cons, Move.tookItem, Move.gaveItem]
      | read count user =>
          obtain ⟨hsame, hrange, τ, hlog, hquiet, hends⟩ := h.read_ends hs hstarted
          exact ⟨hsame, hrange, τ, hlog, hquiet.opened, hends.split⟩
      | arrive arrived =>
          cases h
          exact ⟨⟨rfl, rfl, rfl⟩, hs.of_eq rfl rfl, [], by simp, by simp, by simp [Reader.held]⟩
  | false =>
      cases a with
      | wait msec =>
          obtain ⟨-, rfl⟩ := h.wait_idle hstarted
          exact ⟨.refl _, hs, [], by simp, by simp, by simp⟩
      | read count user =>
          obtain ⟨-, rfl⟩ := h.read_idle hstarted
          exact ⟨⟨rfl, rfl, rfl⟩, hs.of_eq rfl rfl, [], by simp, by simp, by simp [Reader.held]⟩
      | arrive arrived =>
          cases h
          exact ⟨⟨rfl, rfl, rfl⟩, hs.of_eq rfl rfl, [], by simp, by simp, by simp [Reader.held]⟩

/-- What holds between two calls, when no device is opened while a frame is held. -/
structure Tidy (s : Reader) : Prop where
  range : s.InRange
  accounts : Accounts [] s.held (session s.log)

theorem Reader.Initial.tidy (hs : s.Initial) : Tidy s := by
  refine ⟨⟨?_, ?_, ?_⟩, ?_⟩
  · rw [hs.buffer]
    exact List.length_replicate
  · exact Int.le_of_eq hs.buflen.symm
  · rw [hs.buflen]
    exact Int.natCast_nonneg _
  · have hnone : s.held = [] := if_pos hs.buflen
    rw [hs.log, hnone]
    exact .start []

theorem Tidy.step (hs : Tidy s) (h : SessionStep b s s') (hcond : OpenedEmpty s s') : Tidy s' := by
  cases h with
  | reading h =>
      obtain ⟨-, hrange, τ, hlog, hquiet, hsplit⟩ := h.moves hs.range
      refine ⟨hrange, ?_⟩
      rw [hlog, session_append _ hquiet]
      exact hs.accounts.append hsplit
  | start hr hnot => exact ⟨hs.range.of_eq rfl rfl, hs.accounts⟩
  | startOpened hr hidle hup ready =>
      rename_i w' _ _ _
      have hempty : s.buflen = 0 := hcond ⟨hidle, hup⟩
      have hnone : ((s.withWorld w').opened ready).held = [] := if_pos hempty
      refine ⟨hs.range.of_eq rfl rfl, ?_⟩
      show Accounts [] _ (session (s.log ++ [.opened]))
      rw [session_opened, hnone]
      exact .start []
  | stop hr => exact ⟨hs.range.of_eq rfl rfl, hs.accounts⟩

/-- In every run in which no device is opened while a frame is held, the frames handed
on are of the device that was opened last. -/
theorem Tidy.runs (h : Runs Reader.Initial (Provided (SessionStep b) OpenedEmpty) s) : Tidy s :=
  h.invariant (fun _ hs => hs.tidy) fun _ _ hs hstep => hs.step hstep.1 hstep.2

/-! ## Waiting before reading -/

theorem SessionStep.inRange (hs : s.InRange) (h : SessionStep b s s') : s'.InRange := by
  cases h with
  | reading h => exact (h.moves hs).2.1
  | start hr hnot => exact hs.of_eq rfl rfl
  | startOpened hr hidle hup ready => exact hs.of_eq rfl rfl
  | stop hr => exact hs.of_eq rfl rfl

/-- The buffer is in range in every reachable state. -/
theorem SessionStep.runs_inRange (h : Runs Reader.Initial (SessionStep b) s) : s.InRange :=
  h.invariant (fun _ hs => hs.tidy.range) fun _ _ hs hstep => hstep.inRange hs

/-- The next read does not wait for the device, whatever arrives before it is made. -/
def NextReadReady (s : Reader) : Prop :=
  ∀ (arrived : List Outcome) (count r : Int) (user : List Byte) (s' : Reader),
    ReadStep { s with ready := s.ready ++ arrived } (.read count user) r s' →
    ∃ τ, s'.log = s.log ++ τ ∧ .blocked ∉ τ

/-- What `tapcfg_wait_readable` promises: a frame that is held is reported, and what is
reported can be read without waiting. -/
def WaitAgrees (s : Reader) (r : Int) (s' : Reader) : Prop :=
  (s.held ≠ [] → r ≠ 0) ∧ (r ≠ 0 → NextReadReady s')

theorem nextReadReady (hs : s.InRange) (hstarted : s.cfg.started = true) (hready : s.ready ≠ []) :
    NextReadReady s := by
  intro arrived count r user s' hread
  have hrange : Reader.InRange { s with ready := s.ready ++ arrived } := hs.of_eq rfl rfl
  obtain ⟨-, -, τ, hlog, hmoves, -⟩ := hread.read_ends hrange hstarted
  exact ⟨τ, hlog, hmoves.blocked (.inl (by simp [hready]))⟩

/-- The promise is kept when no frame is held, and else when the device has another one. -/
theorem waitAgrees_iff {msec r : Int} (hs : s.InRange) (hstarted : s.cfg.started = true)
    (h : ReadStep s (.wait msec) r s') :
    WaitAgrees s r s' ↔ s.buflen = 0 ∨ s'.log = s.log ++ [.polled true] := by
  obtain ⟨hwaits, ready, hlog, hr, hready⟩ := h.wait_polls hstarted
  have hstarted' : s'.cfg.started = true := by rw [hwaits.same.cfg]; exact hstarted
  have hnext : r ≠ 0 → NextReadReady s' := by
    intro hne
    cases ready with
    | true =>
        exact nextReadReady (hs.of_eq hwaits.buffer hwaits.buflen) hstarted' (hready rfl).2
    | false => exact absurd hr hne
  constructor
  · rintro ⟨hheld, -⟩
    by_cases hlen : s.buflen = 0
    · exact .inl hlen
    · have hsome : s.held ≠ [] := by
        rw [(hs.holding hlen).held]
        exact List.cons_ne_nil _ _
      cases ready with
      | true => exact .inr hlog
      | false => exact absurd hr (hheld hsome)
  · rintro (hlen | hpolled)
    · exact ⟨fun hsome => absurd (if_pos hlen) hsome, hnext⟩
    · have heq : [Move.polled ready] = [.polled true] :=
        List.append_cancel_left (hlog.symm.trans hpolled)
      cases heq
      exact ⟨fun _ => by rw [hr]; decide, hnext⟩

/-- `select` times out. -/
def timingOut : Responder Reader ReadCall ReadCall.Ans := fun s c =>
  match c with
  | .read fd n => servingRead s fd n
  | .select _ _ _ => ({ ret := 0, isset := false }, { s with log := s.log ++ [.polled false] })

theorem timingOut_follows : Follows timingOut deviceEnv := by
  intro s c
  cases c with
  | read fd n => exact servingRead_reads s fd n
  | select fd sec usec =>
      have hselects : DeviceSelects s fd { ret := 0, isset := false }
          { s with ready := s.ready ++ [], log := s.log ++ [.polled false] } :=
        .intro [] fun h => by cases h
      rw [List.append_nil] at hselects
      exact hselects

/-- A wait may time out. -/
theorem wait_timesOut (msec : Int) (hstarted : s.cfg.started = true) :
    ReadStep s (.wait msec) 0 { s with log := s.log ++ [.polled false] } := by
  refine .wait (reaches_run timingOut_follows ?_)
  simp [tapcfgWaitReadable, select, timingOut, Prog.run, Prog.bind, Prog.load, hstarted]

/-- The promise is kept in every call just when no frame is held. -/
theorem waitAgrees_all_iff (msec : Int) (hs : s.InRange) (hstarted : s.cfg.started = true) :
    (∀ r s', ReadStep s (.wait msec) r s' → WaitAgrees s r s') ↔ s.buflen = 0 := by
  refine ⟨fun hall => ?_, fun hlen r s' h => (waitAgrees_iff hs hstarted h).mpr (.inl hlen)⟩
  have hwait := wait_timesOut msec hstarted
  refine ((waitAgrees_iff hs hstarted hwait).mp (hall _ _ hwait)).resolve_right fun hlog => ?_
  cases List.append_cancel_left hlog

end

/-! ## A frame of an earlier session -/

/-- A new object. -/
def initialReader : Reader where
  cfg := tapcfgInit
  buffer := List.replicate tapcfgBufsize 0
  buflen := 0
  hist := []
  user := []
  device := -1
  ready := []
  log := []

theorem initialReader_initial : initialReader.Initial := ⟨rfl, rfl, rfl, rfl, rfl⟩

/-- The world after a start on Linux. -/
def startedOn (w : World) : World :=
  ((tapcfgStart .linux none false).run (granting fun _ => false) w).2

/-- A device is opened that has some frames ready. -/
def reopened (ready : List Outcome) (s : Reader) : Reader :=
  (s.withWorld (startedOn s.world)).opened ready

/-- A device is closed. -/
def closed (s : Reader) : Reader := s.withWorld (afterStop .linux (fun _ => false) s.world)

theorem reopened_step {s : Reader} {ready : List Outcome}
    (hrun : ((tapcfgStart .linux none false).run (granting fun _ => false) s.world).1 = .ok 0)
    (hidle : s.cfg.started = false) (hup : (startedOn s.world).cfg.started = true) :
    SessionStep .linux s (reopened ready s) := by
  have hf : Follows (granting fun _ => false) (osEnv anyAnswer) :=
    granting_follows fun _ _ => trivial
  exact .startOpened (reaches_run hf (Prod.ext hrun rfl)) hidle hup ready

theorem closed_step {s : Reader}
    (hrun : ((tapcfgStop .linux).run (granting fun _ => false) s.world).1 = .ok ()) :
    SessionStep .linux s (closed s) := by
  have hf : Follows (granting fun _ => false) (osEnv anyAnswer) :=
    granting_follows fun _ _ => trivial
  exact .stop (reaches_run hf (Prod.ext hrun rfl))

/-- The device has a frame of three bytes. -/
def firstReader : Reader := reopened [some [1, 2, 3]] initialReader

/-- A read without room for it. -/
def heldReader : Reader := afterRead 2 [0, 0] (-1) firstReader

/-- The second device, which has nothing ready. -/
def secondReader : Reader := reopened [] (closed heldReader)

/-- A read from the second device. -/
def staleReader : Reader := afterRead 4 [0, 0, 0, 0] 3 secondReader

theorem firstReader_step : SessionStep .linux initialReader firstReader :=
  reopened_step (by decide +kernel) rfl (by decide +kernel)

theorem heldReader_step : ReadStep firstReader (.read 2 [0, 0]) (-1) heldReader :=
  afterRead_step (by decide) (by decide +kernel)

theorem staleReader_runs : Runs Reader.Initial (SessionStep .linux) staleReader := by
  have h₀ : Runs Reader.Initial (SessionStep .linux) initialReader := .start initialReader_initial
  have h₁ := (h₀.next firstReader_step).next (.reading heldReader_step)
  have h₂ := h₁.next (closed_step (by decide +kernel))
  have h₃ : Runs Reader.Initial (SessionStep .linux) secondReader :=
    h₂.next (reopened_step (by decide +kernel) (by decide +kernel) (by decide +kernel))
  have hread : ReadStep secondReader (.read 4 [0, 0, 0, 0]) 3 staleReader :=
    afterRead_step (by decide) (by decide +kernel)
  exact h₃.next (.reading hread)

/-- The second device has delivered nothing. -/
theorem staleReader_stale : ¬ Current staleReader.log :=
  not_current (by decide +kernel) (by decide +kernel)

end TapCfg.Unix
