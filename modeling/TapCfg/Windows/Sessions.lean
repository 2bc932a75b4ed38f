/-
  Windows/Sessions.lean --- reading within a session and across starts and
  stops on Windows.

  Source: src/lib/tapcfg_windows.c, lines 100-346.

  A start and a stop do not write `reading`, `inbuf` and `inbuflen`: a request
  that is pending when a device is stopped is still awaited, and a frame that is
  held still handed on, after the next start.

      asking_disciplined   one session, any requests and any timeouts
      Tidy                 no device is opened with a request or a frame left
      waitAgrees_iff       what a wait promises of the read after it
-/
import TapCfg.Windows.Holding

set_option autoImplicit false

namespace TapCfg.Windows

open TapCfg.Foundation
open Prog hiding ret

/-! ## Steps -/

/-- A call of a reading function, by a caller with memory `user` from `buf` on, or time
that passes. -/
inductive ReadAct where
  | wait (msec : Int)
  | read (count : Int) (user : List Byte)
  | lapse

/-- One of these, with what it returns. -/
inductive ReadStep : World → ReadAct → Int → World → Prop where
  | wait {w w' : World} {msec r : Int}
      (hr : Reaches osEnv (tapcfgWaitReadable msec, w) (.ret r, w')) :
      ReadStep w (.wait msec) r w'
  | read {w w' : World} {count r : Int} {user : List Byte}
      (hr : Reaches osEnv (tapcfgRead count, { w with user := user }) (.ret r, w')) :
      ReadStep w (.read count user) r { w' with log := w'.log ++ handedMoves r w'.user }
  | lapse {w w' : World} (h : Lapses w w') : ReadStep w .lapse 0 w'

/-- Some of these. -/
def ReadSteps (w w' : World) : Prop := ∃ a r, ReadStep w a r w'

/-- The object as `tapcfg_init` leaves it. -/
structure World.Initial (w : World) : Prop where
  cfg : w.cfg = tapcfgInit
  signaled : w.overlapped.signaled = false
  hist : w.hist = []
  log : w.log = []

/-- A device is opened. -/
def World.opened (w : World) : World := { w with log := w.log ++ [.opened] }

/-- One call of `tapcfg_start`, `tapcfg_stop`, `tapcfg_wait_readable` or `tapcfg_read`, or
time that passes; and whether it opens a device. -/
inductive SessionStep : World → Bool → World → Prop where
  | reading {w w' : World} {a : ReadAct} {r : Int} (h : ReadStep w a r w') :
      SessionStep w false w'
  | start {w w' : World} {ifname : Option CStr} {fallback : Bool} {r : Int}
      (hr : Reaches osEnv (tapcfgStart ifname fallback, w) (.ret r, w')) (hfailed : r ≠ 0) :
      SessionStep w false w'
  | startOpened {w w' : World} {ifname : Option CStr} {fallback : Bool}
      (hr : Reaches osEnv (tapcfgStart ifname fallback, w) (.ret 0, w')) :
      SessionStep w true w'.opened
  | stop {w w' : World} (hr : Reaches osEnv (tapcfgStop, w) (.ret (), w')) :
      SessionStep w false w'

/-- Some step. -/
def SessionSteps (w w' : World) : Prop := ∃ opened, SessionStep w opened w'

/-- No frame is held, and no request is pending. -/
structure Unused (w : World) : Prop where
  empty : w.cfg.inbuflen = 0
  reading : w.cfg.reading = false

/-- Some step, which opens no device while a frame is held or a request pending. -/
def TidySteps (w w' : World) : Prop :=
  ∃ opened, SessionStep w opened w' ∧ (opened = true → Unused w)

/-! ## What one step does -/

/-- The moves of a step of reading. -/
structure Moved (w : World) (τ : List (Move Byte)) (w' : World) : Prop where
  started : w'.cfg.started = w.cfg.started
  log : w'.log = w.log ++ τ
  opened : ∀ e ∈ τ, e.isOpened = false
  owned : Owned (w.cfg.reading = true) τ
  reading : w'.cfg.reading = true → w.cfg.reading = true ∨ .asked ∈ τ

section

variable {w w' : World}

theorem Goes.moved {τ : List (Move Byte)} (h : Goes w τ w') : Moved w τ w' :=
  ⟨h.started, h.log, h.opened, h.owned, h.reading⟩

theorem Moved.withUser {τ : List (Move Byte)} (h : Moved w τ w') (user : List Byte) :
    Moved w τ { w' with user := user } := ⟨h.started, h.log, h.opened, h.owned, h.reading⟩

theorem handedMoves_gave {r : Int} {mem : List Byte} {e : Move Byte}
    (he : e ∈ handedMoves r mem) : ∃ item, e = .gave item := by
  unfold handedMoves at he
  split at he
  · exact ⟨_, List.mem_singleton.mp he⟩
  · cases he

/-- The invariant does not depend on the memory of the caller. -/
theorem Inv.withUser (hw : Inv w) (user : List Byte) : Inv { w with user := user } where
  size := hw.size
  le := hw.le
  phase := hw.phase.imp (fun h => ⟨h.reading, h.none⟩)
    fun h => ⟨h.reading, h.empty, h.one, h.signaled, h.result⟩
  accounts := hw.accounts
  disciplined := hw.disciplined

/-- A call of `tapcfg_read` on a started device. -/
theorem ReadStep.read_ends {count r : Int} {user : List Byte} (hw : Inv w)
    (hstarted : w.cfg.started = true) (h : ReadStep w (.read count user) r w') :
    Inv w' ∧ ∃ τ, Moved w τ w' ∧ (w.cfg.inbuflen ≠ 0 → .blocked ∉ τ) ∧
      CallEnds (toDword count) user (w.held ++ taken τ) r w'.user (given τ) w'.held := by
  cases h with
  | read hr =>
      rename_i v
      have hreads : Reads count { w with user := user } r v :=
        ((sat_tapcfgRead count (hw.withUser user) hstarted).reaches hr).2
      obtain ⟨τ, hgoes, handed, hends⟩ := hreads.moves
      have hquiet : ∀ e ∈ handedMoves r v.user, e ≠ .asked ∧ e ≠ .ended := by
        intro e he
        obtain ⟨item, rfl⟩ := handedMoves_gave he
        exact ⟨nofun, nofun⟩
      have hout : outstanding (v.log ++ handedMoves r v.user) = outstanding v.log :=
        outstanding_append _ hquiet
      have hlog : v.log ++ handedMoves r v.user = w.log ++ (τ ++ handedMoves r v.user) := by
        rw [hgoes.log, List.append_assoc]
      have hgiven : given (τ ++ handedMoves r v.user) = handed := by
        rw [given_append, hgoes.given, hends.given_handedMoves]
        rfl
      have htaken : taken (τ ++ handedMoves r v.user) = taken τ := by
        rw [taken_append, taken_handedMoves, List.append_nil]
      refine ⟨⟨hreads.size, hreads.le, ?_, ?_, ?_⟩, τ ++ handedMoves r v.user, ?_, ?_, ?_⟩
      · rcases hreads.phase with hidle | hp
        · exact .inl ⟨hidle.reading, hout.trans hidle.none⟩
        · exact .inr ⟨hp.reading, hp.empty, hout.le.trans hp.one,
            fun h => hout.trans (hp.signaled h),
            fun bs hzero => hp.result bs (hout.symm.trans hzero)⟩
      · show Accounts [] _ (v.log ++ _)
        rw [hlog]
        refine hw.accounts.append ?_
        rw [htaken, hgiven]
        exact hends.split
      · exact hreads.disciplined.append fun h => (hquiet _ h).1 rfl
      · have hgave : ∀ e ∈ handedMoves r v.user, e.isOpened = false ∧ e.isResponse = false := by
          intro e he
          obtain ⟨item, rfl⟩ := handedMoves_gave he
          exact ⟨rfl, rfl⟩
        have hnone : Owned False (handedMoves r v.user) := .of_none fun e he => (hgave e he).2
        refine ⟨hgoes.started, hlog, fun e he => ?_, hgoes.owned.append hnone False.elim, ?_⟩
        · rcases List.mem_append.mp he with he | he
          · exact hgoes.opened e he
          · exact (hgave e he).1
        · exact fun h => (hgoes.reading h).imp_right fun h => List.mem_append_left _ h
      · intro hlen hblocked
        have hnil : τ = [] := List.append_right_eq_self.mp (hgoes.log.symm.trans (hreads.held hlen))
        rw [hnil] at hblocked
        obtain ⟨item, h⟩ := handedMoves_gave hblocked
        cases h
      · rw [htaken, hgiven]
        exact hends

/-- A call of `tapcfg_wait_readable` on a started device. -/
theorem ReadStep.wait_advances {msec r : Int} (hw : Inv w) (hstarted : w.cfg.started = true)
    (h : ReadStep w (.wait msec) r w') : Advances w r w' := by
  cases h with
  | wait hr => exact ((sat_tapcfgWaitReadable msec hw hstarted).reaches hr).2

/-- Calls on a device that is not started. -/
theorem ReadStep.read_idle {count r : Int} {user : List Byte} (hw : Orderly w)
    (hidle : w.cfg.started = false) (h : ReadStep w (.read count user) r w') :
    r = -1 ∧ w' = { w with user := user } := by
  cases h with
  | read hr =>
      have hsat := sat_tapcfgRead_idle (w := { w with user := user }) count hw hidle
      obtain ⟨rfl, rfl⟩ := (hsat.reaches hr).2
      exact ⟨rfl, by simp [handedMoves]⟩

theorem ReadStep.wait_idle {msec r : Int} (hw : Orderly w) (hidle : w.cfg.started = false)
    (h : ReadStep w (.wait msec) r w') : r = 0 ∧ w' = w := by
  cases h with
  | wait hr => exact ((sat_tapcfgWaitReadable_idle msec hw hidle).reaches hr).2

/-- Any step of reading, whether or not the device is started. -/
theorem ReadStep.moves {a : ReadAct} {r : Int} (hw : Inv w) (h : ReadStep w a r w') :
    Inv w' ∧ ∃ τ, Moved w τ w' ∧ w.held ++ taken τ = given τ ++ w'.held := by
  have hlapse : ∀ {v : World}, Lapses w v →
      Inv v ∧ ∃ τ, Moved w τ v ∧ w.held ++ taken τ = given τ ++ v.held := by
    intro v hl
    have hv : Inv v := hw.lapses hl
    obtain ⟨τ, hgoes, -⟩ := (drift_of_lapses hl).goes
    exact ⟨hv, τ, hgoes.moved, hw.split hv hgoes.log⟩
  cases a with
  | lapse =>
      cases h with
      | lapse hl => exact hlapse hl
  | wait msec =>
      cases hstarted : w.cfg.started with
      | true =>
          have hadv := h.wait_advances hw hstarted
          obtain ⟨τ, hgoes, -⟩ := hadv.moves
          exact ⟨hadv.inv, τ, hgoes.moved, hw.split hadv.inv hgoes.log⟩
      | false =>
          obtain ⟨-, rfl⟩ := h.wait_idle hw.disciplined hstarted
          exact hlapse .refl
  | read count user =>
      cases hstarted : w.cfg.started with
      | true =>
          obtain ⟨hw', τ, hmoved, -, hends⟩ := h.read_ends hw hstarted
          exact ⟨hw', τ, hmoved, hends.split⟩
      | false =>
          obtain ⟨-, rfl⟩ := h.read_idle hw.disciplined hstarted
          exact ⟨hw.withUser user, [], (Goes.refl w).moved.withUser user, by simp [World.held]⟩

/-- What a start and a stop leave of the request and the frame. -/
structure Behind (w w' : World) : Prop where
  reading : w'.cfg.reading = w.cfg.reading
  inbuflen : w'.cfg.inbuflen = w.cfg.inbuflen
  log : ∃ n, w'.log = w.log ++ List.replicate n .ended

theorem Behind.refl (w : World) : Behind w w := ⟨rfl, rfl, 0, by simp⟩

theorem Behind.drift {v : World} (h : Behind w v) (hd : Drift v w') : Behind w w' := by
  have hcfg := hd.cfg
  obtain ⟨n, hn⟩ := h.log
  obtain ⟨m, hm⟩ := hd.log
  refine ⟨?_, ?_, n + m, ?_⟩
  · rw [hcfg]
    exact h.reading
  · rw [hcfg]
    exact h.inbuflen
  · rw [hm, hn, List.append_assoc, List.replicate_append_replicate]

theorem sat_behind {α : Type} {p : Io α} (hp : IoUses LeavesRequest DeviceCall p) (hw : Inv w) :
    Sat osEnv (fun v => Inv v ∧ Behind w v) (fun _ v => Inv v ∧ Behind w v) (fun _ _ => True)
      p w := by
  refine sat_of_kept hp (fun f hf v v' hv h => ?_) (fun c hc v a v' hv henv => ?_) ⟨hw, .refl w⟩
  · obtain ⟨hreading, hinbuf, hlen, hover, hlog⟩ := hf v v' h
    obtain ⟨hinv, hbehind⟩ := hv
    have hheld : v'.held = v.held := by
      unfold World.held
      rw [hinbuf, hlen]
    refine ⟨⟨hinbuf ▸ hinv.size, hlen ▸ hinv.le, ?_, ?_, hlog ▸ hinv.disciplined⟩,
      hreading.trans hbehind.reading, hlen.trans hbehind.inbuflen, hlog ▸ hbehind.log⟩
    · rcases hinv.phase with hidle | hp
      · exact .inl ⟨hreading.trans hidle.reading, hlog ▸ hidle.none⟩
      · refine .inr ⟨hreading.trans hp.reading, hlen.trans hp.empty, hlog ▸ hp.one, ?_, ?_⟩
        · rw [hover, hlog]
          exact hp.signaled
        · rw [hover, hlog, hinbuf]
          exact hp.result
    · rw [hheld, hlog]
      exact hinv.accounts
  · obtain ⟨v₁, v₂, hl, -, hacts, hl'⟩ := henv
    have hsame : v₂ = v₁ := by
      cases c with
      | readFile h n => exact hc.elim
      | waitForSingleObject timeout => exact hc.elim
      | getOverlappedResult h => exact hc.elim
      | registry => exact hacts
      | strdup text => exact hacts
      | free ptr => exact hacts
      | createFile path => exact hacts
      | getVersion h => exact hacts
      | getMac h => exact hacts
      | closeHandle h => exact hacts
    subst hsame
    have hbehind := hv.2.drift (drift_of_lapses hl)
    have hcalled : Behind w { v₂ with hist := v₂.hist ++ [⟨c, a⟩] } :=
      ⟨hbehind.reading, hbehind.inbuflen, hbehind.log⟩
    exact ⟨((hv.1.lapses hl).called _).lapses hl', hcalled.drift (drift_of_lapses hl')⟩

/-- A device is opened. -/
theorem Inv.openedInv (hw : Inv w) : Inv w.opened := by
  have hout : outstanding (w.log ++ [.opened]) = outstanding w.log :=
    outstanding_append _ (by simp)
  refine ⟨hw.size, hw.le, ?_, ?_, hw.disciplined.append (by simp)⟩
  · rcases hw.phase with hidle | hp
    · exact .inl ⟨hidle.reading, hout.trans hidle.none⟩
    · exact .inr ⟨hp.reading, hp.empty, hout.le.trans hp.one, fun h => hout.trans (hp.signaled h),
        fun bs hzero => hp.result bs (hout.symm.trans hzero)⟩
  · exact hw.accounts.append (List.append_nil w.held)

theorem World.Initial.inv (hw : w.Initial) : Inv w := by
  refine ⟨?_, ?_, .inl ⟨?_, ?_⟩, ?_, ?_⟩
  · rw [hw.cfg]
    exact List.length_replicate
  · rw [hw.cfg]
    exact Nat.zero_le _
  · rw [hw.cfg]
    rfl
  · rw [hw.log]
    rfl
  · have hnone : w.held = [] := if_pos (by rw [hw.cfg]; rfl)
    rw [hw.log, hnone]
    exact .start []
  · rw [hw.log]
    trivial

theorem SessionStep.inv {opened : Bool} (hw : Inv w) (h : SessionStep w opened w') : Inv w' := by
  cases h with
  | reading h => exact (h.moves hw).1
  | start hr hfailed => exact ((sat_behind (uses_tapcfgStart _ _) hw).reaches hr).1.1
  | startOpened hr => exact ((sat_behind (uses_tapcfgStart _ _) hw).reaches hr).1.1.openedInv
  | stop hr => exact ((sat_behind uses_tapcfgStop hw).reaches hr).1.1

/-- The invariant holds in every reachable state. -/
theorem inv_of_runs (h : Runs World.Initial SessionSteps w) : Inv w :=
  h.invariant (fun _ hw => hw.inv) fun _ _ hw ⟨_, hs⟩ => hs.inv hw

/-! ## One session -/

theorem toDword_count {count : Int} (hnonneg : 0 ≤ count) (hint : count ≤ 0x7fffffff) :
    (toDword count : Int) = count := by
  unfold toDword
  omega

theorem held_length (w : World) : w.held.length ≤ 1 := by
  unfold World.held
  split
  · exact Nat.zero_le 1
  · exact Nat.le_refl 1

/-- What holds in a session that began in `w₀`. -/
structure InSession (w₀ w : World) : Prop where
  inv : Inv w
  started : w.cfg.started = true
  moves : ∃ τ, w.log = w₀.log ++ τ ∧ w₀.held ++ taken τ = given τ ++ w.held

theorem InSession.step {w₀ : World} {a : ReadAct} {r : Int} (hw : InSession w₀ w)
    (h : ReadStep w a r w') : InSession w₀ w' := by
  obtain ⟨hinv, τ', hmoved, hsplit'⟩ := h.moves hw.inv
  obtain ⟨τ, hlog, hsplit⟩ := hw.moves
  refine ⟨hinv, hmoved.started.trans hw.started, τ ++ τ', ?_, ?_⟩
  · rw [hmoved.log, hlog, List.append_assoc]
  · rw [taken_append, given_append, ← List.append_assoc, hsplit, List.append_assoc, hsplit',
      List.append_assoc]

/-- What holds at every moment of a program that is orderly. -/
theorem orderly_reaches {α : Type} {p p' : Io α} {Q : α → World → Prop} {F : Fault → World → Prop}
    (hsat : Sat osEnv Orderly Q F p w) (hr : Reaches osEnv (p, w) (p', w')) :
    Disciplined [] w'.log ∧ outstanding w'.log ≤ 1 :=
  ⟨(hsat.reaches hr).holds, (hsat.reaches hr).holds.outstanding_le_one⟩

/-- In a session of reads and waits, from any reachable state: a read is asked for only
when none is outstanding and all frames taken over have been handed on, between the calls
and at every moment of them; and the frames handed on are, in order, the one the session
began with, if there was one, and then those taken over, but for the last one, which is then
held.  A call of `tapcfg_read` leaves the memory of its caller alone unless it hands a frame
over, and then it writes just that frame. -/
theorem asking_disciplined {w₀ : World} (h₀ : Runs World.Initial SessionSteps w₀)
    (hstarted : w₀.cfg.started = true) (h : Runs (· = w₀) ReadSteps w) :
    Disciplined [] w.log ∧ outstanding w.log ≤ 1 ∧
      (∃ τ, w.log = w₀.log ++ τ ∧ w₀.held ++ taken τ = given τ ++ w.held ∧
        (w₀.cfg.inbuflen = 0 → taken τ = given τ ++ w.held) ∧ w.held.length ≤ 1) ∧
      (∀ (msec : Int) (p : Io Int) (v : World), Reaches osEnv (tapcfgWaitReadable msec, w) (p, v) →
        Disciplined [] v.log ∧ outstanding v.log ≤ 1) ∧
      ∀ (count : Int) (user : List Byte), 0 ≤ count → count ≤ 0x7fffffff → count ≤ user.length →
        (∀ (p : Io Int) (v : World),
          Reaches osEnv (tapcfgRead count, { w with user := user }) (p, v) →
            Disciplined [] v.log ∧ outstanding v.log ≤ 1) ∧
        (∀ e v, ¬ Reaches osEnv (tapcfgRead count, { w with user := user }) (.fault e, v)) ∧
        ∀ r w', ReadStep w (.read count user) r w' → ∃ τ, w'.log = w.log ++ τ ∧
          CallEnds count user (w.held ++ taken τ) r w'.user (given τ) w'.held := by
  have hw : InSession w₀ w := by
    refine h.invariant (I := InSession w₀) (fun w hw => ?_) fun w w' hw ⟨a, r, hs⟩ => hw.step hs
    subst hw
    exact ⟨inv_of_runs h₀, hstarted, [], by simp, by simp⟩
  refine ⟨hw.inv.disciplined, hw.inv.disciplined.outstanding_le_one, ?_, fun msec p v hr => ?_,
    fun count user hnonneg hint huser => ⟨fun p v hr => ?_, fun e v hr => ?_, fun r w' hs => ?_⟩⟩
  · obtain ⟨τ, hlog, hsplit⟩ := hw.moves
    refine ⟨τ, hlog, hsplit, fun hempty => ?_, held_length w⟩
    have hnone : w₀.held = [] := if_pos hempty
    rwa [hnone] at hsplit
  · exact orderly_reaches (sat_tapcfgWaitReadable msec hw.inv hw.started) hr
  · exact orderly_reaches (sat_tapcfgRead count (hw.inv.withUser user) hw.started) hr
  · have hroom := ((sat_tapcfgRead count (hw.inv.withUser user) hw.started).reaches hr).2
    have hcount := toDword_count hnonneg hint
    change user.length < toDword count at hroom
    omega
  · obtain ⟨-, τ, hmoved, -, hends⟩ := hs.read_ends hw.inv hw.started
    rw [toDword_count hnonneg hint] at hends
    exact ⟨τ, hmoved.log, hends⟩

end

/-- The world after a call that returns `r`. -/
def afterWait (s : Supply) (msec : Int) (w : World) : World :=
  ((tapcfgWaitReadable msec).run (supplying s) w).2

def afterRead (s : Supply) (count : Int) (user : List Byte) (r : Int) (w : World) : World :=
  let w' := ((tapcfgRead count).run (supplying s) { w with user := user }).2
  { w' with log := w'.log ++ handedMoves r w'.user }

section

variable {w : World} {r : Int}

theorem wait_step (s : Supply) (msec : Int)
    (hrun : ((tapcfgWaitReadable msec).run (supplying s) w).1 = .ok r) :
    ReadStep w (.wait msec) r (afterWait s msec w) :=
  .wait (reaches_run (supplying_follows s) (Prod.ext hrun rfl))

theorem read_step (s : Supply) (count : Int) (user : List Byte)
    (hrun : ((tapcfgRead count).run (supplying s) { w with user := user }).1 = .ok r) :
    ReadStep w (.read count user) r (afterRead s count user r w) :=
  .read (reaches_run (supplying_follows s) (Prod.ext hrun rfl))

/-- A first start. -/
theorem start_step {steps : World → World → Prop}
    (hsteps : ∀ w w', SessionStep w true w' → Unused w → steps w w') :
    Runs World.Initial steps startedWorld.opened := by
  have hinit : Runs World.Initial steps initialWorld := .start ⟨rfl, rfl, rfl, rfl⟩
  have hstart : Reaches osEnv (tapcfgStart none false, initialWorld) (.ret 0, startedWorld) :=
    reaches_run (supplying_follows _) (Prod.ext (by decide +kernel) rfl)
  exact hinit.next (hsteps _ _ (.startOpened hstart) ⟨rfl, rfl⟩)

end

/-- Nothing comes. -/
def silent : Supply := ⟨oneAdapter, none, none⟩

/-- A frame of three bytes comes when it is waited for. -/
def bringing : Supply := ⟨oneAdapter, none, some [1, 2, 3]⟩

/-- The world after a wait that times out. -/
def polledWorld : World := afterWait silent 20 startedWorld.opened

/-- The world after a read without room for the frame. -/
def heldWorld : World := afterRead bringing 2 [0, 0] (-1) polledWorld

/-- The world after a read with room for it. -/
def handedWorld : World := afterRead silent 4 [0, 0, 0, 0] 3 heldWorld

theorem polledWorld_step : ReadStep startedWorld.opened (.wait 20) 0 polledWorld :=
  wait_step silent 20 (by decide +kernel)

theorem heldWorld_step : ReadStep polledWorld (.read 2 [0, 0]) (-1) heldWorld :=
  read_step bringing 2 [0, 0] (by decide +kernel)

/-- A wait that times out, a read without room for the frame, and one with it. -/
theorem asking_disciplined_pending :
    given handedWorld.log = [[1, 2, 3]] ∧ handedWorld.held = [] ∧
      outstanding handedWorld.log ≤ 1 := by
  have h₀ : Runs World.Initial SessionSteps startedWorld.opened :=
    start_step fun _ _ hs _ => ⟨true, hs⟩
  have hup : startedWorld.opened.cfg.started = true := by decide +kernel
  have hread : ReadStep heldWorld (.read 4 [0, 0, 0, 0]) 3 handedWorld :=
    read_step silent 4 [0, 0, 0, 0] (by decide +kernel)
  have h₁ : Runs (· = startedWorld.opened) ReadSteps startedWorld.opened := .start rfl
  have h₂ := ((h₁.next ⟨_, _, polledWorld_step⟩).next ⟨_, _, heldWorld_step⟩).next ⟨_, _, hread⟩
  exact ⟨by decide +kernel, by decide +kernel, (asking_disciplined h₀ hup h₂).2.1⟩

/-! ## Several sessions -/

section

variable {w w' : World}

/-- What holds between two calls, when no device is opened with a request or a frame left. -/
structure Tidy (w : World) : Prop where
  inv : Inv w
  accounts : Accounts [] w.held (session w.log)
  owned : Owned False (session w.log)
  reading : w.cfg.reading = true → .asked ∈ session w.log

theorem World.Initial.tidy (hw : w.Initial) : Tidy w := by
  have hnone : w.held = [] := if_pos (by rw [hw.cfg]; rfl)
  refine ⟨hw.inv, ?_, ?_, fun h => ?_⟩
  · rw [hw.log, hnone]
    exact .start []
  · rw [hw.log]
    exact .nil _
  · rw [hw.cfg] at h
    cases h

/-- The moves of a step belong to the session. -/
theorem Tidy.append {τ : List (Move Byte)} (hw : Tidy w) (hinv : Inv w')
    (hlog : w'.log = w.log ++ τ) (hopened : ∀ e ∈ τ, e.isOpened = false)
    (howned : Owned (w.cfg.reading = true) τ)
    (hreading : w'.cfg.reading = true → w.cfg.reading = true ∨ .asked ∈ τ) : Tidy w' := by
  have hsession : session w'.log = session w.log ++ τ := by rw [hlog, session_append _ hopened]
  refine ⟨hinv, ?_, ?_, fun h => ?_⟩
  · rw [hsession]
    exact hw.accounts.append (hw.inv.split hinv hlog)
  · rw [hsession]
    exact hw.owned.append howned fun h => .inr (hw.reading h)
  · rw [hsession]
    rcases hreading h with h | h
    · exact List.mem_append_left _ (hw.reading h)
    · exact List.mem_append_right _ h

theorem Tidy.behind (hw : Tidy w) (hinv : Inv w') (hb : Behind w w') : Tidy w' := by
  obtain ⟨n, hlog⟩ := hb.log
  have hended : ∀ e ∈ List.replicate n (Move.ended : Move Byte), e = .ended :=
    fun e he => List.eq_of_mem_replicate he
  refine hw.append hinv hlog ?_ (.of_none ?_) fun h => .inl (hb.reading.symm.trans h)
  · intro e he
    rw [hended e he]
    rfl
  · intro e he
    rw [hended e he]
    rfl

theorem Tidy.step {opened : Bool} (hw : Tidy w) (h : SessionStep w opened w')
    (hcond : opened = true → Unused w) : Tidy w' := by
  cases h with
  | reading h =>
      obtain ⟨hinv, τ, hmoved, -⟩ := h.moves hw.inv
      exact hw.append hinv hmoved.log hmoved.opened hmoved.owned hmoved.reading
  | start hr hfailed =>
      obtain ⟨hinv, hbehind⟩ := ((sat_behind (uses_tapcfgStart _ _) hw.inv).reaches hr).2
      exact hw.behind hinv hbehind
  | startOpened hr =>
      obtain ⟨hinv, hbehind⟩ := ((sat_behind (uses_tapcfgStart _ _) hw.inv).reaches hr).2
      have hunused := hcond rfl
      rename_i v _ _
      have hnone : v.opened.held = [] := if_pos (hbehind.inbuflen.trans hunused.empty)
      have hsession : session v.opened.log = [] := session_opened v.log
      refine ⟨hinv.openedInv, ?_, ?_, fun h => ?_⟩
      · rw [hsession, hnone]
        exact .start []
      · rw [hsession]
        exact .nil _
      · have hreading : v.cfg.reading = true := h
        cases hreading.symm.trans (hbehind.reading.trans hunused.reading)
  | stop hr =>
      obtain ⟨hinv, hbehind⟩ := ((sat_behind uses_tapcfgStop hw.inv).reaches hr).2
      exact hw.behind hinv hbehind

/-- In every run in which no device is opened with a request or a frame left, what is
awaited and what is handed on is of the device that was opened last. -/
theorem Tidy.runs (h : Runs World.Initial TidySteps w) : Tidy w :=
  h.invariant (fun _ hw => hw.tidy) fun _ _ hw ⟨_, hs, hcond⟩ => hw.step hs hcond

/-! ## Waiting before reading -/

/-- The next read does not wait for the device, whatever the request does before it. -/
def NextReadReady (w : World) : Prop :=
  ∀ (v : World) (count r : Int) (user : List Byte) (v' : World), Lapses w v →
    ReadStep v (.read count user) r v' → ∃ τ, v'.log = v.log ++ τ ∧ .blocked ∉ τ

/-- What `tapcfg_wait_readable` promises: a frame that is held is reported, and what is
reported can be read without waiting. -/
def WaitAgrees (w : World) (r : Int) (w' : World) : Prop :=
  (w.held ≠ [] → r ≠ 0) ∧ (r ≠ 0 → NextReadReady w')

theorem nextReadReady (hw : Inv w) (hstarted : w.cfg.started = true)
    (hlen : w.cfg.inbuflen ≠ 0) : NextReadReady w := by
  intro v count r user v' hl hread
  have hdrift := drift_of_lapses hl
  have hcfg := hdrift.cfg
  have hstarted' : v.cfg.started = true := by
    rw [hcfg]
    exact hstarted
  have hlen' : v.cfg.inbuflen ≠ 0 := by
    rw [hcfg]
    exact hlen
  obtain ⟨-, τ, hmoved, hblocked, -⟩ := hread.read_ends (hw.lapses hl) hstarted'
  exact ⟨τ, hmoved.log, hblocked hlen'⟩

/-- A read with nothing held and nothing pending asks for a frame; when none comes it has to
wait. -/
theorem read_blocks (hstarted : w.cfg.started = true) (hempty : w.cfg.inbuflen = 0)
    (hreading : w.cfg.reading = false) :
    ∃ w', ReadStep w (.read 0 w.user) (-1) w' ∧
      w'.log = w.log ++ [.asked, .awaited, .blocked] := by
  have hrun : ∃ w', (tapcfgRead 0).run (supplying ⟨⟨[], []⟩, none, none⟩) w = (.ok (-1), w') ∧
      w'.log = w.log ++ [.asked, .awaited, .blocked] := by
    simp [tapcfgRead, tapcfgWaitForData, startRead, finishRead, Prog.run, Prog.bind, Prog.load,
      Prog.update, modify, readFile, waitForSingleObject, supplying, Supply.act, Supply.readFile,
      Supply.wait, Supply.arrive, World.issue, World.await, hstarted, hempty, hreading]
  obtain ⟨w', hrun, hlog⟩ := hrun
  refine ⟨_, .read (reaches_run (supplying_follows _) hrun), ?_⟩
  simpa [handedMoves] using hlog

/-- The promise is kept just when no request that has read nothing is taken over. -/
theorem waitAgrees_iff {msec r : Int} (hw : Inv w) (hstarted : w.cfg.started = true)
    (h : ReadStep w (.wait msec) r w') :
    ∃ τ, w'.log = w.log ++ τ ∧ (WaitAgrees w r w' ↔ .took [] ∉ τ) := by
  have hadv := h.wait_advances hw hstarted
  obtain ⟨τ, hgoes, hout⟩ := hadv.moves
  have hstarted' : w'.cfg.started = true := hgoes.started.trans hstarted
  have hheld : w.held ≠ [] → w.cfg.inbuflen ≠ 0 := fun hsome hlen => hsome (if_pos hlen)
  refine ⟨τ, hgoes.log, ?_⟩
  cases hout with
  | nothing hlen hτ =>
      refine iff_of_true ⟨fun hsome => ?_, fun hne => absurd rfl hne⟩ hτ
      rw [hadv.held (hheld hsome)] at hlen
      exact absurd hlen (hheld hsome)
  | frame hlen hτ =>
      exact iff_of_true ⟨fun _ => by decide, fun _ => nextReadReady hadv.inv hstarted' hlen⟩ hτ
  | empty hlen hidle hτ =>
      refine iff_of_false (fun hagrees => ?_) (not_not_intro hτ)
      obtain ⟨v, hread, hlog⟩ := read_blocks hstarted' hlen hidle.reading
      obtain ⟨τ', hlog', hblocked⟩ := hagrees.2 (by decide) w' 0 (-1) w'.user v .refl hread
      rw [List.append_cancel_left (hlog'.symm.trans hlog)] at hblocked
      exact hblocked (by simp)

end

/-! ## A request and a frame of an earlier session -/

/-- A stop and a start. -/
def restarted (w : World) : World := (afterStart ⟨oneAdapter, none, none⟩ (afterStop w)).opened

theorem restarted_runs {w : World} (hw : Runs World.Initial SessionSteps w)
    (hstop : (tapcfgStop.run (supplying ⟨oneAdapter, none, none⟩) w).1 = .ok ())
    (hstart : ((tapcfgStart none false).run (supplying ⟨oneAdapter, none, none⟩)
      (afterStop w)).1 = .ok 0) :
    Runs World.Initial SessionSteps (restarted w) := by
  have hstopped : Reaches osEnv (tapcfgStop, w) (.ret (), afterStop w) :=
    reaches_run (supplying_follows _) (Prod.ext hstop rfl)
  have hstarted : Reaches osEnv (tapcfgStart none false, afterStop w)
      (.ret 0, afterStart ⟨oneAdapter, none, none⟩ (afterStop w)) :=
    reaches_run (supplying_follows _) (Prod.ext hstart rfl)
  exact (hw.next ⟨_, .stop hstopped⟩).next ⟨_, .startOpened hstarted⟩

theorem polledWorld_runs : Runs World.Initial SessionSteps polledWorld :=
  (start_step fun _ _ hs _ => ⟨true, hs⟩).next ⟨_, .reading polledWorld_step⟩

/-- A frame that is held is handed on in the next session. -/
def staleWorld : World := afterRead silent 4 [0, 0, 0, 0] 3 (restarted heldWorld)

theorem staleWorld_runs : Runs World.Initial SessionSteps staleWorld := by
  have hheld : Runs World.Initial SessionSteps heldWorld :=
    polledWorld_runs.next ⟨_, .reading heldWorld_step⟩
  have hread : ReadStep (restarted heldWorld) (.read 4 [0, 0, 0, 0]) 3 staleWorld :=
    read_step silent 4 [0, 0, 0, 0] (by decide +kernel)
  exact (restarted_runs hheld (by decide +kernel) (by decide +kernel)).next ⟨_, .reading hread⟩

theorem staleWorld_stale : ¬ Current staleWorld.log :=
  not_current (by decide +kernel) (by decide +kernel)

/-- A request that is pending is awaited in the next session. -/
def lateWorld : World := afterWait bringing 20 (restarted polledWorld)

theorem lateWorld_runs : Runs World.Initial SessionSteps lateWorld := by
  have hwait : ReadStep (restarted polledWorld) (.wait 20) 1 lateWorld :=
    wait_step bringing 20 (by decide +kernel)
  exact (restarted_runs polledWorld_runs (by decide +kernel) (by decide +kernel)).next
    ⟨_, .reading hwait⟩

theorem lateWorld_late : ¬ Owned False (session lateWorld.log) := by
  have hsession : session lateWorld.log = [.awaited, .blocked, .ended, .took [1, 2, 3]] := by
    decide +kernel
  rw [hsession]
  exact fun howned => (howned.1 rfl).elim id (by simp)

/-- A request that has read nothing. -/
def emptyWorld : World := afterWait ⟨oneAdapter, some [], none⟩ 20 startedWorld.opened

theorem emptyWorld_step : ReadStep startedWorld.opened (.wait 20) 1 emptyWorld :=
  wait_step _ 20 (by decide +kernel)

end TapCfg.Windows
