/-
  Unix/Device.lean --- `tapcfg_init`, `tapcfg_start`, `tapcfg_stop` and
  `tapcfg_destroy`, over every backend, and the descriptors they hold.

  Source: src/lib/tapcfg_unix.c, lines 67-161.

  A process has one device object, or none.  Between two calls it holds just the
  descriptors of a started device (`device_sound`), when the answers it gets are
  none of those after which the library forgets a descriptor: the control socket
  is refused, and what `StartAnswers` and `StopAnswers` name for the backends.
-/
import TapCfg.Foundation.Runs
import TapCfg.Unix.Linux
import TapCfg.Unix.Bsd
import TapCfg.Unix.Solaris

set_option autoImplicit false

namespace TapCfg.Unix

open TapCfg.Foundation
open Prog

/-- The backend the library is built with; NetBSD has a search of its own. -/
inductive Backend where
  | linux
  | bsd
  | netbsd
  | solaris
  deriving DecidableEq, Repr

def tapcfgStartDev : Backend → CStr → Bool → Io Int
  | .linux => Linux.tapcfgStartDev
  | .bsd => Bsd.tapcfgStartDev false
  | .netbsd => Bsd.tapcfgStartDev true
  | .solaris => Solaris.tapcfgStartDev

def tapcfgStopDev : Backend → Io Unit
  | .linux => Linux.tapcfgStopDev
  | .bsd => Bsd.tapcfgStopDev
  | .netbsd => Bsd.tapcfgStopDev
  | .solaris => Solaris.tapcfgStopDev

/-- `tapcfg_init`, when there is memory: the object is cleared first. -/
def tapcfgInit : Tapcfg where
  started := false
  status := 0
  tapFd := -1
  ctrlFd := 0
  ifname := []
  hwaddr := List.replicate hwaddrlen 0
  ipFd := -1
  ip6Fd := -1

/-- The `err:` exit of `tapcfg_start`. -/
def startError (tapFd : Int) : Io Int := do
  modify fun cfg => { cfg with ifname := [] }
  if tapFd ≠ -1 then close tapFd
  modify fun cfg => { cfg with tapFd := -1 }
  return -1

/-- `tapcfg_start` -/
def tapcfgStart (b : Backend) (ifname : Option CStr) (fallback : Bool) : Io Int := do
  let w ← load
  -- Check if we are already running and return success
  if w.cfg.started then return 0
  let tapFd ← tapcfgStartDev b (ifname.getD []) (fallback || ifname.isNone)
  if tapFd < 0 then return ← startError tapFd
  let ctrlFd ← socket .control
  if ctrlFd = -1 then return -1
  -- Mark the current fds and mark thread as running
  modify fun cfg => { cfg with
    tapFd := tapFd
    ctrlFd := ctrlFd
    started := true
    status := statusAllDown }
  return 0

/-- Close the descriptor of a field, unless it is -1, and clear the field. -/
def closeField (fd : Tapcfg → Int) (clear : Tapcfg → Tapcfg) : Io Unit := do
  let w ← load
  if fd w.cfg ≠ -1 then
    close (fd w.cfg)
    modify clear

/-- `tapcfg_stop` -/
def tapcfgStop (b : Backend) : Io Unit := do
  let w ← load
  if w.cfg.started then
    tapcfgStopDev b
    closeField Tapcfg.tapFd fun cfg => { cfg with tapFd := -1 }
    closeField Tapcfg.ctrlFd fun cfg => { cfg with ctrlFd := -1 }
    modify fun cfg => { cfg with started := false, status := statusAllDown }

/-! ## Runs of calls -/

/-- A process that uses the library: its device object, and the calls made so far. -/
structure Process where
  obj : Option Tapcfg
  hist : List Event

/-- Nothing has been called. -/
def Process.empty : Process := ⟨none, []⟩

def Process.started (p : Process) : Bool := p.obj.any Tapcfg.started

inductive ApiCall where
  | init
  | start (ifname : Option CStr) (fallback : Bool)
  | stop
  | destroy

/-- One call, with what it returns (0 when it returns nothing).  The answers to a
start are such as `onStart` allows, those to a stop such as `onStop` allows. -/
inductive ApiStep (b : Backend) (onStart onStop : Allows) :
    Process → ApiCall → Int → Process → Prop where
  | init {h : List Event} {obj : Option Tapcfg} (hobj : obj = none ∨ obj = some tapcfgInit) :
      ApiStep b onStart onStop ⟨none, h⟩ .init 0 ⟨obj, h⟩
  | start {w w' : World} {ifname : Option CStr} {fallback : Bool} {r : Int}
      (hr : Reaches (osEnv onStart) (tapcfgStart b ifname fallback, w) (.ret r, w')) :
      ApiStep b onStart onStop ⟨some w.cfg, w.hist⟩ (.start ifname fallback) r
        ⟨some w'.cfg, w'.hist⟩
  | stop {w w' : World} (hr : Reaches (osEnv onStop) (tapcfgStop b, w) (.ret (), w')) :
      ApiStep b onStart onStop ⟨some w.cfg, w.hist⟩ .stop 0 ⟨some w'.cfg, w'.hist⟩
  | destroy {w w' : World} (hr : Reaches (osEnv onStop) (tapcfgStop b, w) (.ret (), w')) :
      ApiStep b onStart onStop ⟨some w.cfg, w.hist⟩ .destroy 0 ⟨none, w'.hist⟩
  | destroyNull {h : List Event} :
      ApiStep b onStart onStop ⟨none, h⟩ .destroy 0 ⟨none, h⟩

/-- Some call. -/
def Calls (b : Backend) (onStart onStop : Allows) (p p' : Process) : Prop :=
  ∃ c r, ApiStep b onStart onStop p c r p'

/-- The control socket is not refused. -/
def ControlGranted : Allows
  | ⟨.socket .control, fd⟩ => ¬ fd = (-1 : Int)
  | _ => True

/-- The answers to a start after which nothing is forgotten. -/
def StartAnswers : Backend → Allows
  | .linux, e => ControlGranted e ∧ Linux.TemporaryNonzero e
  | .bsd, e => ControlGranted e
  | .netbsd, e => ControlGranted e ∧ Bsd.CloneNamed e
  | .solaris, e => ControlGranted e

/-- The answers to a stop after which nothing is forgotten. -/
def StopAnswers : Backend → Allows
  | .solaris, e => Solaris.DetachSucceeds e
  | _, _ => True

/-- The descriptors of a started device besides `tap_fd` and `ctrl_fd`. -/
def further : Backend → Tapcfg → List Int
  | .solaris, cfg => [cfg.ipFd, cfg.ip6Fd]
  | _, _ => []

/-- The descriptors of a started device. -/
def devFds (b : Backend) (cfg : Tapcfg) : List Int := cfg.tapFd :: cfg.ctrlFd :: further b cfg

/-- What holds between two calls. -/
structure Sound (b : Backend) (p : Process) : Prop where
  idle : p.started = false → openFds p.hist = [] ∧
    ∀ cfg, p.obj = some cfg → cfg.tapFd = -1 ∧ cfg.status = statusAllDown
  running : ∀ cfg, p.obj = some cfg → cfg.started = true →
    (∀ fd ∈ devFds b cfg, 0 ≤ fd) ∧ (devFds b cfg).Nodup ∧
      (openFds p.hist).Perm ((devFds b cfg).map Int.toNat)
  /-- What is closed is open: nothing is closed twice. -/
  once : Along Settles [] (ledger p.hist)

/-! ## The four calls -/

section

variable {L : Allows} {w : World} {b : Backend}

/-- A device that is not started. -/
structure Down (w : World) : Prop where
  started : w.cfg.started = false
  tapFd : w.cfg.tapFd = -1
  status : w.cfg.status = statusAllDown
  holds : Holds [] w.hist

/-- A device that is started. -/
structure Up (b : Backend) (w : World) : Prop where
  started : w.cfg.started = true
  nonneg : ∀ fd ∈ devFds b w.cfg, 0 ≤ fd
  holds : Holds (devFds b w.cfg) w.hist

theorem Up.intro {fds : List Int} (hs : w.cfg.started = true) (htap : 0 ≤ w.cfg.tapFd)
    (hctrl : 0 ≤ w.cfg.ctrlFd) (hfurther : further b w.cfg = fds) (hnonneg : ∀ fd ∈ fds, 0 ≤ fd)
    (hh : Holds (w.cfg.tapFd :: w.cfg.ctrlFd :: fds) w.hist) : Up b w := by
  subst hfurther
  exact ⟨hs, by simpa [devFds] using ⟨htap, hctrl, hnonneg⟩, hh⟩

theorem StartAnswers.control {e : Event} (h : StartAnswers b e) : ControlGranted e := by
  cases b with
  | linux => exact h.1
  | bsd => exact h
  | netbsd => exact h.1
  | solaris => exact h

theorem startDev_spec (hL : ∀ e, L e → StartAnswers b e) (ifname : CStr) (fallback : Bool)
    (hw : Holds [] w.hist) :
    Sat (osEnv L) (fun _ => True) (DevStarted (further b) w) (fun _ _ => False)
      (tapcfgStartDev b ifname fallback) w := by
  cases b with
  | linux => exact Linux.startDev_spec (fun e he => (hL e he).2) ifname fallback hw
  | bsd => exact Bsd.startDev_spec false (fun h => by cases h) ifname fallback hw
  | netbsd => exact Bsd.startDev_spec true (fun _ e he => (hL e he).2) ifname fallback hw
  | solaris => exact Solaris.startDev_spec ifname fallback hw

/-- `tapcfg_stop_dev` closes the further descriptors. -/
theorem stopDev_spec (hL : ∀ e, L e → StopAnswers b e) (fds : List Int)
    (hnonneg : ∀ fd ∈ further b w.cfg, 0 ≤ fd) (hw : Holds (fds ++ further b w.cfg) w.hist) :
    Sat (osEnv L) (fun _ => True) (fun _ w' => Kept w.cfg w'.cfg ∧ Holds fds w'.hist)
      (fun _ _ => False) (tapcfgStopDev b) w := by
  cases b with
  | linux => exact Linux.stopDev_spec ⟨.refl _, hw.of_slots (by simp [further])⟩
  | bsd => exact Bsd.stopDev_spec ⟨.refl _, hw.of_slots (by simp [further])⟩
  | netbsd => exact Bsd.stopDev_spec ⟨.refl _, hw.of_slots (by simp [further])⟩
  | solaris =>
      have hip : 0 ≤ w.cfg.ipFd := hnonneg _ (by simp [further])
      have hip6 : 0 ≤ w.cfg.ip6Fd := hnonneg _ (by simp [further])
      exact Solaris.stopDev_spec hL fds hip hip6 hw

/-- What a start leaves when it returns. -/
def Started (b : Backend) (r : Int) (w : World) : Prop :=
  (r = 0 ∧ Up b w) ∨ (r = -1 ∧ Down w ∧ w.cfg.ifname = [])

/-- The `err:` exit, when no device is open. -/
theorem sat_startError {w₀ : World} (hdown : Down w₀) (hkept : Kept w₀.cfg w.cfg)
    (hw : Holds [] w.hist) :
    Sat (osEnv L) (fun _ => True) (Started b) (fun _ _ => False) (startError (-1)) w := by
  unfold startError
  refine sat_bind (sat_modify ?_)
  rw [if_neg (by decide)]
  refine sat_bind (sat_modify (sat_ret trivial (.inr ⟨rfl, ?_, rfl⟩)))
  exact ⟨hkept.started.trans hdown.started, rfl, hkept.status.trans hdown.status, hw⟩

theorem start_spec (hL : ∀ e, L e → StartAnswers b e) (ifname : Option CStr) (fallback : Bool)
    (hw : Down w) :
    Sat (osEnv L) (fun _ => True) (Started b) (fun _ _ => False)
      (tapcfgStart b ifname fallback) w := by
  unfold tapcfgStart
  refine sat_bind (sat_load trivial ?_)
  rw [if_neg (by simp [hw.started])]
  refine sat_seq (startDev_spec hL _ _ hw.holds) fun tapFd w₁ h₁ => ?_
  rcases h₁.result with ⟨rfl, hw₁⟩ | ⟨htap, hnonneg, hw₁⟩
  · rw [if_pos (by decide)]
    exact sat_startError hw h₁.kept hw₁
  · rw [if_neg (by omega)]
    have hslots : Holds ([tapFd] ++ -1 :: further b w₁.cfg) w₁.hist := hw₁.of_slots (by simp)
    refine sat_bind (sat_socket [tapFd] _ hslots fun ctrlFd w₂ hctrl hok h₂ hw₂ => ?_)
    have hgranted : ¬ ctrlFd = -1 := (hL _ hok).control
    rw [if_neg hgranted]
    refine sat_bind (sat_modify (sat_ret trivial (.inl ⟨rfl, ?_⟩)))
    rw [← h₂] at hnonneg hw₂
    exact .intro rfl htap (hctrl.resolve_left hgranted) (by cases b <;> rfl) hnonneg hw₂

/-- A field whose descriptor is closed. -/
theorem sat_closeField (l₁ l₂ : List Int) {fd : Tapcfg → Int} {clear : Tapcfg → Tapcfg}
    {Q : Unit → World → Prop} {F : Fault → World → Prop} (hfd : 0 ≤ fd w.cfg)
    (hw : Holds (l₁ ++ fd w.cfg :: l₂) w.hist)
    (hQ : ∀ w', w'.cfg = clear w.cfg → Holds (l₁ ++ -1 :: l₂) w'.hist → Q () w') :
    Sat (osEnv L) (fun _ => True) Q F (closeField fd clear) w := by
  unfold closeField
  refine sat_bind (sat_load trivial ?_)
  rw [if_pos (by omega)]
  refine sat_bind (sat_close l₁ l₂ hw fun w₁ h₁ hw₁ => ?_)
  exact sat_modify (hQ _ (by rw [h₁]) hw₁)

theorem stop_spec (hL : ∀ e, L e → StopAnswers b e) (hw : Up b w ∨ Down w) :
    Sat (osEnv L) (fun _ => True) (fun _ w' => Down w') (fun _ _ => False) (tapcfgStop b) w := by
  unfold tapcfgStop
  refine sat_bind (sat_load trivial ?_)
  rcases hw with hup | hdown
  · rw [if_pos hup.started]
    have htap : 0 ≤ w.cfg.tapFd := hup.nonneg _ (by simp [devFds])
    have hctrl : 0 ≤ w.cfg.ctrlFd := hup.nonneg _ (by simp [devFds])
    have hfurther : ∀ fd ∈ further b w.cfg, 0 ≤ fd := fun fd hfd =>
      hup.nonneg fd (by simp [devFds, hfd])
    apply sat_seq (stopDev_spec hL [w.cfg.tapFd, w.cfg.ctrlFd] hfurther hup.holds)
    rintro ⟨⟩ w₁ ⟨hkept, hw₁⟩
    rw [← hkept.tapFd, ← hkept.ctrlFd] at hw₁
    rw [← hkept.tapFd] at htap
    rw [← hkept.ctrlFd] at hctrl
    refine sat_bind (sat_closeField [] [w₁.cfg.ctrlFd] htap hw₁ fun w₂ h₂ hw₂ => ?_)
    have hctrl₂ : w₂.cfg.ctrlFd = w₁.cfg.ctrlFd := by rw [h₂]
    rw [← hctrl₂] at hctrl hw₂
    refine sat_bind (sat_closeField [-1] [] hctrl hw₂ fun w₃ h₃ hw₃ => ?_)
    refine sat_modify ⟨rfl, ?_, rfl, hw₃.of_slots (by simp)⟩
    show w₃.cfg.tapFd = -1
    rw [h₃, h₂]
  · rw [if_neg (by simp [hdown.started])]
    exact sat_ret trivial hdown

/-- A start on a started device changes nothing. -/
theorem start_started {onStart : Allows} {ifname : Option CStr} {fallback : Bool} {r : Int}
    {w' : World} (hw : w.cfg.started = true)
    (hr : Reaches (osEnv onStart) (tapcfgStart b ifname fallback, w) (.ret r, w')) :
    r = 0 ∧ w' = w := by
  have hsat : Sat (osEnv onStart) (fun _ => True) (fun r w' => r = 0 ∧ w' = w)
      (fun _ _ => False) (tapcfgStart b ifname fallback) w := by
    unfold tapcfgStart
    refine sat_bind (sat_load trivial ?_)
    rw [if_pos hw]
    exact sat_ret trivial ⟨rfl, rfl⟩
  exact (hsat.reaches hr).2

end

/-! ## Every run -/

section

variable {b : Backend} {p p' : Process}

/-- The invariant of a process. -/
def Process.Inv (b : Backend) (p : Process) : Prop :=
  match p.obj with
  | none => Holds [] p.hist
  | some cfg => Up b ⟨cfg, p.hist⟩ ∨ Down ⟨cfg, p.hist⟩

theorem Process.Inv.step {onStart onStop : Allows} {c : ApiCall} {r : Int}
    (hStart : ∀ e, onStart e → StartAnswers b e) (hStop : ∀ e, onStop e → StopAnswers b e)
    (hp : p.Inv b) (hs : ApiStep b onStart onStop p c r p') : p'.Inv b := by
  cases hs with
  | init hobj =>
      rcases hobj with rfl | rfl
      · exact hp
      · exact .inr ⟨rfl, rfl, rfl, hp⟩
  | start hr =>
      rcases hp with hup | hdown
      · obtain ⟨-, rfl⟩ := start_started hup.started hr
        exact .inl hup
      · rcases ((start_spec hStart _ _ hdown).reaches hr).2 with ⟨-, hup⟩ | ⟨-, hdown', -⟩
        · exact .inl hup
        · exact .inr hdown'
  | stop hr => exact .inr ((stop_spec hStop hp).reaches hr).2
  | destroy hr => exact ((stop_spec hStop hp).reaches hr).2.holds
  | destroyNull => exact hp

theorem Down.sound {w : World} (hw : Down w) : Sound b ⟨some w.cfg, w.hist⟩ where
  idle _ := by
    refine ⟨List.perm_nil.mp hw.holds.exact, fun cfg hcfg => ?_⟩
    cases hcfg
    exact ⟨hw.tapFd, hw.status⟩
  running cfg hcfg hstarted := by
    cases hcfg
    exact absurd (hstarted.symm.trans hw.started) (by decide)
  once := hw.holds.settles

theorem Up.sound {w : World} (hw : Up b w) : Sound b ⟨some w.cfg, w.hist⟩ where
  idle hidle := absurd (hw.started.symm.trans hidle) (by decide)
  running cfg hcfg _ := by
    cases hcfg
    have hmap := slots_of_nonneg hw.nonneg
    have hnodup := hw.holds.nodup
    rw [hmap] at hnodup
    exact ⟨hw.nonneg, hnodup.of_map, hmap ▸ hw.holds.exact⟩
  once := hw.holds.settles

theorem Process.Inv.sound (hp : p.Inv b) : Sound b p := by
  obtain ⟨obj, h⟩ := p
  cases obj with
  | none =>
      refine ⟨fun _ => ⟨List.perm_nil.mp hp.exact, fun cfg hcfg => ?_⟩, fun cfg hcfg => ?_,
        hp.settles⟩
      · cases hcfg
      · cases hcfg
  | some cfg =>
      rcases hp with hup | hdown
      · exact hup.sound
      · exact hdown.sound

/-- In every run whose answers are of these, the process is sound between any two
calls; a start that fails leaves no name, and one on a started device does nothing. -/
theorem device_sound
    (h : Runs (· = Process.empty) (Calls b (StartAnswers b) (StopAnswers b)) p) :
    Sound b p ∧ ∀ ifname fallback r p',
      ApiStep b (StartAnswers b) (StopAnswers b) p (.start ifname fallback) r p' →
      (r ≠ 0 → ∀ cfg, p'.obj = some cfg → cfg.ifname = []) ∧
        (p.started = true → r = 0 ∧ p' = p) := by
  have hinv : p.Inv b := by
    refine h.invariant (I := Process.Inv b) (fun p hp => ?_) fun p p' hp hs => ?_
    · subst hp
      exact ⟨trivial, trivial, .refl _⟩
    · obtain ⟨c, r, hs⟩ := hs
      exact hp.step (fun _ he => he) (fun _ he => he) hs
  refine ⟨hinv.sound, fun ifname fallback r p' hs => ?_⟩
  cases hs with
  | start hr =>
      constructor
      · intro hfailed cfg hcfg
        cases hcfg
        rcases hinv with hup | hdown
        · exact absurd (start_started hup.started hr).1 hfailed
        · rcases ((start_spec (fun _ he => he) ifname fallback hdown).reaches hr).2 with
            ⟨hzero, -⟩ | ⟨-, -, hname⟩
          · exact absurd hzero hfailed
          · exact hname
      · intro hstarted
        obtain ⟨hzero, rfl⟩ := start_started hstarted hr
        exact ⟨hzero, rfl⟩

end

/-! ## Runs against a system that refuses some calls -/

/-- A descriptor that is not open. -/
def nextFd (h : List Event) : Nat := (openFds h).foldr max 2 + 1

theorem three_le_nextFd (h : List Event) : 3 ≤ nextFd h := by
  have hle : ∀ l : List Nat, 2 ≤ l.foldr max 2 := by
    intro l
    induction l with
    | nil => exact Nat.le_refl 2
    | cons a l ih => exact Nat.le_trans ih (Nat.le_max_right _ _)
  exact Nat.succ_le_succ (hle _)

theorem nextFd_fresh (h : List Event) : nextFd h ∉ openFds h := by
  have hle : ∀ (l : List Nat), ∀ fd ∈ l, fd ≤ l.foldr max 2 := by
    intro l
    induction l with
    | nil => simp
    | cons a l ih =>
        intro fd hfd
        rcases List.mem_cons.mp hfd with rfl | hfd
        · exact Nat.le_max_left _ _
        · exact Nat.le_trans (ih fd hfd) (Nat.le_max_right _ _)
  intro hmem
  have hbound := hle _ _ hmem
  unfold nextFd at hbound
  omega

instance (h : List Event) (fd : Int) : Decidable (IsOpen h fd) :=
  inferInstanceAs (Decidable (_ ∧ _))

/-- The descriptor a system returns. -/
def grant (h : List Event) (refused : Bool) : Int := if refused then -1 else nextFd h

/-- The reply to a request. -/
def grantReply (granted : Bool) : Reply :=
  if granted then { ret := 0, ifr := { name := "tap0".toList } } else { ret := -1 }

/-- The answers of a system that refuses some calls and grants the others. -/
def answer (refused : Call → Bool) (h : List Event) : (c : Call) → c.Ans
  | .openDev path => grant h (refused (.openDev path))
  | .socket use => grant h (refused (.socket use))
  | .close _ => ()
  | .ioctl fd req => grantReply (decide (IsOpen h fd) && !refused (.ioctl fd req))
  | .getifaddrs => none
  | .getPhysaddr _ => none
  | .setPhysaddr _ _ => SetAck.refused
  | .getInet6 _ => (-1 : Int)
  | .setInet6 _ _ => (-1 : Int)

/-- That system. -/
def granting (refused : Call → Bool) : Responder World Call Call.Ans := fun w c =>
  (answer refused w.hist c, w.log ⟨c, answer refused w.hist c⟩)

theorem grant_newFd (h : List Event) (refused : Bool) : NewFd h (grant h refused) := by
  cases refused with
  | true => exact .inl rfl
  | false => exact .inr ⟨Int.natCast_nonneg _, nextFd_fresh h⟩

theorem granting_follows {L : Allows} {refused : Call → Bool}
    (hL : ∀ h c, L ⟨c, answer refused h c⟩) : Follows (granting refused) (osEnv L) := by
  intro w c
  refine ⟨?_, hL w.hist c, rfl⟩
  cases c with
  | openDev path => exact grant_newFd _ _
  | socket use => exact grant_newFd _ _
  | close fd => trivial
  | getifaddrs => trivial
  | getPhysaddr fd => trivial
  | setPhysaddr fd hwaddr => trivial
  | getInet6 code => trivial
  | setInet6 code newval => trivial
  | ioctl fd req =>
      show (grantReply _).ret = -1 ∨ (0 ≤ (grantReply _).ret ∧ IsOpen w.hist fd)
      cases hgranted : decide (IsOpen w.hist fd) && !refused (.ioctl fd req) with
      | false => exact .inl rfl
      | true => exact .inr ⟨by decide, of_decide_eq_true (Bool.and_eq_true_iff.mp hgranted).1⟩

/-- A process with a device object. -/
def World.process (w : World) : Process := ⟨some w.cfg, w.hist⟩

/-- The world after a first start. -/
def afterStart (b : Backend) (refused : Call → Bool) : World :=
  ((tapcfgStart b none false).run (granting refused) ⟨tapcfgInit, []⟩).2

/-- The world after a stop. -/
def afterStop (b : Backend) (refused : Call → Bool) (w : World) : World :=
  ((tapcfgStop b).run (granting refused) w).2

section

variable {b : Backend} {onStart onStop : Allows} {refused : Call → Bool} {w : World}

theorem runs_afterStart (r : Int) (hf : Follows (granting refused) (osEnv onStart))
    (hrun : ((tapcfgStart b none false).run (granting refused) ⟨tapcfgInit, []⟩).1 = .ok r) :
    Runs (· = Process.empty) (Calls b onStart onStop) (afterStart b refused).process := by
  have hinit : Calls b onStart onStop .empty (World.process ⟨tapcfgInit, []⟩) :=
    ⟨_, _, .init (.inr rfl)⟩
  have hstart : Calls b onStart onStop (World.process ⟨tapcfgInit, []⟩)
      (afterStart b refused).process := ⟨_, r, .start (reaches_run hf (Prod.ext hrun rfl))⟩
  have hempty : Runs (· = Process.empty) (Calls b onStart onStop) .empty := .start rfl
  exact (hempty.next hinit).next hstart

theorem runs_afterStop (hf : Follows (granting refused) (osEnv onStop))
    (hrun : ((tapcfgStop b).run (granting refused) w).1 = .ok ())
    (hw : Runs (· = Process.empty) (Calls b onStart onStop) w.process) :
    Runs (· = Process.empty) (Calls b onStart onStop) (afterStop b refused w).process :=
  hw.next ⟨_, _, .stop (reaches_run hf (Prod.ext hrun rfl))⟩

end

theorem granting_linux (h : List Event) (c : Call) :
    StartAnswers .linux ⟨c, answer (fun _ => false) h c⟩ := by
  cases c with
  | socket use =>
      have hthree := three_le_nextFd h
      cases use with
      | control =>
          refine ⟨?_, trivial⟩
          show ¬ (nextFd h : Int) = -1
          omega
      | temporary =>
          refine ⟨trivial, ?_⟩
          show ¬ (nextFd h : Int) = 0
          omega
      | inet6 => exact ⟨trivial, trivial⟩
  | openDev path => exact ⟨trivial, trivial⟩
  | close fd => exact ⟨trivial, trivial⟩
  | ioctl fd req => exact ⟨trivial, trivial⟩
  | getifaddrs => exact ⟨trivial, trivial⟩
  | getPhysaddr fd => exact ⟨trivial, trivial⟩
  | setPhysaddr fd hwaddr => exact ⟨trivial, trivial⟩
  | getInet6 code => exact ⟨trivial, trivial⟩
  | setInet6 code newval => exact ⟨trivial, trivial⟩

/-- A start and a stop on Linux, every call granted. -/
theorem device_sound_stopped : ∃ p : Process, p.hist.length = 8 ∧ Sound .linux p := by
  have hstop : ∀ h c, StopAnswers .linux ⟨c, answer (fun _ => false) h c⟩ := fun _ _ => trivial
  have hup : Runs (· = Process.empty) (Calls .linux (StartAnswers .linux) (StopAnswers .linux))
      (afterStart .linux fun _ => false).process :=
    runs_afterStart 0 (granting_follows granting_linux) (by decide +kernel)
  have hdown := runs_afterStop (granting_follows hstop) (by decide +kernel) hup
  exact ⟨_, by decide +kernel, (device_sound hdown).1⟩

/-- A start fails, and its device stays open: on every backend when the control socket
is refused; on NetBSD when the name of the cloned device is.  A stop on Solaris whose
first request fails leaves `ip_fd` and `ip6_fd` open. -/
theorem device_forgotten :
    (∃ p, Runs (· = Process.empty) (Calls .linux anyAnswer anyAnswer) p ∧
      p.started = false ∧ openFds p.hist = [3] ∧ p.obj.map Tapcfg.ifname = some "tap0".toList) ∧
    (∃ p, Runs (· = Process.empty) (Calls .netbsd anyAnswer anyAnswer) p ∧
      p.started = false ∧ openFds p.hist = [3]) ∧
    (∃ p, Runs (· = Process.empty) (Calls .solaris anyAnswer anyAnswer) p ∧
      p.started = false ∧ openFds p.hist = [3, 4]) := by
  have hfollows : ∀ refused, Follows (granting refused) (osEnv anyAnswer) := fun _ =>
    granting_follows fun _ _ => trivial
  refine ⟨⟨(afterStart .linux (· = .socket .control)).process, ?_, by decide +kernel⟩,
    ⟨(afterStart .netbsd (· ∈ [.openDev "/dev/".toList, .ioctl 3 (.tapgifname {})])).process, ?_,
      by decide +kernel⟩,
    ⟨(afterStop .solaris (fun _ => true) (afterStart .solaris fun _ => false)).process, ?_,
      by decide +kernel⟩⟩
  · exact runs_afterStart (-1) (hfollows _) (by decide +kernel)
  · exact runs_afterStart (-1) (hfollows _) (by decide +kernel)
  · have hup : Runs (· = Process.empty) (Calls .solaris anyAnswer anyAnswer)
        (afterStart .solaris fun _ => false).process :=
      runs_afterStart 0 (hfollows _) (by decide +kernel)
    exact runs_afterStop (hfollows _) (by decide +kernel) hup

end TapCfg.Unix
