/-
  Windows/Holding.lean --- the handle and the name over whole runs of starts,
  stops and destroys.

  Source: src/lib/tapcfg_windows.c, lines 65-227.

  Between two calls a process holds just the handle and the name of its device
  (`adapter_sound`), when a start is made only on an object without a name.  Any
  other start forgets the name that was there.
-/
import Mathlib.Data.List.MinMax
import TapCfg.Foundation.Runs
import TapCfg.Windows.Device

set_option autoImplicit false

namespace TapCfg.Windows

open TapCfg.Foundation
open Prog hiding ret

/-! ## Runs of calls -/

/-- A process that uses the library: its device object, and the calls made so far. -/
structure Process where
  obj : Option Tapcfg
  hist : List Event

/-- Nothing has been called. -/
def Process.empty : Process := ⟨none, []⟩

/-- A process with a device object. -/
def World.process (w : World) : Process := ⟨some w.cfg, w.hist⟩

inductive ApiCall where
  | init
  | start (ifname : Option CStr) (fallback : Bool)
  | stop
  | destroy

/-- One call, with what it returns (0 when it returns nothing). -/
inductive ApiStep : Process → ApiCall → Int → Process → Prop where
  | init {h : List Event} {obj : Option Tapcfg} (hobj : obj = none ∨ obj = some tapcfgInit) :
      ApiStep ⟨none, h⟩ .init 0 ⟨obj, h⟩
  | start {w w' : World} {ifname : Option CStr} {fallback : Bool} {r : Int}
      (hr : Reaches osEnv (tapcfgStart ifname fallback, w) (.ret r, w')) :
      ApiStep w.process (.start ifname fallback) r w'.process
  | stop {w w' : World} (hr : Reaches osEnv (tapcfgStop, w) (.ret (), w')) :
      ApiStep w.process .stop 0 w'.process
  | destroy {w w' : World} (hr : Reaches osEnv (tapcfgDestroy, w) (.ret (), w')) :
      ApiStep w.process .destroy 0 ⟨none, w'.hist⟩
  | destroyNull {h : List Event} : ApiStep ⟨none, h⟩ .destroy 0 ⟨none, h⟩

/-- Some call. -/
def Calls (p p' : Process) : Prop := ∃ c r, ApiStep p c r p'

/-- A start is made only on an object without a name: no start before it has found an
adapter. -/
def StartsUnnamed (p : Process) : ApiCall → Prop
  | .start _ _ => ∀ cfg, p.obj = some cfg → cfg.ifname = none
  | _ => True

/-- Some call, which is no start on an object with a name. -/
def CallsUnnamed (p p' : Process) : Prop := ∃ c r, ApiStep p c r p' ∧ StartsUnnamed p c

/-- What holds between two calls. -/
structure Sound (p : Process) : Prop where
  /-- a device is started just when its handle and its name are there -/
  running : ∀ cfg, p.obj = some cfg → (cfg.started = true ↔
    HandleOpen p.hist cfg.devHandle ∧ ∃ s, cfg.ifname = some s ∧ NameCurrent p.hist cfg.devHandle s)
  /-- without an object nothing is held -/
  released : p.obj = none → held (ledger p.hist) = []
  /-- nothing is released twice -/
  once : Along Settles [] (ledger p.hist)

section

variable {w : World}

/-! ## A start on an object with a name -/

/-- The string is on the heap, and the object does not point to it. -/
def Forgotten (s : Str) (w : World) : Prop :=
  .name s.ptr ∈ held (ledger w.hist) ∧ w.cfg.ifname ≠ some s

/-- A name on the heap stays there until it is freed. -/
theorem name_held {hist : List Event} {ptr : Nat} {e : Event}
    (h : .name ptr ∈ held (ledger hist)) (he : FreesNothing e.1) :
    .name ptr ∈ held (ledger (hist ++ [e])) := by
  rw [ledger_concat]
  refine mem_held_append h fun hmem => ?_
  obtain ⟨c, a⟩ := e
  cases c with
  | free p => exact he
  | closeHandle p =>
      by_cases hp : 0 ≤ p
      · simp [entry, hp] at hmem
      · simp [entry, hp] at hmem
  | strdup text => cases a <;> simp [entry, acquiredName] at hmem
  | createFile path =>
      change _ ∈ (acquiredHandle a).toList at hmem
      unfold acquiredHandle at hmem
      split at hmem <;> simp at hmem
  | registry => simp [entry] at hmem
  | getVersion p => simp [entry] at hmem
  | getMac p => simp [entry] at hmem
  | readFile p n => simp [entry] at hmem
  | waitForSingleObject timeout => simp [entry] at hmem
  | getOverlappedResult p => simp [entry] at hmem

/-- The opening of a device keeps a name forgotten. -/
theorem Forgotten.sat {s : Str} (guid : CStr) (hw : Forgotten s w) :
    Sat osEnv (Forgotten s) (fun _ => Forgotten s) (fun _ _ => True) (openAdapter guid) w := by
  have huses : Uses LeavesName FreesNothing (openAdapter guid) :=
    (openAdapter_leaves guid).mono (fun _ h => h.2) fun _ h => h.2
  refine sat_of_kept huses (fun f hf w w' hw h => ?_) (fun c hc w a w' hw henv => ?_) hw
  · obtain ⟨hname, hhist⟩ := hf w w' h
    exact ⟨hhist ▸ hw.1, hname ▸ hw.2⟩
  · obtain ⟨hsteady, hhist⟩ := osEnv_steady henv
    refine ⟨?_, hsteady.ifname ▸ hw.2⟩
    rw [hhist]
    exact name_held hw.1 hc

/-- A start on an object with a name forgets it. -/
theorem sat_tapcfgStart_named {s : Str} (ifname : Option CStr) (fallback : Bool)
    (hw : .name s.ptr ∈ held (ledger w.hist)) :
    Sat osEnv (fun _ => True) (fun _ w' => Forgotten s w') (fun _ _ => True)
      (tapcfgStart ifname fallback) w := by
  have hfound : Sat osEnv (fun _ => True)
      (fun found w' => .name s.ptr ∈ held (ledger w'.hist) ∧ found.1 ≠ some s) (fun _ _ => True)
      (tapcfgFixupAdapters (ifname.getD []) (fallback || ifname.isNone)) w := by
    unfold tapcfgFixupAdapters
    refine sat_bind (sat_call fun (reg : Registry) w₁ _ _ hh₁ => ?_)
    have hw₁ : .name s.ptr ∈ held (ledger w₁.hist) := by
      rw [hh₁]
      exact name_held hw trivial
    split
    · exact sat_ret trivial ⟨hw₁, nofun⟩
    · refine sat_bind (sat_call fun (ptr : Option Nat) w₂ hnew _ hh₂ => ?_)
      refine sat_ret trivial ⟨?_, fun h => ?_⟩
      · rw [hh₂]
        exact name_held hw₁ trivial
      · obtain ⟨p, hp, rfl⟩ := Option.map_eq_some_iff.mp h
        exact hnew p hp hw₁
  unfold tapcfgStart
  refine sat_seq hfound fun found w₁ ⟨hheld, hne⟩ => ?_
  refine sat_bind (sat_modify trivial trivial ?_)
  have hforgotten : Forgotten s { w₁ with cfg := { w₁.cfg with ifname := found.1 } } := ⟨hheld, hne⟩
  split
  · exact sat_ret trivial hforgotten
  · exact (hforgotten.sat found.2).mono (fun _ _ => trivial)
      (fun _ _ _ h => h) fun _ _ _ h => h

end

/-! ## Every run -/

section

variable {p p' : Process}

/-- The invariant of a process. -/
def Process.Inv (p : Process) : Prop :=
  (p.obj = none → Owns [] (ledger p.hist)) ∧
    ∀ w : World, w.process = p → (∃ s, Up w s) ∨ Down w

/-- What is known of a device depends on the process alone. -/
theorem Process.Inv.of_world {w : World} (hw : (∃ s, Up w s) ∨ Down w) : w.process.Inv := by
  refine ⟨(fun h => by cases h), fun v hv => ?_⟩
  have hcfg : v.cfg = w.cfg := Option.some.inj (congrArg Process.obj hv)
  have hhist : v.hist = w.hist := congrArg Process.hist hv
  rcases hw with ⟨s, hup⟩ | hdown
  · exact .inl ⟨s, hcfg ▸ hup.started, hcfg ▸ hup.nonneg, hcfg ▸ hup.ifname,
      hcfg ▸ hhist ▸ hup.owns, hcfg ▸ hhist ▸ hup.named⟩
  · exact .inr ⟨hcfg ▸ hdown.started, hcfg ▸ hdown.devHandle, hcfg ▸ hhist ▸ hdown.owns⟩

theorem Process.Inv.of_none {hist : List Event} (h : Owns [] (ledger hist)) :
    Process.Inv ⟨none, hist⟩ :=
  ⟨fun _ => h, fun w hw => by cases congrArg Process.obj hw⟩

theorem Process.Inv.start {w w' : World} {ifname : Option CStr} {fallback : Bool} {r : Int}
    (hp : w.process.Inv) (hnone : w.cfg.ifname = none)
    (hr : Reaches osEnv (tapcfgStart ifname fallback, w) (.ret r, w')) : Started r w' := by
  rcases hp.2 w rfl with ⟨s, hup⟩ | hdown
  · rw [hup.ifname] at hnone
    cases hnone
  · exact ((sat_tapcfgStart ifname fallback hdown hnone).reaches hr).2

/-- The name of an object is on the heap. -/
theorem Process.Inv.name_held {w : World} {s : Str} (hp : w.process.Inv)
    (hname : w.cfg.ifname = some s) : .name s.ptr ∈ held (ledger w.hist) := by
  rcases hp.2 w rfl with ⟨s', hup⟩ | hdown
  · cases hup.ifname.symm.trans hname
    exact hup.owns.exact.mem_iff.mpr (by simp)
  · refine hdown.owns.exact.mem_iff.mpr ?_
    rw [hname]
    simp [names]

theorem Process.Inv.step (hp : p.Inv) (hs : CallsUnnamed p p') : p'.Inv := by
  obtain ⟨c, r, hs, hcond⟩ := hs
  cases hs with
  | init hobj =>
      rcases hobj with rfl | rfl
      · exact hp
      · exact .of_world (w := ⟨tapcfgInit, ⟨false, none⟩, [], _, []⟩) (.inr ⟨rfl, rfl, hp.1 rfl⟩)
  | start hr =>
      rcases hp.start (hcond _ rfl) hr with ⟨-, hup⟩ | ⟨-, hdown⟩
      · exact .of_world (.inl hup)
      · exact .of_world (.inr hdown)
  | stop hr => exact .of_world (.inr ((sat_tapcfgStop (hp.2 _ rfl)).reaches hr).2)
  | destroy hr => exact .of_none ((sat_tapcfgDestroy (hp.2 _ rfl)).reaches hr).2
  | destroyNull => exact hp

theorem Up.sound {w : World} {s : Str} (hw : Up w s) : Sound w.process where
  running cfg hcfg := by
    cases hcfg
    have hheld : ∀ r ∈ [.handle w.cfg.devHandle.toNat, .name s.ptr], r ∈ held (ledger w.hist) :=
      fun r hr => hw.owns.exact.mem_iff.mpr hr
    refine iff_of_true hw.started ⟨⟨hw.nonneg, hheld _ (by simp)⟩, s, hw.ifname, ?_, hw.named⟩
    exact hheld _ (by simp)
  released h := by cases h
  once := hw.owns.settles

theorem Down.sound {w : World} (hw : Down w) : Sound w.process where
  running cfg hcfg := by
    cases hcfg
    refine iff_of_false (by simp [hw.started]) fun h => ?_
    have hnonneg := h.1.1
    rw [hw.devHandle] at hnonneg
    exact absurd hnonneg (by decide)
  released h := by cases h
  once := hw.owns.settles

theorem Process.Inv.sound (hp : p.Inv) : Sound p := by
  obtain ⟨obj, hist⟩ := p
  cases obj with
  | none =>
      refine ⟨(fun cfg h => by cases h), fun _ => ?_, (hp.1 rfl).settles⟩
      exact List.perm_nil.mp (hp.1 rfl).exact
  | some cfg =>
      rcases hp.2 ⟨cfg, ⟨false, none⟩, [], hist, []⟩ rfl with ⟨s, hup⟩ | hdown
      · exact hup.sound
      · exact hdown.sound

/-- What a start that fails leaves of a started device. -/
def KeepsStarted (p p' : Process) : Prop :=
  ∀ cfg, p.obj = some cfg → cfg.started = true → ∃ cfg', p'.obj = some cfg' ∧
    cfg'.started = true ∧ cfg'.ifname = cfg.ifname ∧ cfg'.devHandle = cfg.devHandle

/-- In every run in which a start is made only on an object without a name, the process
is sound between any two calls, and a start that fails keeps a started device.  A start on
an object with a name leaves that name on the heap, and nothing points to it. -/
theorem adapter_sound (h : Runs (· = Process.empty) CallsUnnamed p) :
    Sound p ∧ ∀ ifname fallback r p', ApiStep p (.start ifname fallback) r p' →
      (StartsUnnamed p (.start ifname fallback) → r ≠ 0 → KeepsStarted p p') ∧
      ∀ cfg s, p.obj = some cfg → cfg.ifname = some s →
        .name s.ptr ∈ held (ledger p'.hist) ∧
          ∀ cfg', p'.obj = some cfg' → cfg'.ifname ≠ some s := by
  have hinv : p.Inv := h.invariant (fun p hp => hp ▸ .of_none .nil) fun p p' hp hs => hp.step hs
  refine ⟨hinv.sound, fun ifname fallback r p' hs => ⟨fun hcond hfailed cfg hcfg hup => ?_,
    fun cfg s hcfg hname => ?_⟩⟩
  · cases hs with
    | start hr =>
        -- a started device has a name
        cases hcfg
        rcases hinv.2 _ rfl with ⟨s, hup'⟩ | hdown
        · cases hup'.ifname.symm.trans (hcond _ rfl)
        · cases hup.symm.trans hdown.started
  · cases hs with
    | start hr =>
        cases hcfg
        obtain ⟨hheld, hne⟩ := ((sat_tapcfgStart_named _ _ (hinv.name_held hname)).reaches hr).2
        refine ⟨hheld, fun cfg' hcfg' => ?_⟩
        cases hcfg'
        exact hne

end

/-! ## Runs against a system that grants every call -/

/-- The registry, what the next read gives at once, and what comes while it is waited for. -/
structure Supply where
  registry : Registry
  atOnce : Option (List Byte) := none
  arriving : Option (List Byte) := none
  deriving DecidableEq, Repr

def Resource.index : Resource → Nat
  | .handle n => n
  | .name ptr => ptr

/-- A number that is no handle and no pointer yet. -/
def nextIndex (hist : List Event) : Nat := ((held (ledger hist)).map Resource.index).foldr max 0 + 1

theorem nextIndex_fresh {hist : List Event} {r : Resource} (hr : r.index = nextIndex hist) :
    r ∉ held (ledger hist) := by
  intro hmem
  have hle : r.index ≤ ((held (ledger hist)).map Resource.index).foldr max 0 :=
    List.le_max_of_le' 0 (List.mem_map_of_mem hmem) (Nat.le_refl _)
  unfold nextIndex at hr
  omega

/-- A read that is asked for. -/
def Supply.readFile (s : Supply) (w : World) (n : Nat) : ReadFileAns × World :=
  match s.atOnce with
  | some bs =>
      (.done (bs.take n).length, { w.issue with
        cfg := { w.cfg with inbuf := splice w.cfg.inbuf 0 (bs.take n) }
        overlapped := { signaled := true, result := some (bs.take n) }
        log := w.issue.log ++ [.ended, .took (bs.take n)] })
  | none => (.pending, w.issue)

/-- The request ends, when there is one and something comes. -/
def Supply.arrive (s : Supply) (w : World) : World :=
  match s.arriving with
  | some bs =>
      if 0 < outstanding w.log then
        { w with
          cfg := { w.cfg with inbuf := splice w.cfg.inbuf 0 (bs.take tapcfgBufsize) }
          overlapped := { signaled := true, result := some (bs.take tapcfgBufsize) }
          log := w.log ++ [.ended] }
      else w
  | none => w

/-- A read that is waited for; without an end of it the waiting ends when it must not be
infinite, and else fails. -/
def Supply.wait (s : Supply) (w : World) (timeout : Nat) : WaitAns × World :=
  let w' := s.arrive w.await
  if w'.overlapped.signaled then
    (.object0, { w' with overlapped := { w'.overlapped with signaled := false } })
  else if timeout = infinite then (.failed, w') else (.timeout, w')

/-- What a read has given. -/
def result (w : World) : Option Nat × World :=
  match w.overlapped.result with
  | some bs =>
      if outstanding w.log = 0 then (some bs.length, { w with log := w.log ++ [.took bs] })
      else (none, w)
  | none => (none, w)

def Supply.act (s : Supply) (w : World) : (c : Call) → c.Ans × World
  | .registry => (s.registry, w)
  | .strdup _ => (some (nextIndex w.hist), w)
  | .free _ => ((), w)
  | .createFile _ => ((nextIndex w.hist : Int), w)
  | .getVersion _ => (some (9, 8), w)
  | .getMac _ => (some [0, 0xff, 1, 2, 3, 4], w)
  | .closeHandle _ => ((), w)
  | .readFile _ n => s.readFile w n
  | .waitForSingleObject timeout => s.wait w timeout
  | .getOverlappedResult _ => result w

/-- That system. -/
def supplying (s : Supply) : Responder World Call Call.Ans := fun w c =>
  let answered := s.act w c
  (answered.1, { answered.2 with hist := answered.2.hist ++ [⟨c, answered.1⟩] })

theorem Supply.readFile_reads (s : Supply) (w : World) (n : Nat) :
    ReadsFile w n (s.readFile w n).1 (s.readFile w n).2 := by
  unfold Supply.readFile
  cases s.atOnce with
  | none => exact .pending
  | some bs => exact .done _ (List.length_take_le _ _)

theorem Supply.arrive_lapses (s : Supply) (w : World) : Lapses w (s.arrive w) := by
  unfold Supply.arrive
  cases s.arriving with
  | none => exact .refl
  | some bs =>
      by_cases hout : 0 < outstanding w.log
      · simp only [if_pos hout]
        exact .single (.delivered _ hout (List.length_take_le _ _))
      · simp only [if_neg hout]
        exact .refl

theorem Supply.wait_waits (s : Supply) (w : World) (timeout : Nat) :
    WaitsFor w timeout (s.wait w timeout).1 (s.wait w timeout).2 := by
  have hl := s.arrive_lapses w.await
  unfold Supply.wait
  dsimp only
  split
  · exact .object0 hl ‹_›
  · split
    · exact .failed hl
    · exact .timeout hl ‹_›

theorem result_gets (w : World) : GetsResult w (result w).1 (result w).2 := by
  unfold result
  cases hresult : w.overlapped.result with
  | none => exact .failed
  | some bs =>
      by_cases hout : outstanding w.log = 0
      · simp only [if_pos hout]
        exact .done hout hresult
      · simp only [if_neg hout]
        exact .failed

theorem supplying_follows (s : Supply) : Follows (supplying s) osEnv := by
  intro w c
  refine ⟨w, (s.act w c).2, .refl, ?_, ?_, .refl⟩
  · cases c with
    | strdup text =>
        rintro p ⟨⟩
        exact nextIndex_fresh rfl
    | createFile path => exact .inr ⟨Int.natCast_nonneg _, nextIndex_fresh rfl⟩
    | registry => trivial
    | free ptr => trivial
    | getVersion h => trivial
    | getMac h => trivial
    | closeHandle h => trivial
    | readFile h n => trivial
    | waitForSingleObject timeout => trivial
    | getOverlappedResult h => trivial
  · cases c with
    | readFile h n => exact s.readFile_reads w n
    | waitForSingleObject timeout => exact s.wait_waits w timeout
    | getOverlappedResult h => exact result_gets w
    | registry => exact rfl
    | strdup text => exact rfl
    | free ptr => exact rfl
    | createFile path => exact rfl
    | getVersion h => exact rfl
    | getMac h => exact rfl
    | closeHandle h => exact rfl

/-- A registry with one adapter. -/
def oneAdapter : Registry where
  taps := ["{1}".toList]
  panel := [{ name := "tap".toList, guid := "{1}".toList }]

/-- A new object. -/
def initialWorld : World := ⟨tapcfgInit, ⟨false, none⟩, [], [], []⟩

def afterStart (s : Supply) (w : World) : World :=
  ((tapcfgStart none false).run (supplying s) w).2

def afterStop (w : World) : World := (tapcfgStop.run (supplying ⟨oneAdapter, none, none⟩) w).2

def afterDestroy (w : World) : World :=
  (tapcfgDestroy.run (supplying ⟨oneAdapter, none, none⟩) w).2

section

variable {s : Supply} {w : World}

theorem start_calls {r : Int} (hrun : ((tapcfgStart none false).run (supplying s) w).1 = .ok r) :
    ApiStep w.process (.start none false) r (afterStart s w).process :=
  .start (reaches_run (supplying_follows s) (Prod.ext hrun rfl))

theorem stop_calls (hrun : (tapcfgStop.run (supplying ⟨oneAdapter, none, none⟩) w).1 = .ok ()) :
    ApiStep w.process .stop 0 (afterStop w).process :=
  .stop (reaches_run (supplying_follows _) (Prod.ext hrun rfl))

theorem destroy_calls
    (hrun : (tapcfgDestroy.run (supplying ⟨oneAdapter, none, none⟩) w).1 = .ok ()) :
    ApiStep w.process .destroy 0 ⟨none, (afterDestroy w).hist⟩ :=
  .destroy (reaches_run (supplying_follows _) (Prod.ext hrun rfl))

end

/-- The world after a start that finds one adapter. -/
def startedWorld : World := afterStart ⟨oneAdapter, none, none⟩ initialWorld

theorem startedWorld_runs (calls : Process → Process → Prop)
    (hcalls : ∀ p c r p', ApiStep p c r p' → (∀ cfg, p.obj = some cfg → cfg.ifname = none) →
      calls p p') :
    Runs (· = Process.empty) calls startedWorld.process := by
  have hempty : Runs (· = Process.empty) calls .empty := .start rfl
  have hinit : calls .empty initialWorld.process :=
    hcalls _ .init 0 _ (.init (.inr rfl)) fun cfg h => by cases h
  have hstart : calls initialWorld.process startedWorld.process := by
    refine hcalls _ _ 0 _ (start_calls (by decide +kernel)) fun cfg h => ?_
    cases h
    rfl
  exact (hempty.next hinit).next hstart

/-- A start and a destroy. -/
theorem adapter_sound_destroyed :
    ∃ p : Process, p.hist.length = 7 ∧ p.obj = none ∧ Sound p := by
  have hup : Runs (· = Process.empty) CallsUnnamed startedWorld.process := by
    refine startedWorld_runs _ fun p c r p' hs hnone => ⟨c, r, hs, ?_⟩
    cases c with
    | start ifname fallback => exact hnone
    | init => trivial
    | stop => trivial
    | destroy => trivial
  have hdown := hup.next ⟨.destroy, 0, destroy_calls (by decide +kernel), trivial⟩
  exact ⟨_, by decide +kernel, rfl, (adapter_sound hdown).1⟩

/-- The world after a start on a started device that finds no adapter. -/
def renamedWorld : World := afterStart ⟨⟨[], []⟩, none, none⟩ startedWorld

/-- The world after a start, a stop and a second start. -/
def restartedWorld : World := afterStart ⟨oneAdapter, none, none⟩ (afterStop startedWorld)

/-- A start that fails on a started device leaves it without its name; and after a stop and
a second start the first name is never released. -/
theorem adapter_forgotten :
    (∃ p p', Runs (· = Process.empty) Calls p ∧ ApiStep p (.start none false) (-1) p' ∧
      (∃ cfg, p.obj = some cfg ∧ cfg.started = true ∧ cfg.ifname.isSome = true) ∧
      (∃ cfg, p'.obj = some cfg ∧ cfg.started = true ∧ cfg.ifname = none) ∧
      ¬ KeepsStarted p p' ∧ ¬ Sound p') ∧
    (∃ p, Runs (· = Process.empty) Calls p ∧ p.obj = none ∧ held (ledger p.hist) ≠ []) := by
  have hup : Runs (· = Process.empty) Calls startedWorld.process :=
    startedWorld_runs _ fun p c r p' hs _ => ⟨c, r, hs⟩
  have hnone : renamedWorld.cfg.ifname = none := by decide +kernel
  have hstarted : renamedWorld.cfg.started = true := by decide +kernel
  constructor
  · refine ⟨startedWorld.process, renamedWorld.process, hup, start_calls (by decide +kernel),
      ⟨_, rfl, by decide +kernel, by decide +kernel⟩, ⟨_, rfl, hstarted, hnone⟩, fun hkeeps => ?_,
      fun hsound => ?_⟩
    · obtain ⟨cfg', hcfg', -, hname, -⟩ := hkeeps _ rfl (by decide +kernel)
      cases hcfg'
      exact absurd hname (by decide +kernel)
    · obtain ⟨-, s, hs, -⟩ := (hsound.running _ rfl).mp hstarted
      cases hs.symm.trans hnone
  · have hstop := hup.next ⟨.stop, 0, stop_calls (by decide +kernel)⟩
    have hstart : Runs (· = Process.empty) Calls restartedWorld.process :=
      hstop.next ⟨.start none false, 0, start_calls (by decide +kernel)⟩
    have hdestroy := hstart.next ⟨.destroy, 0, destroy_calls (by decide +kernel)⟩
    exact ⟨_, hdestroy, rfl, by decide +kernel⟩

end TapCfg.Windows
