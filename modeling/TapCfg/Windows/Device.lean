/-
  Windows/Device.lean --- `tapcfg_init`, `tapcfg_start`, `tapcfg_stop` and
  `tapcfg_destroy` on Windows, and what each of them does with the handle and
  the name.

  Source: src/lib/tapcfg_windows.c, lines 65-227.

  A start writes the name into the object before anything else is known to
  succeed, and does not look at `started` or at the name that was there.  The
  name is released by `tapcfg_destroy` alone, the handle by `tapcfg_stop`.
-/
import TapCfg.Windows.Adapters
import TapCfg.Windows.Reading

set_option autoImplicit false

namespace TapCfg.Windows

open TapCfg.Foundation
open Prog hiding ret

/-- `tapcfg_init`, when there is memory: the object is cleared first. -/
def tapcfgInit : Tapcfg where
  started := false
  status := 0
  devHandle := invalidHandleValue
  ifname := none
  hwaddr := List.replicate 6 0
  reading := false
  inbuf := List.replicate tapcfgBufsize 0
  inbuflen := 0

/-- `TAP_DEVICE_DIR` -/
def tapDeviceDir : CStr := "\\\\.\\Global\\".toList

/-- `tapname`, for an adapter; it has room for 1023 characters with the NUL. -/
def tapname (adapterid : CStr) : CStr := (tapDeviceDir ++ adapterid ++ ".tap".toList).take 1022

/-- Close a device that has just been opened. -/
def closeNew (devHandle : Int) : Io Int := do
  closeHandle devHandle
  return invalidHandleValue

/-- The check of the version of the driver, which is at least 9.8. -/
def checkVersion (devHandle : Int) : Io Int := do
  if devHandle = invalidHandleValue then return devHandle
  let info ← getVersion devHandle
  match info with
  | none => closeNew devHandle
  | some (major, minor) =>
      if major < 9 ∨ (major = 9 ∧ minor < 8) then closeNew devHandle else return devHandle

/-- The query for the MAC address; it tells whether it has failed. -/
def queryMac (devHandle : Int) : Io Bool := do
  if devHandle = invalidHandleValue then return false
  let mac ← getMac devHandle
  match mac with
  | none =>
      closeHandle devHandle
      return true
  | some mac =>
      modify fun cfg => { cfg with hwaddr := mac }
      return false

/-- The part of `tapcfg_start` that opens the device of an adapter. -/
def openAdapter (adapterid : CStr) : Io Int := do
  let devHandle ← createFile (tapname adapterid)
  let devHandle ← checkVersion devHandle
  let failed ← queryMac devHandle
  if failed then return -1
  if devHandle = invalidHandleValue then return -1
  modify fun cfg => { cfg with devHandle := devHandle, started := true, status := 0 }
  return 0

/-- `tapcfg_start` -/
def tapcfgStart (ifname : Option CStr) (fallback : Bool) : Io Int := do
  let found ← tapcfgFixupAdapters (ifname.getD []) (fallback || ifname.isNone)
  modify fun cfg => { cfg with ifname := found.1 }
  if found.1 = none then return -1
  openAdapter found.2

/-- `tapcfg_stop` -/
def tapcfgStop : Io Unit := do
  let w ← load
  if w.cfg.started then
    if w.cfg.devHandle ≠ invalidHandleValue then
      closeHandle w.cfg.devHandle
      modify fun cfg => { cfg with devHandle := invalidHandleValue }
    modify fun cfg => { cfg with started := false, status := 0 }

/-- `free(tapcfg->ifname)` -/
def freeIfname : Io Unit := do
  let w ← load
  match w.cfg.ifname with
  | none => return ()
  | some name => free name.ptr

/-- `tapcfg_destroy`, on an object -/
def tapcfgDestroy : Io Unit := do
  tapcfgStop
  freeIfname

/-! ## The handle and the name -/

/-- What has been read of the registry last, and the connections of the devices as they
were when the devices were opened. -/
structure Lookups where
  registry : Registry
  opened : Int → List CStr

/-- The names of the connections whose device has the path. -/
def namesAt (reg : Registry) (path : CStr) : List CStr :=
  (reg.panel.filter fun pr => tapname pr.guid = path).map PanelReg.name

/-- A device is opened. -/
def Lookups.openAt (l : Lookups) (path : CStr) (devHandle : Int) : Lookups :=
  { l with opened := fun h => if h = devHandle then namesAt l.registry path else l.opened h }

def Lookups.note (l : Lookups) : Event → Lookups
  | ⟨.registry, reg⟩ => { l with registry := reg }
  | ⟨.createFile path, devHandle⟩ => l.openAt path devHandle
  | _ => l

def lookups (hist : List Event) : Lookups :=
  hist.foldl Lookups.note { registry := { taps := [], panel := [] }, opened := fun _ => [] }

/-- The names of the interface that the device handle is of. -/
def interfaceNames (hist : List Event) (h : Int) : List CStr := (lookups hist).opened h

/-- The string is, but for upper and lower case, a name of the interface that the device
handle is of. -/
def Named (hist : List Event) (h : Int) (s : Str) : Prop :=
  ∃ name ∈ interfaceNames hist h, strcaseeq s.text name = true

/-- A device handle that is open. -/
def HandleOpen (hist : List Event) (h : Int) : Prop :=
  0 ≤ h ∧ .handle h.toNat ∈ held (ledger hist)

/-- The string is on the heap, and a name of the interface. -/
def NameCurrent (hist : List Event) (h : Int) (s : Str) : Prop :=
  .name s.ptr ∈ held (ledger hist) ∧ Named hist h s

/-! ## The calls the functions make -/

section

variable {w : World}

theorem lookups_concat (hist : List Event) (e : Event) :
    lookups (hist ++ [e]) = (lookups hist).note e := by
  simp [lookups]

/-- What the calls of a start and a stop leave of the object. -/
structure Steady (w w' : World) : Prop where
  started : w'.cfg.started = w.cfg.started
  devHandle : w'.cfg.devHandle = w.cfg.devHandle
  ifname : w'.cfg.ifname = w.cfg.ifname

theorem Steady.refl (w : World) : Steady w w := ⟨rfl, rfl, rfl⟩

theorem Steady.trans {w₁ w₂ w₃ : World} (h : Steady w₁ w₂) (h' : Steady w₂ w₃) : Steady w₁ w₃ :=
  ⟨h'.started.trans h.started, h'.devHandle.trans h.devHandle, h'.ifname.trans h.ifname⟩

theorem Drift.steady {w' : World} (h : Drift w w') : Steady w w' := by
  have hcfg := h.cfg
  exact ⟨by rw [hcfg], by rw [hcfg], by rw [hcfg]⟩

theorem Acts.steady {c : Call} {a : c.Ans} {w' : World} (h : Acts w c a w') :
    Steady w w' ∧ w'.hist = w.hist := by
  cases c with
  | readFile p n => cases (show ReadsFile w n a w' from h) <;> exact ⟨⟨rfl, rfl, rfl⟩, rfl⟩
  | waitForSingleObject timeout =>
      have hlapsed : ∀ {v : World}, Lapses w.await v → Steady w v ∧ v.hist = w.hist := by
        intro v hl
        have hdrift := drift_of_lapses hl
        exact ⟨⟨hdrift.steady.started, hdrift.steady.devHandle, hdrift.steady.ifname⟩, hdrift.hist⟩
      cases (show WaitsFor w timeout a w' from h) with
      | object0 hl hset =>
          obtain ⟨hs, hh⟩ := hlapsed hl
          exact ⟨⟨hs.started, hs.devHandle, hs.ifname⟩, hh⟩
      | timeout hl hfinite => exact hlapsed hl
      | failed hl => exact hlapsed hl
  | getOverlappedResult p =>
      cases (show GetsResult w a w' from h) <;> exact ⟨⟨rfl, rfl, rfl⟩, rfl⟩
  | registry => cases (show w' = w from h); exact ⟨.refl _, rfl⟩
  | strdup text => cases (show w' = w from h); exact ⟨.refl _, rfl⟩
  | free ptr => cases (show w' = w from h); exact ⟨.refl _, rfl⟩
  | createFile path => cases (show w' = w from h); exact ⟨.refl _, rfl⟩
  | getVersion p => cases (show w' = w from h); exact ⟨.refl _, rfl⟩
  | getMac p => cases (show w' = w from h); exact ⟨.refl _, rfl⟩
  | closeHandle p => cases (show w' = w from h); exact ⟨.refl _, rfl⟩

/-- What every call leaves of the object, and its place in the history. -/
theorem osEnv_steady {c : Call} {a : c.Ans} {w' : World} (h : osEnv w c a w') :
    Steady w w' ∧ w'.hist = w.hist ++ [⟨c, a⟩] := by
  obtain ⟨w₁, w₂, hl, -, hacts, hl'⟩ := h
  obtain ⟨hs, hh⟩ := Acts.steady hacts
  have hdrift := drift_of_lapses hl
  have hdrift' := drift_of_lapses hl'
  have hsteady' : Steady w₂ w' :=
    ⟨hdrift'.steady.started, hdrift'.steady.devHandle, hdrift'.steady.ifname⟩
  refine ⟨(hdrift.steady.trans hs).trans hsteady', ?_⟩
  rw [hdrift'.hist]
  show w₂.hist ++ _ = _
  rw [hh, hdrift.hist]

/-- The rule for a call. -/
theorem sat_call {c : Call} {Q : c.Ans → World → Prop} {F : Fault → World → Prop}
    (hQ : ∀ a w', Credible w.hist ⟨c, a⟩ → Steady w w' → w'.hist = w.hist ++ [⟨c, a⟩] → Q a w') :
    Sat osEnv (fun _ => True) Q F (.call c .ret) w := by
  refine ⟨trivial, fun a w' henv => ⟨trivial, ?_⟩⟩
  have hsteady := osEnv_steady henv
  obtain ⟨w₁, w₂, -, hcredible, -, -⟩ := henv
  exact hQ a w' hcredible hsteady.1 hsteady.2

/-- A call that acquires and releases nothing. -/
theorem owns_call {rs : List Resource} {hist : List Event} {e : Event} (h : Owns rs (ledger hist))
    (he : entry e = none) : Owns rs (ledger (hist ++ [e])) := by
  rw [ledger_concat, he]
  simpa using h

/-- A handle is released. -/
theorem owns_close {rs : List Resource} {hist : List Event} {h : Int}
    (ho : Owns (.handle h.toNat :: rs) (ledger hist)) (hnonneg : 0 ≤ h) :
    Owns rs (ledger (hist ++ [⟨.closeHandle h, ()⟩])) := by
  have he : entry ⟨.closeHandle h, ()⟩ = some (.release (.handle h.toNat)) := if_pos hnonneg
  rw [ledger_concat, he]
  exact ho.release

/-! ## The four calls -/

/-- The name, as what is held. -/
def names (ifname : Option Str) : List Resource := (ifname.map fun s => .name s.ptr).toList

/-- A device that is not started. -/
structure Down (w : World) : Prop where
  started : w.cfg.started = false
  devHandle : w.cfg.devHandle = invalidHandleValue
  owns : Owns (names w.cfg.ifname) (ledger w.hist)

/-- A device that is started. -/
structure Up (w : World) (s : Str) : Prop where
  started : w.cfg.started = true
  nonneg : 0 ≤ w.cfg.devHandle
  ifname : w.cfg.ifname = some s
  owns : Owns [.handle w.cfg.devHandle.toNat, .name s.ptr] (ledger w.hist)
  named : Named w.hist w.cfg.devHandle s

/-- What the lookup of an adapter leaves: the name is one of a connection that has the
GUID in the registry as it was read. -/
structure Found (found : Option Str × CStr) (w : World) : Prop where
  owns : Owns (names found.1) (ledger w.hist)
  listed : ∀ s, found.1 = some s → ∃ pr ∈ (lookups w.hist).registry.panel,
    pr.guid = found.2 ∧ strcaseeq s.text pr.name = true

theorem sat_tapcfgFixupAdapters (ifname : CStr) (fallback : Bool)
    (hw : Owns [] (ledger w.hist)) :
    Sat osEnv (fun _ => True) (fun found w' => Steady w w' ∧ Found found w') (fun _ _ => False)
      (tapcfgFixupAdapters ifname fallback) w := by
  unfold tapcfgFixupAdapters
  refine sat_bind (sat_call fun (reg : Registry) w₁ _ hs₁ hh₁ => ?_)
  have hw₁ : Owns [] (ledger w₁.hist) := by
    rw [hh₁]
    exact owns_call hw rfl
  have hreg : (lookups w₁.hist).registry = reg := by
    rw [hh₁, lookups_concat]
    rfl
  cases hchosen : chosen ifname fallback (scan ifname reg) with
  | none => exact sat_ret trivial ⟨hs₁, hw₁, fun s h => by cases h⟩
  | some found =>
      obtain ⟨name, guid⟩ := found
      refine sat_bind (sat_call fun (ptr : Option Nat) w₂ hnew hs₂ hh₂ => ?_)
      have hreg₂ : (lookups w₂.hist).registry = reg := by
        rw [hh₂, lookups_concat]
        exact hreg
      refine sat_ret trivial ⟨hs₁.trans hs₂, ?_, fun s h => ?_⟩
      · rw [hh₂]
        cases ptr with
        | none => exact owns_call hw₁ rfl
        | some p =>
            rw [ledger_concat]
            exact hw₁.acquire (hnew p rfl)
      · obtain ⟨p, -, rfl⟩ := Option.map_eq_some_iff.mp h
        rw [hreg₂]
        exact chosen_names hchosen

/-- What is held of a device that is being opened: the name, and the handle if there is one. -/
def Opening (s : Str) (h : Int) (w : World) : Prop :=
  (h = invalidHandleValue ∧ Owns [.name s.ptr] (ledger w.hist)) ∨
    (0 ≤ h ∧ Owns [.handle h.toNat, .name s.ptr] (ledger w.hist) ∧ Named w.hist h s)

/-- Other calls leave the names of the interface. -/
theorem named_call {hist : List Event} {e : Event} {h : Int} {s : Str} (hn : Named hist h s)
    (he : ∀ l : Lookups, (l.note e).opened = l.opened) : Named (hist ++ [e]) h s := by
  unfold Named interfaceNames
  rw [lookups_concat, he]
  exact hn

theorem sat_createFile {found : Option Str × CStr} {s : Str} (hfound : Found found w)
    (hs : found.1 = some s) :
    Sat osEnv (fun _ => True) (fun h w' => Steady w w' ∧ Opening s h w') (fun _ _ => False)
      (createFile (tapname found.2)) w := by
  have hname : Owns [.name s.ptr] (ledger w.hist) := by
    have howns := hfound.owns
    rw [hs] at howns
    exact howns
  refine sat_call fun (h : Int) w' hnew hsteady hh => ⟨hsteady, ?_⟩
  rcases hnew with hnone | ⟨hnonneg, hfresh⟩
  · refine .inl ⟨hnone, ?_⟩
    rw [hh]
    refine owns_call hname ?_
    rw [hnone]
    rfl
  · refine .inr ⟨hnonneg, ?_, ?_⟩
    · have he : entry ⟨.createFile (tapname found.2), h⟩ = some (.acquire (.handle h.toNat)) :=
        if_pos hnonneg
      rw [hh, ledger_concat, he]
      exact hname.acquire hfresh
    · obtain ⟨pr, hpr, hguid, hsame⟩ := hfound.listed s hs
      refine ⟨pr.name, ?_, hsame⟩
      have hnames : interfaceNames w'.hist h =
          namesAt (lookups w.hist).registry (tapname found.2) := by
        unfold interfaceNames
        rw [hh, lookups_concat]
        exact if_pos rfl
      rw [hnames]
      refine List.mem_map_of_mem (List.mem_filter.mpr ⟨hpr, ?_⟩)
      rw [hguid]
      exact decide_eq_true rfl

/-- A handle that is closed again. -/
theorem sat_closeNew {s : Str} {h : Int} (hnonneg : 0 ≤ h)
    (hw : Owns [.handle h.toNat, .name s.ptr] (ledger w.hist)) :
    Sat osEnv (fun _ => True) (fun h' w' => Steady w w' ∧ Opening s h' w') (fun _ _ => False)
      (closeNew h) w := by
  refine sat_bind (sat_call fun _ w' _ hsteady hh => ?_)
  refine sat_ret trivial ⟨hsteady, .inl ⟨rfl, ?_⟩⟩
  rw [hh]
  exact owns_close hw hnonneg

theorem sat_checkVersion {s : Str} {h : Int} (hw : Opening s h w) :
    Sat osEnv (fun _ => True) (fun h' w' => Steady w w' ∧ Opening s h' w') (fun _ _ => False)
      (checkVersion h) w := by
  unfold checkVersion
  by_cases hh : h = invalidHandleValue
  · rw [if_pos hh]
    exact sat_ret trivial ⟨.refl w, hw⟩
  · rw [if_neg hh]
    obtain ⟨hnonneg, howns, hnamed⟩ := hw.resolve_left fun hnone => hh hnone.1
    refine sat_bind (sat_call fun (info : Option (Nat × Nat)) w₁ _ hs₁ hh₁ => ?_)
    have howns₁ : Owns [.handle h.toNat, .name s.ptr] (ledger w₁.hist) := by
      rw [hh₁]
      exact owns_call howns rfl
    have hnamed₁ : Named w₁.hist h s := by
      rw [hh₁]
      exact named_call hnamed fun _ => rfl
    have hclose := (sat_closeNew hnonneg howns₁).post
      fun h' w' hpost => (⟨hs₁.trans hpost.1, hpost.2⟩ : Steady w w' ∧ Opening s h' w')
    cases info with
    | none => exact hclose
    | some version =>
        obtain ⟨major, minor⟩ := version
        by_cases hold : major < 9 ∨ (major = 9 ∧ minor < 8)
        · simp only [hold, if_true]
          exact hclose
        · simp only [hold, if_false]
          exact sat_ret trivial ⟨hs₁, .inr ⟨hnonneg, howns₁, hnamed₁⟩⟩

theorem sat_queryMac {s : Str} {h : Int} (hw : Opening s h w) :
    Sat osEnv (fun _ => True)
      (fun failed w' => Steady w w' ∧
        ((failed = true ∧ Owns [.name s.ptr] (ledger w'.hist)) ∨ (failed = false ∧ Opening s h w')))
      (fun _ _ => False) (queryMac h) w := by
  unfold queryMac
  by_cases hh : h = invalidHandleValue
  · rw [if_pos hh]
    exact sat_ret trivial ⟨.refl w, .inr ⟨rfl, hw⟩⟩
  · rw [if_neg hh]
    obtain ⟨hnonneg, howns, hnamed⟩ := hw.resolve_left fun hnone => hh hnone.1
    refine sat_bind (sat_call fun (mac : Option (List Byte)) w₁ _ hs₁ hh₁ => ?_)
    have howns₁ : Owns [.handle h.toNat, .name s.ptr] (ledger w₁.hist) := by
      rw [hh₁]
      exact owns_call howns rfl
    have hnamed₁ : Named w₁.hist h s := by
      rw [hh₁]
      exact named_call hnamed fun _ => rfl
    cases mac with
    | none =>
        refine sat_bind (sat_call fun _ w₂ _ hs₂ hh₂ => ?_)
        refine sat_ret trivial ⟨hs₁.trans hs₂, .inl ⟨rfl, ?_⟩⟩
        rw [hh₂]
        exact owns_close howns₁ hnonneg
    | some mac =>
        refine sat_bind (sat_modify trivial trivial (sat_ret trivial ⟨?_, .inr ⟨rfl, ?_⟩⟩))
        · exact ⟨hs₁.started, hs₁.devHandle, hs₁.ifname⟩
        · exact .inr ⟨hnonneg, howns₁, hnamed₁⟩

/-- What a start leaves when it returns. -/
def Started (r : Int) (w : World) : Prop := (r = 0 ∧ ∃ s, Up w s) ∨ (r = -1 ∧ Down w)

theorem sat_openAdapter {found : Option Str × CStr} {s : Str} (hstarted : w.cfg.started = false)
    (hhandle : w.cfg.devHandle = invalidHandleValue) (hname : w.cfg.ifname = some s)
    (hfound : Found found w) (hs : found.1 = some s) :
    Sat osEnv (fun _ => True) Started (fun _ _ => False) (openAdapter found.2) w := by
  have hdown : ∀ w' : World, Steady w w' → Owns [.name s.ptr] (ledger w'.hist) → Down w' := by
    intro w' hsteady howns
    refine ⟨hsteady.started.trans hstarted, hsteady.devHandle.trans hhandle, ?_⟩
    rw [hsteady.ifname, hname]
    exact howns
  unfold openAdapter
  refine sat_bind ((sat_createFile hfound hs).post ?_)
  rintro h₁ w₁ ⟨hs₁, ho₁⟩
  refine sat_bind ((sat_checkVersion ho₁).post ?_)
  rintro h₂ w₂ ⟨hs₂, ho₂⟩
  refine sat_bind ((sat_queryMac ho₂).post ?_)
  rintro failed w₃ ⟨hs₃, ⟨rfl, howns⟩ | ⟨rfl, ho₃⟩⟩
  · exact sat_ret trivial (.inr ⟨rfl, hdown w₃ ((hs₁.trans hs₂).trans hs₃) howns⟩)
  · have hsteady := (hs₁.trans hs₂).trans hs₃
    rcases ho₃ with ⟨rfl, howns⟩ | ⟨hnonneg, howns, hnamed⟩
    · exact sat_ret trivial (.inr ⟨rfl, hdown w₃ hsteady howns⟩)
    · have hvalid : ¬ h₂ = invalidHandleValue := by
        unfold invalidHandleValue
        omega
      rw [if_neg (by decide), if_neg hvalid]
      refine sat_bind (sat_modify trivial trivial (sat_ret trivial (.inl ⟨rfl, s, ?_⟩)))
      exact ⟨rfl, hnonneg, hsteady.ifname.trans hname, howns, hnamed⟩

theorem sat_tapcfgStart (ifname : Option CStr) (fallback : Bool) (hw : Down w)
    (hnone : w.cfg.ifname = none) :
    Sat osEnv (fun _ => True) Started (fun _ _ => False) (tapcfgStart ifname fallback) w := by
  unfold tapcfgStart
  have howns : Owns [] (ledger w.hist) := by
    have := hw.owns
    rw [hnone] at this
    exact this
  refine sat_bind ((sat_tapcfgFixupAdapters _ _ howns).post ?_)
  rintro found w₁ ⟨hs₁, hfound⟩
  refine sat_bind (sat_modify trivial trivial ?_)
  cases hs : found.1 with
  | none =>
      rw [if_pos rfl]
      refine sat_ret trivial (.inr ⟨rfl, hs₁.started.trans hw.started,
        hs₁.devHandle.trans hw.devHandle, ?_⟩)
      have := hfound.owns
      rw [hs] at this
      exact this
  | some s =>
      rw [if_neg (by simp)]
      exact sat_openAdapter (hs₁.started.trans hw.started) (hs₁.devHandle.trans hw.devHandle) rfl
        ⟨hfound.owns, hfound.listed⟩ hs

theorem sat_tapcfgStop (hw : (∃ s, Up w s) ∨ Down w) :
    Sat osEnv (fun _ => True) (fun _ w' => Down w') (fun _ _ => False) tapcfgStop w := by
  unfold tapcfgStop
  refine sat_bind (sat_load trivial ?_)
  rcases hw with ⟨s, hup⟩ | hdown
  · have hvalid : w.cfg.devHandle ≠ invalidHandleValue := by
      have := hup.nonneg
      unfold invalidHandleValue
      omega
    rw [if_pos hup.started, if_pos hvalid]
    refine sat_bind (sat_call fun _ w₁ _ hs₁ hh₁ => ?_)
    refine sat_bind (sat_modify trivial trivial (sat_modify trivial trivial ⟨rfl, rfl, ?_⟩))
    show Owns (names w₁.cfg.ifname) (ledger w₁.hist)
    rw [hs₁.ifname, hup.ifname, hh₁]
    exact owns_close hup.owns hup.nonneg
  · rw [if_neg (by simp [hdown.started])]
    exact sat_ret trivial hdown

theorem sat_tapcfgDestroy (hw : (∃ s, Up w s) ∨ Down w) :
    Sat osEnv (fun _ => True) (fun _ w' => Owns [] (ledger w'.hist)) (fun _ _ => False)
      tapcfgDestroy w := by
  unfold tapcfgDestroy
  refine sat_seq (sat_tapcfgStop hw) fun _ w₁ hdown => ?_
  unfold freeIfname
  refine sat_bind (sat_load trivial ?_)
  have howns := hdown.owns
  cases hname : w₁.cfg.ifname with
  | none =>
      rw [hname] at howns
      exact sat_ret trivial howns
  | some s =>
      rw [hname] at howns
      refine sat_call fun _ w₂ _ _ hh₂ => ?_
      rw [hh₂, ledger_concat]
      exact howns.release

/-! ## What the functions leave alone -/

/-- Accesses that leave the request and the frame alone. -/
def LeavesRequest (f : World → Except Fault World) : Prop :=
  ∀ w w', f w = .ok w' → w'.cfg.reading = w.cfg.reading ∧ w'.cfg.inbuf = w.cfg.inbuf ∧
    w'.cfg.inbuflen = w.cfg.inbuflen ∧ w'.overlapped = w.overlapped ∧ w'.log = w.log

/-- Accesses that leave the name alone, and what has been called. -/
def LeavesName (f : World → Except Fault World) : Prop :=
  ∀ w w', f w = .ok w' → w'.cfg.ifname = w.cfg.ifname ∧ w'.hist = w.hist

/-- Calls that do not concern the requests. -/
def DeviceCall : Call → Prop
  | .readFile _ _ => False
  | .waitForSingleObject _ => False
  | .getOverlappedResult _ => False
  | _ => True

/-- A call that frees nothing. -/
def FreesNothing : Call → Prop
  | .free _ => False
  | _ => True

/-- A program of the library, by its accesses and its calls. -/
abbrev IoUses {α : Type} (P : (World → Except Fault World) → Prop) (R : Call → Prop) (p : Io α) :
    Prop := Uses P R p

theorem uses_modify {P : (World → Except Fault World) → Prop} {R : Call → Prop}
    {f : Tapcfg → Tapcfg} (hf : P fun w => .ok { w with cfg := f w.cfg }) : IoUses P R (modify f) :=
  uses_update hf

/-- The calls that open a device, and those that close it again. -/
structure Opens (R : Call → Prop) : Prop where
  createFile : ∀ path, R (.createFile path)
  getVersion : ∀ h, R (.getVersion h)
  getMac : ∀ h, R (.getMac h)
  closeHandle : ∀ h, R (.closeHandle h)

section

variable {P : (World → Except Fault World) → Prop} {R : Call → Prop}

theorem uses_closeNew (hR : Opens R) (h : Int) : IoUses P R (closeNew h) :=
  Uses.bind (uses_call (hR.closeHandle h)) fun _ => uses_ret _

theorem uses_checkVersion (hR : Opens R) (h : Int) : IoUses P R (checkVersion h) := by
  unfold checkVersion
  refine Uses.unless ?_
  refine Uses.bind (uses_call (hR.getVersion h)) fun (info : Option (Nat × Nat)) => ?_
  rcases info with - | ⟨major, minor⟩
  · exact uses_closeNew hR h
  · dsimp only
    split
    · exact uses_closeNew hR h
    · exact uses_ret _

theorem uses_queryMac (hR : Opens R) (hmac : ∀ mac, IoUses P R
    (modify fun cfg => { cfg with hwaddr := mac })) (h : Int) : IoUses P R (queryMac h) := by
  unfold queryMac
  refine Uses.unless ?_
  refine Uses.bind (uses_call (hR.getMac h)) fun (mac : Option (List Byte)) => ?_
  cases mac with
  | none => exact Uses.bind (uses_call (hR.closeHandle h)) fun _ => uses_ret _
  | some mac => exact (hmac mac).bind fun _ => uses_ret _

/-- The lookup of an adapter only makes calls. -/
theorem uses_fixupAdapters (hregistry : R .registry) (hstrdup : ∀ text, R (.strdup text))
    (ifname : CStr) (fallback : Bool) : IoUses P R (tapcfgFixupAdapters ifname fallback) := by
  unfold tapcfgFixupAdapters
  refine Uses.bind (uses_call hregistry) fun (reg : Registry) => ?_
  split
  · exact uses_ret _
  · exact Uses.bind (uses_call (hstrdup _)) fun _ => uses_ret _

/-- The opening of a device writes the address, and then the handle with `started`. -/
theorem uses_openAdapter (hR : Opens R)
    (hmac : ∀ mac, IoUses P R (modify fun cfg => { cfg with hwaddr := mac }))
    (hopen : ∀ h, IoUses P R
      (modify fun cfg => { cfg with devHandle := h, started := true, status := 0 }))
    (guid : CStr) : IoUses P R (openAdapter guid) := by
  unfold openAdapter
  refine Uses.bind (uses_call (hR.createFile _)) fun h => ?_
  refine Uses.bind (uses_checkVersion hR _) fun h =>
    Uses.bind (uses_queryMac hR hmac h) fun failed => Uses.unless (Uses.unless ?_)
  exact (hopen h).bind fun _ => uses_ret _

end

/-- What the opening of a device leaves alone. -/
def OpeningUses {α : Type} (p : Io α) : Prop :=
  IoUses (fun f => LeavesRequest f ∧ LeavesName f) (fun c => DeviceCall c ∧ FreesNothing c) p

theorem openAdapter_leaves (guid : CStr) : OpeningUses (openAdapter guid) := by
  have hR : Opens fun c => DeviceCall c ∧ FreesNothing c :=
    ⟨fun _ => ⟨trivial, trivial⟩, fun _ => ⟨trivial, trivial⟩, fun _ => ⟨trivial, trivial⟩,
      fun _ => ⟨trivial, trivial⟩⟩
  refine uses_openAdapter hR (fun mac => uses_modify ⟨?_, ?_⟩) (fun h => uses_modify ⟨?_, ?_⟩) guid
  · rintro w w' ⟨⟩
    exact ⟨rfl, rfl, rfl, rfl, rfl⟩
  · rintro w w' ⟨⟩
    exact ⟨rfl, rfl⟩
  · rintro w w' ⟨⟩
    exact ⟨rfl, rfl, rfl, rfl, rfl⟩
  · rintro w w' ⟨⟩
    exact ⟨rfl, rfl⟩

/-- A start does not concern the requests. -/
theorem uses_tapcfgStart (ifname : Option CStr) (fallback : Bool) :
    IoUses LeavesRequest DeviceCall (tapcfgStart ifname fallback) := by
  unfold tapcfgStart
  refine Uses.bind (uses_fixupAdapters trivial (fun _ => trivial) _ _) fun found =>
    Uses.bind (uses_modify ?_) fun _ => Uses.unless ?_
  · rintro w w' ⟨⟩
    exact ⟨rfl, rfl, rfl, rfl, rfl⟩
  · exact Uses.mono (openAdapter_leaves _) (fun _ h => h.1) fun _ h => h.1

/-- Nor does a stop. -/
theorem uses_tapcfgStop : IoUses LeavesRequest DeviceCall tapcfgStop := by
  have hload : LeavesRequest .ok := by
    rintro w w' ⟨⟩
    exact ⟨rfl, rfl, rfl, rfl, rfl⟩
  have hstop : ∀ f : Tapcfg → Tapcfg, (∀ cfg, (f cfg).reading = cfg.reading ∧
      (f cfg).inbuf = cfg.inbuf ∧ (f cfg).inbuflen = cfg.inbuflen) →
      IoUses LeavesRequest DeviceCall (modify f) := by
    refine fun f hf => uses_modify ?_
    rintro w w' ⟨⟩
    obtain ⟨hreading, hinbuf, hlen⟩ := hf w.cfg
    exact ⟨hreading, hinbuf, hlen, rfl, rfl⟩
  unfold tapcfgStop
  refine Uses.bind (uses_load hload) fun w => ?_
  split
  · dsimp only
    split
    · refine Uses.bind (uses_call trivial) fun _ => Uses.bind (hstop _ ?_) fun _ => hstop _ ?_
      · exact fun _ => ⟨rfl, rfl, rfl⟩
      · exact fun _ => ⟨rfl, rfl, rfl⟩
    · exact hstop _ fun _ => ⟨rfl, rfl, rfl⟩
  · exact uses_ret _

end

end TapCfg.Windows
