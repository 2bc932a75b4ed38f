/-
  Windows/Adapters.lean --- `tapcfg_fixup_adapters`: which adapter is meant.

  Source: src/lib/tapcfg_windows_fixup.h, lines 269-355.

  `reg.taps` are the GUIDs of the TAP adapters and `reg.panel` the connections
  of the control panel; an adapter is valid when it has one connection and no
  other adapter has its GUID.
-/
import TapCfg.Windows.Types

set_option autoImplicit false

namespace TapCfg.Windows

open TapCfg.Foundation
open Prog hiding ret

/-- `strcasecmp(a, b) == 0` -/
def strcaseeq (a b : CStr) : Bool := a.map Char.toLower == b.map Char.toLower

theorem strcaseeq_refl (a : CStr) : strcaseeq a a = true := beq_self_eq_true _

/-- `adapter`, `found` and `valid`; the counters are `unsigned int`, which fewer than `2 ^ 32`
connections and adapters do not wrap around. -/
structure Scan where
  adapter : Option PanelReg
  found : Nat
  valid : Nat
  deriving DecidableEq, Repr

/-- One connection, for the adapter `guid`; with `links`. -/
def scanLink (ifname guid : CStr) (s : Scan × Nat) (pr : PanelReg) : Scan × Nat :=
  if guid = pr.guid then
    -- If we haven't found adapter with a correct name yet
    -- then we should mark this adapter as a candidate
    let adapter := if s.1.found = 0 then some pr else s.1.adapter
    let found := if strcaseeq ifname pr.name then s.1.found + 1 else s.1.found
    ({ s.1 with adapter := adapter, found := found }, s.2 + 1)
  else s

/-- One adapter. -/
def scanTap (ifname : CStr) (reg : Registry) (s : Scan) (tr : CStr × Nat) : Scan :=
  let linked := reg.panel.foldl (scanLink ifname tr.1) (s, 0)
  let duplicate := reg.taps.zipIdx.any fun iterator => tr.2 ≠ iterator.2 && tr.1 = iterator.1
  if linked.2 = 1 && !duplicate then { linked.1 with valid := linked.1.valid + 1 } else linked.1

/-- The loop over the adapters. -/
def scan (ifname : CStr) (reg : Registry) : Scan :=
  reg.taps.zipIdx.foldl (scanTap ifname reg) { adapter := none, found := 0, valid := 0 }

/-- The name and the GUID of the adapter that is used. -/
def chosen (ifname : CStr) (fallback : Bool) (s : Scan) : Option (CStr × CStr) :=
  if s.found = 1 ∧ 1 ≤ s.valid then s.adapter.map fun adapter => (ifname, adapter.guid)
  else if s.found = 0 ∧ s.valid = 1 ∧ fallback = true then
    s.adapter.map fun adapter => (adapter.name, adapter.guid)
  else none

/-- `tapcfg_fixup_adapters`: the name, and the GUID. -/
def tapcfgFixupAdapters (ifname : CStr) (fallback : Bool) : Io (Option Str × CStr) := do
  let reg ← registry
  match chosen ifname fallback (scan ifname reg) with
  | none => return (none, [])
  | some (name, guid) =>
      let ptr ← strdup name
      return (ptr.map fun ptr => { ptr := ptr, text := name }, guid)

/-! ## The adapter that is used -/

section

variable {ifname guid : CStr} {reg : Registry} {s : Scan}

/-- The candidate is a connection, and once a name was found it has that name. -/
structure Scan.Candidate (ifname : CStr) (reg : Registry) (s : Scan) : Prop where
  mem : ∀ adapter, s.adapter = some adapter → adapter ∈ reg.panel
  found : s.found ≠ 0 → ∃ adapter, s.adapter = some adapter ∧ strcaseeq ifname adapter.name = true

theorem scanLink_candidate {pr : PanelReg} (links : Nat) (hs : s.Candidate ifname reg)
    (hpr : pr ∈ reg.panel) : (scanLink ifname guid (s, links) pr).1.Candidate ifname reg := by
  unfold scanLink
  split
  · refine ⟨fun adapter h => ?_, fun hfound => ?_⟩
    · by_cases hnone : s.found = 0
      · simp only [hnone, if_pos] at h
        cases h
        exact hpr
      · simp only [hnone, if_false] at h
        exact hs.mem adapter h
    · by_cases hnone : s.found = 0
      · cases hname : strcaseeq ifname pr.name with
        | true => exact ⟨pr, by simp [hnone], hname⟩
        | false => simp [hnone, hname] at hfound
      · obtain ⟨adapter, h, hname⟩ := hs.found hnone
        exact ⟨adapter, by simp [hnone, h], hname⟩
  · exact hs

theorem foldl_scanLink_candidate {panel : List PanelReg} (hpanel : ∀ pr ∈ panel, pr ∈ reg.panel)
    (links : Nat) (hs : s.Candidate ifname reg) :
    (panel.foldl (scanLink ifname guid) (s, links)).1.Candidate ifname reg := by
  induction panel generalizing s links with
  | nil => exact hs
  | cons pr panel ih =>
      rw [List.foldl_cons]
      exact ih (fun pr h => hpanel pr (List.mem_cons_of_mem _ h)) _
        (scanLink_candidate links hs (hpanel pr List.mem_cons_self))

theorem scanTap_candidate (tr : CStr × Nat) (hs : s.Candidate ifname reg) :
    (scanTap ifname reg s tr).Candidate ifname reg := by
  have hlinks : (reg.panel.foldl (scanLink ifname tr.1) (s, 0)).1.Candidate ifname reg :=
    foldl_scanLink_candidate (fun _ h => h) 0 hs
  unfold scanTap
  dsimp only
  split
  · exact ⟨hlinks.mem, hlinks.found⟩
  · exact hlinks

theorem scan_candidate (ifname : CStr) (reg : Registry) :
    (scan ifname reg).Candidate ifname reg := by
  have hfold : ∀ (taps : List (CStr × Nat)) (s : Scan), s.Candidate ifname reg →
      (taps.foldl (scanTap ifname reg) s).Candidate ifname reg := by
    intro taps
    induction taps with
    | nil => exact fun _ hs => hs
    | cons tr taps ih => exact fun s hs => ih _ (scanTap_candidate tr hs)
  exact hfold _ _ ⟨(fun _ h => by cases h), fun h => absurd rfl h⟩

/-- The name that is used is, but for upper and lower case, that of a connection with the
GUID that is used. -/
theorem chosen_names {fallback : Bool} {name guid : CStr}
    (h : chosen ifname fallback (scan ifname reg) = some (name, guid)) :
    ∃ pr ∈ reg.panel, pr.guid = guid ∧ strcaseeq name pr.name = true := by
  have hscan := scan_candidate ifname reg
  unfold chosen at h
  split at h
  · rename_i hfound
    obtain ⟨adapter, hadapter, hname⟩ := hscan.found (by omega)
    rw [hadapter] at h
    cases h
    exact ⟨adapter, hscan.mem adapter hadapter, rfl, hname⟩
  · split at h
    · obtain ⟨adapter, hadapter, heq⟩ := Option.map_eq_some_iff.mp h
      cases heq
      exact ⟨adapter, hscan.mem adapter hadapter, rfl, strcaseeq_refl _⟩
    · cases h

end

end TapCfg.Windows
