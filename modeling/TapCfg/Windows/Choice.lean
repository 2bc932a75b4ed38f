/-
  Windows/Choice.lean --- which adapter `tapcfg_fixup_adapters` decides on.

  Source: src/lib/tapcfg_windows_fixup.h, lines 269-355.

  The triple loop is a walk over the linked connections, adapter by adapter
  (`scan_eq`): `found` counts those with the name, `valid` the valid adapters,
  and `adapter` is the first with the name, or else the last of all.  (The two
  counters are `unsigned int`; here they do not wrap.)  The decision takes
  `valid` of all adapters together for the validity of the one it has found, and
  the last connection for that of the only valid adapter.
  `Clear` is when both come to the same (`adapters_meant_iff`), `Unmixed` when
  the order of the registry does not show (`adapters_ordered_iff`).
-/
import TapCfg.Windows.Device
import Mathlib.Algebra.GroupWithZero.Nat
import Mathlib.Algebra.BigOperators.Group.List.Basic
import Mathlib.Data.List.Perm.Basic

set_option autoImplicit false

namespace TapCfg.Windows

open TapCfg.Foundation
open Prog hiding ret

/-! ## What is meant -/

/-- The connection has the name. -/
def called (ifname : CStr) (pr : PanelReg) : Bool := strcaseeq ifname pr.name

namespace Registry

variable (reg : Registry)

/-- The connections that carry the GUID. -/
def carriers (guid : CStr) : List PanelReg := reg.panel.filter fun pr => guid = pr.guid

/-- The adapter's GUID occurs once among the adapters, and one connection carries it. -/
def valid (guid : CStr) : Bool :=
  decide (reg.taps.count guid = 1) && decide ((reg.carriers guid).length = 1)

/-- The linked connections with the name. -/
def named (ifname : CStr) : List PanelReg :=
  reg.panel.filter fun pr => decide (pr.guid ∈ reg.taps) && called ifname pr

/-- The valid adapters. -/
def validTaps : List CStr := reg.taps.filter reg.valid

/-- The adapters that have a connection. -/
def linkedTaps : List CStr := reg.taps.filter fun guid => !(reg.carriers guid).isEmpty

end Registry

/-- The adapter is meant: the only linked connection with the requested name has
it and it is valid; or no linked connection has the name, another may be taken,
and it is the only valid one. -/
inductive Meant (ifname : CStr) (fallback : Bool) (reg : Registry) : CStr × CStr → Prop where
  | requested {pr : PanelReg} (hname : reg.named ifname = [pr]) (hv : reg.valid pr.guid = true) :
      Meant ifname fallback reg (ifname, pr.guid)
  | instead {pr : PanelReg} (hname : reg.named ifname = []) (hf : fallback = true)
      (hv : reg.validTaps = [pr.guid]) (hpr : pr ∈ reg.panel) :
      Meant ifname fallback reg (pr.name, pr.guid)

/-! ## The walk -/

/-- The connections the loops turn to. -/
def Registry.visited (reg : Registry) : List PanelReg := reg.taps.flatMap reg.carriers

/-- What the loops do with one of them. -/
def look (ifname : CStr) (s : Scan) (pr : PanelReg) : Scan :=
  { s with
    adapter := if s.found = 0 then some pr else s.adapter
    found := if called ifname pr then s.found + 1 else s.found }

section

variable {ifname guid : CStr} {reg : Registry} {s : Scan}

theorem foldl_scanLink (panel : List PanelReg) (s : Scan) (links : Nat) :
    panel.foldl (scanLink ifname guid) (s, links) =
      ((panel.filter fun pr => guid = pr.guid).foldl (look ifname) s,
        links + (panel.filter fun pr => guid = pr.guid).length) := by
  induction panel generalizing s links with
  | nil => rfl
  | cons pr panel ih =>
      rw [List.foldl_cons, scanLink]
      by_cases h : guid = pr.guid
      · rw [if_pos h, ih, List.filter_cons_of_pos (by simpa using h), List.foldl_cons,
          List.length_cons]
        exact Prod.ext rfl (by dsimp only; omega)
      · rw [if_neg h, ih, List.filter_cons_of_neg (by simpa using h)]

/-- Looking at connections has nothing to do with the number of valid adapters. -/
theorem foldl_look_valid (prs : List PanelReg) (s : Scan) (n : Nat) :
    prs.foldl (look ifname) { s with valid := n } =
      { prs.foldl (look ifname) s with valid := n } := by
  induction prs generalizing s with
  | nil => rfl
  | cons pr prs ih =>
      rw [List.foldl_cons, List.foldl_cons, ← ih]
      rfl

theorem look_valid (prs : List PanelReg) (s : Scan) :
    (prs.foldl (look ifname) s).valid = s.valid := by
  induction prs generalizing s with
  | nil => rfl
  | cons pr prs ih =>
      rw [List.foldl_cons, ih]
      rfl

theorem any_zipIdx {l : List CStr} {i k : Nat} (h : ∀ it ∈ l.zipIdx k, i ≠ it.2) :
    ((l.zipIdx k).any fun it => i ≠ it.2 && guid = it.1) = decide (guid ∈ l) := by
  induction l generalizing k with
  | nil => rfl
  | cons g l ih =>
      rw [List.zipIdx_cons] at h ⊢
      rw [List.forall_mem_cons] at h
      rw [List.any_cons, ih h.2, decide_eq_true h.1, Bool.true_and]
      simp [List.mem_cons]

/-- The inner loop finds another adapter with the GUID when there is not just one. -/
theorem duplicate_eq (pre post : List CStr) (guid : CStr) :
    ((pre ++ guid :: post).zipIdx.any fun it => pre.length ≠ it.2 && guid = it.1) =
      !decide ((pre ++ guid :: post).count guid = 1) := by
  have hpre : ∀ it ∈ pre.zipIdx, pre.length ≠ it.2 := by
    intro it hit
    have := (List.mem_zipIdx hit).2.1
    omega
  have hpost : ∀ it ∈ post.zipIdx (pre.length + 1), pre.length ≠ it.2 := by
    intro it hit
    have := (List.mem_zipIdx hit).1
    omega
  rw [List.zipIdx_append, List.any_append, any_zipIdx hpre, Nat.zero_add, List.zipIdx_cons,
    List.any_cons, any_zipIdx hpost, List.count_append, List.count_cons_self]
  have hcount : ∀ l : List CStr, guid ∈ l ↔ l.count guid ≠ 0 := fun l => by
    rw [← List.count_pos_iff]
    omega
  rw [Bool.eq_iff_iff]
  simp only [hcount, ne_eq, not_true_eq_false, decide_false, Bool.false_and, Bool.false_or,
    Bool.or_eq_true, decide_eq_true_eq, Bool.not_eq_true', decide_eq_false_iff_not]
  omega

/-- One adapter: its connections are looked at, and it counts when it is valid. -/
theorem scanTap_eq {pre post : List CStr} (htaps : reg.taps = pre ++ guid :: post) :
    scanTap ifname reg s (guid, pre.length) =
      { (reg.carriers guid).foldl (look ifname) s with
        valid := s.valid + if reg.valid guid then 1 else 0 } := by
  unfold scanTap
  dsimp only
  rw [foldl_scanLink, htaps, duplicate_eq, ← htaps, Nat.zero_add, Bool.not_not, Bool.and_comm]
  dsimp only
  rw [look_valid]
  change (if reg.valid guid = true then _ else (reg.carriers guid).foldl (look ifname) s) = _
  split
  · rfl
  · rw [Nat.add_zero, ← look_valid (reg.carriers guid) s]

theorem foldl_scanTap (pre post : List CStr) (htaps : reg.taps = pre ++ post) (s : Scan) :
    (post.zipIdx pre.length).foldl (scanTap ifname reg) s =
      { (post.flatMap reg.carriers).foldl (look ifname) s with
        valid := s.valid + post.countP reg.valid } := by
  induction post generalizing pre s with
  | nil => rfl
  | cons guid post ih =>
      have hnext := ih (pre ++ [guid]) (by rw [htaps, List.append_assoc, List.singleton_append])
      rw [List.length_append, List.length_singleton] at hnext
      rw [List.zipIdx_cons, List.foldl_cons, scanTap_eq htaps, hnext, List.flatMap_cons,
        List.foldl_append, foldl_look_valid, List.countP_cons]
      rw [Nat.add_assoc, Nat.add_comm (if reg.valid guid = true then 1 else 0)]

theorem look_found (ifname : CStr) (prs : List PanelReg) (s : Scan) :
    (prs.foldl (look ifname) s).found = s.found + prs.countP (called ifname) := by
  induction prs generalizing s with
  | nil => rfl
  | cons pr prs ih =>
      rw [List.foldl_cons, ih, List.countP_cons]
      unfold look
      dsimp only
      split <;> omega

/-- Once the name has been found the candidate stays. -/
theorem look_adapter_found (prs : List PanelReg) {s : Scan} (h : s.found ≠ 0) :
    (prs.foldl (look ifname) s).adapter = s.adapter := by
  induction prs generalizing s with
  | nil => rfl
  | cons pr prs ih =>
      have hfound : (look ifname s pr).found ≠ 0 := by
        unfold look
        dsimp only
        split <;> omega
      rw [List.foldl_cons, ih hfound]
      exact if_neg h

/-- The candidate is the first connection with the name, or else the last one. -/
theorem look_adapter (ifname : CStr) (prs : List PanelReg) {s : Scan} (h : s.found = 0) :
    (prs.foldl (look ifname) s).adapter =
      (prs.find? (called ifname)).or (prs.getLast?.or s.adapter) := by
  induction prs generalizing s with
  | nil => simp
  | cons pr prs ih =>
      have hadapter : (look ifname s pr).adapter = some pr := if_pos h
      rw [List.foldl_cons]
      cases hname : called ifname pr with
      | true =>
          have hfound : (look ifname s pr).found ≠ 0 := by
            unfold look
            dsimp only
            rw [if_pos hname]
            omega
          rw [look_adapter_found prs hfound, hadapter, List.find?_cons_of_pos hname]
          rfl
      | false =>
          have hfound : (look ifname s pr).found = 0 := by
            unfold look
            dsimp only
            rw [if_neg (Bool.not_eq_true _ ▸ hname), h]
          rw [ih hfound, hadapter, List.find?_cons_of_neg (Bool.not_eq_true _ ▸ hname),
            List.getLast?_cons]
          cases prs.getLast? <;> rfl

/-- The scan is a walk over the linked connections. -/
theorem scan_eq (ifname : CStr) (reg : Registry) :
    scan ifname reg = {
      adapter := (reg.visited.find? (called ifname)).or reg.visited.getLast?
      found := reg.visited.countP (called ifname)
      valid := reg.validTaps.length } := by
  unfold scan
  rw [show reg.taps.zipIdx = reg.taps.zipIdx ([] : List CStr).length from rfl,
    foldl_scanTap [] reg.taps rfl, Nat.zero_add, List.countP_eq_length_filter]
  have hfound := look_found ifname reg.visited { adapter := none, found := 0, valid := 0 }
  have hadapter := look_adapter ifname reg.visited
    (show Scan.found { adapter := none, found := 0, valid := 0 } = 0 from rfl)
  rw [Nat.zero_add] at hfound
  rw [Option.or_none] at hadapter
  rw [← hfound, ← hadapter]
  rfl

/-! ## What the walk counts -/

theorem mem_visited {pr : PanelReg} : pr ∈ reg.visited ↔ pr ∈ reg.panel ∧ pr.guid ∈ reg.taps := by
  simp only [Registry.visited, Registry.carriers, List.mem_flatMap, List.mem_filter,
    decide_eq_true_eq]
  exact ⟨fun ⟨g, hg, hpr, heq⟩ => ⟨hpr, heq ▸ hg⟩, fun ⟨hpr, hg⟩ => ⟨_, hg, hpr, rfl⟩⟩

theorem mem_named {pr : PanelReg} :
    pr ∈ reg.named ifname ↔ pr ∈ reg.visited ∧ called ifname pr = true := by
  simp only [Registry.named, List.mem_filter, Bool.and_eq_true, decide_eq_true_eq, mem_visited,
    and_assoc]

theorem sum_indicator (p : PanelReg → Bool) (prs : List PanelReg) :
    (prs.map fun pr => if p pr then 1 else 0).sum = prs.countP p := by
  induction prs with
  | nil => rfl
  | cons pr prs ih => rw [List.map_cons, List.sum_cons, ih, List.countP_cons, Nat.add_comm]

/-- A connection is met once for each adapter with its GUID. -/
theorem countP_visited (c : PanelReg → Bool) : reg.visited.countP c =
    ((reg.panel.filter c).map fun pr => reg.taps.count pr.guid).sum := by
  unfold Registry.visited
  induction reg.taps with
  | nil => simp
  | cons g taps ih =>
      rw [List.flatMap_cons, List.countP_append, ih]
      simp only [List.count_cons, Registry.carriers]
      rw [List.sum_map_add, Nat.add_comm]
      congr 1
      rw [sum_indicator, List.countP_filter, List.countP_filter]
      exact List.countP_congr fun pr _ => by simp [Bool.and_comm]

theorem sum_eq_zero_of_pos {l : List Nat} (hpos : ∀ n ∈ l, 0 < n) : l.sum = 0 ↔ l = [] := by
  cases l with
  | nil => simp
  | cons n l =>
      have := hpos n List.mem_cons_self
      simp only [List.sum_cons]
      exact iff_of_false (by omega) (List.cons_ne_nil n l)

theorem sum_eq_one_of_pos {l : List Nat} (hpos : ∀ n ∈ l, 0 < n) : l.sum = 1 ↔ l = [1] := by
  cases l with
  | nil => simp
  | cons n l =>
      have hn := hpos n List.mem_cons_self
      rw [List.sum_cons, List.cons.injEq,
        ← sum_eq_zero_of_pos fun m hm => hpos m (List.mem_cons_of_mem n hm)]
      omega

/-- The walk meets the named connections, each as often as its GUID occurs. -/
theorem found_eq (ifname : CStr) (reg : Registry) : reg.visited.countP (called ifname) =
    ((reg.named ifname).map fun pr => reg.taps.count pr.guid).sum := by
  rw [countP_visited, Registry.named]
  induction reg.panel with
  | nil => rfl
  | cons pr panel ih =>
      by_cases hlinked : pr.guid ∈ reg.taps
      · by_cases hc : called ifname pr = true
        · simp [hlinked, hc, ih]
        · simp [hc, ih]
      · by_cases hc : called ifname pr = true
        · simp [hlinked, hc, ih, List.count_eq_zero_of_not_mem hlinked]
        · simp [hc, ih]

theorem named_count_pos {pr : PanelReg} (h : pr ∈ reg.named ifname) :
    0 < reg.taps.count pr.guid :=
  List.count_pos_iff.mpr (mem_visited.mp (mem_named.mp h).1).2

theorem found_eq_zero : reg.visited.countP (called ifname) = 0 ↔ reg.named ifname = [] := by
  rw [found_eq, sum_eq_zero_of_pos, List.map_eq_nil_iff]
  intro n hn
  obtain ⟨pr, hpr, rfl⟩ := List.mem_map.mp hn
  exact named_count_pos hpr

theorem found_eq_one : reg.visited.countP (called ifname) = 1 ↔
    ∃ pr, reg.named ifname = [pr] ∧ reg.taps.count pr.guid = 1 := by
  rw [found_eq, sum_eq_one_of_pos]
  · rw [List.map_eq_singleton_iff]
  · intro n hn
    obtain ⟨pr, hpr, rfl⟩ := List.mem_map.mp hn
    exact named_count_pos hpr

/-- Where one connection has the name, the walk finds it. -/
theorem find_named {pr : PanelReg} (h : reg.named ifname = [pr]) :
    reg.visited.find? (called ifname) = some pr := by
  have hpr : pr ∈ reg.named ifname := by rw [h]; exact List.mem_singleton.mpr rfl
  obtain ⟨hvisited, hcalled⟩ := mem_named.mp hpr
  cases hfind : reg.visited.find? (called ifname) with
  | none =>
      have := List.find?_eq_none.mp hfind pr hvisited
      exact (this hcalled).elim
  | some found =>
      have hfound : found ∈ reg.named ifname :=
        mem_named.mpr ⟨List.mem_of_find?_eq_some hfind, List.find?_some hfind⟩
      rw [h, List.mem_singleton] at hfound
      rw [hfound]

theorem find_none (h : reg.named ifname = []) : reg.visited.find? (called ifname) = none := by
  rw [List.find?_eq_none]
  intro pr hpr hcalled
  have hmem := mem_named.mpr ⟨hpr, hcalled⟩
  rw [h] at hmem
  cases hmem

/-- The last connection the walk turns to is one of the last adapter that has any. -/
theorem getLast?_visited (reg : Registry) :
    reg.visited.getLast?.map PanelReg.guid = reg.linkedTaps.getLast? := by
  unfold Registry.visited Registry.linkedTaps
  induction reg.taps using List.reverseRecOn with
  | nil => rfl
  | append_singleton taps g ih =>
      rw [List.flatMap_append, List.flatMap_singleton, List.filter_append, List.getLast?_append,
        List.getLast?_append]
      cases hlast : (reg.carriers g).getLast? with
      | none =>
          rw [List.getLast?_eq_none_iff] at hlast
          simp [hlast, ih]
      | some pr =>
          have hpr : g = pr.guid := by
            have hmem := List.mem_filter.mp (List.mem_of_getLast? hlast)
            exact of_decide_eq_true hmem.2
          have hne : reg.carriers g ≠ [] := fun h => by rw [h] at hlast; cases hlast
          rw [hpr] at hne
          simp [hpr, hne]

/-! ## The decision -/

/-- What the function decides on: the connection with the name, when any adapter
is valid; or the last connection, when one adapter is valid. -/
inductive Decided (ifname : CStr) (fallback : Bool) (reg : Registry) : CStr × CStr → Prop where
  | requested {pr : PanelReg} (hname : reg.named ifname = [pr])
      (hcount : reg.taps.count pr.guid = 1) (hv : reg.validTaps ≠ []) :
      Decided ifname fallback reg (ifname, pr.guid)
  | instead {pr : PanelReg} {guid : CStr} (hname : reg.named ifname = []) (hf : fallback = true)
      (hv : reg.validTaps = [guid]) (hlast : reg.visited.getLast? = some pr) :
      Decided ifname fallback reg (pr.name, pr.guid)

variable {fallback : Bool}

theorem chosen_requested {pr : PanelReg} (hname : reg.named ifname = [pr])
    (hcount : reg.taps.count pr.guid = 1) (hv : reg.validTaps ≠ []) :
    chosen ifname fallback (scan ifname reg) = some (ifname, pr.guid) := by
  have hfound : reg.visited.countP (called ifname) = 1 := found_eq_one.mpr ⟨pr, hname, hcount⟩
  have hpos : 1 ≤ reg.validTaps.length := List.length_pos_iff.mpr hv
  rw [scan_eq, chosen, if_pos ⟨hfound, hpos⟩, find_named hname]
  rfl

theorem chosen_instead (hname : reg.named ifname = []) :
    chosen ifname fallback (scan ifname reg) =
      if reg.validTaps.length = 1 ∧ fallback = true then
        reg.visited.getLast?.map fun pr => (pr.name, pr.guid)
      else none := by
  have hfound : reg.visited.countP (called ifname) = 0 := found_eq_zero.mpr hname
  rw [scan_eq, chosen, hfound, find_none hname]
  simp

theorem chosen_otherwise (hname : reg.named ifname ≠ [])
    (hnot : ¬ ((∃ pr, reg.named ifname = [pr] ∧ reg.taps.count pr.guid = 1) ∧
      reg.validTaps ≠ [])) : chosen ifname fallback (scan ifname reg) = none := by
  rw [← found_eq_one, ← List.length_pos_iff] at hnot
  rw [ne_eq, ← found_eq_zero] at hname
  rw [scan_eq, chosen]
  dsimp only
  have hnot' : ¬ (reg.visited.countP (called ifname) = 1 ∧ 1 ≤ reg.validTaps.length) := hnot
  rw [if_neg hnot', if_neg fun h => hname h.1]

theorem chosen_iff {r : CStr × CStr} :
    chosen ifname fallback (scan ifname reg) = some r ↔ Decided ifname fallback reg r := by
  constructor
  · intro h
    by_cases hname : reg.named ifname = []
    · rw [chosen_instead hname] at h
      split at h
      · rename_i hone
        obtain ⟨guid, hv⟩ := List.length_eq_one_iff.mp hone.1
        obtain ⟨pr, hlast, rfl⟩ := Option.map_eq_some_iff.mp h
        exact .instead hname hone.2 hv hlast
      · cases h
    · by_cases honce : (∃ pr, reg.named ifname = [pr] ∧ reg.taps.count pr.guid = 1) ∧
          reg.validTaps ≠ []
      · obtain ⟨⟨pr, hpr, hcount⟩, hv⟩ := honce
        rw [chosen_requested hpr hcount hv] at h
        cases h
        exact .requested hpr hcount hv
      · rw [chosen_otherwise hname honce] at h
        cases h
  · rintro (⟨hname, hcount, hv⟩ | ⟨hname, hf, hv, hlast⟩)
    · exact chosen_requested hname hcount hv
    · rw [chosen_instead hname, if_pos ⟨by rw [hv]; rfl, hf⟩, hlast]
      rfl

/-! ## When it is what is meant -/

/-- Nothing but the adapter that is found is looked at: when one linked connection
has the name and its GUID occurs once, it is valid or no adapter is; and the
last adapter that has a connection is the valid one, when it is to be taken
instead. -/
structure Clear (ifname : CStr) (fallback : Bool) (reg : Registry) : Prop where
  requested : ∀ pr, reg.named ifname = [pr] → reg.taps.count pr.guid = 1 →
    reg.validTaps ≠ [] → reg.valid pr.guid = true
  instead : reg.named ifname = [] → fallback = true →
    ∀ guid, reg.validTaps = [guid] → reg.linkedTaps.getLast? = some guid

theorem mem_validTaps {guid : CStr} (h : reg.valid guid = true) : guid ∈ reg.validTaps := by
  rw [Registry.valid, Bool.and_eq_true, decide_eq_true_eq] at h
  refine List.mem_filter.mpr ⟨List.count_pos_iff.mp (by omega), ?_⟩
  rw [Registry.valid, Bool.and_eq_true, decide_eq_true_eq]
  exact h

theorem valid_of_mem {guid : CStr} (h : guid ∈ reg.validTaps) :
    reg.valid guid = true ∧ ∃ pr, reg.carriers guid = [pr] := by
  have hv := (List.mem_filter.mp h).2
  refine ⟨hv, ?_⟩
  rw [Registry.valid, Bool.and_eq_true, decide_eq_true_eq, decide_eq_true_eq] at hv
  exact List.length_eq_one_iff.mp hv.2

/-- A valid adapter has a connection, so the walk turns to one. -/
theorem visited_of_valid {guid : CStr} (h : guid ∈ reg.validTaps) :
    ∃ pr, reg.visited.getLast? = some pr := by
  obtain ⟨-, pr, hpr⟩ := valid_of_mem h
  have hmem : pr ∈ reg.carriers guid := by
    rw [hpr]
    exact List.mem_singleton.mpr rfl
  have hvisited : pr ∈ reg.visited :=
    List.mem_flatMap.mpr ⟨guid, (List.mem_filter.mp h).1, hmem⟩
  cases hlast : reg.visited.getLast? with
  | none =>
      rw [List.getLast?_eq_none_iff] at hlast
      rw [hlast] at hvisited
      cases hvisited
  | some pr => exact ⟨pr, rfl⟩

theorem Clear.meant (h : Clear ifname fallback reg) {r : CStr × CStr}
    (hd : Decided ifname fallback reg r) : Meant ifname fallback reg r := by
  rcases hd with ⟨hname, hcount, hv⟩ | ⟨hname, hf, hv, hlast⟩
  · exact .requested hname (h.requested _ hname hcount hv)
  · rename_i pr guid
    have heq := getLast?_visited reg
    rw [hlast, h.instead hname hf guid hv] at heq
    cases heq
    exact .instead hname hf hv (mem_visited.mp (List.mem_of_getLast? hlast)).1

theorem Clear.decided (h : Clear ifname fallback reg) {r : CStr × CStr}
    (hm : Meant ifname fallback reg r) : Decided ifname fallback reg r := by
  rcases hm with ⟨hname, hv⟩ | ⟨hname, hf, hv, hpr⟩
  · have hcount := hv
    rw [Registry.valid, Bool.and_eq_true, decide_eq_true_eq] at hcount
    exact .requested hname hcount.1 (List.ne_nil_of_mem (mem_validTaps hv))
  · rename_i pr
    have hmem : pr.guid ∈ reg.validTaps := by rw [hv]; exact List.mem_singleton.mpr rfl
    obtain ⟨last, hlast⟩ := visited_of_valid hmem
    have heq := getLast?_visited reg
    rw [hlast, h.instead hname hf pr.guid hv, Option.map_some, Option.some_inj] at heq
    -- just one connection carries the GUID of the valid adapter
    obtain ⟨-, only, honly⟩ := valid_of_mem hmem
    have hcarries : ∀ pr' : PanelReg, pr' ∈ reg.panel → pr'.guid = pr.guid → pr' = only := by
      intro pr' hpr' hguid
      have : pr' ∈ reg.carriers pr.guid :=
        List.mem_filter.mpr ⟨hpr', decide_eq_true hguid.symm⟩
      rwa [honly, List.mem_singleton] at this
    have hsame : last = pr :=
      (hcarries last (mem_visited.mp (List.mem_of_getLast? hlast)).1 heq).trans
        (hcarries pr hpr rfl).symm
    subst hsame
    exact .instead hname hf hv hlast

theorem clear_of_agree (h : ∀ r, Decided ifname fallback reg r ↔ Meant ifname fallback reg r) :
    Clear ifname fallback reg where
  requested pr hname hcount hv := by
    have hm := (h _).mp (.requested hname hcount hv)
    generalize (ifname, pr.guid) = r at hm
    cases hm with
    | requested hname' hvalid =>
        rw [hname, List.singleton_inj] at hname'
        rwa [hname']
    | instead hnone =>
        rw [hname] at hnone
        cases hnone
  instead hname hf guid hv := by
    have hmem : guid ∈ reg.validTaps := by rw [hv]; exact List.mem_singleton.mpr rfl
    obtain ⟨last, hlast⟩ := visited_of_valid hmem
    have hm := (h _).mp (.instead hname hf hv hlast)
    rw [← getLast?_visited, hlast, Option.map_some]
    generalize hr : (last.name, last.guid) = r at hm
    cases hm with
    | requested hname' => rw [hname] at hname'; cases hname'
    | instead _ _ hv' =>
        rw [hv, List.singleton_inj] at hv'
        rw [(Prod.mk.inj hr).2, hv']

/-! ## The function -/

/-- What `tapcfg_fixup_adapters` has returned: a name and the GUID, or NULL. -/
def returned : Except Fault (Option Str × CStr) → Option (CStr × CStr)
  | .ok (some name, guid) => some (name.text, guid)
  | _ => none

/-- What it returns to a system that answers so. -/
def fixup (respond : Responder World Call Call.Ans) (ifname : CStr) (fallback : Bool) (w : World) :
    Option (CStr × CStr) :=
  returned ((tapcfgFixupAdapters ifname fallback).run respond w).1

/-- The registry lists `reg`, and there is memory. -/
structure Answers (reg : Registry) (respond : Responder World Call Call.Ans) : Prop where
  registry : ∀ w, (respond w .registry).1 = reg
  strdup : ∀ w text, ∃ ptr : Nat, (respond w (.strdup text)).1 = some ptr

variable {respond : Responder World Call Call.Ans} {w : World}

theorem fixup_eq (h : Answers reg respond) :
    fixup respond ifname fallback w = chosen ifname fallback (scan ifname reg) := by
  unfold fixup tapcfgFixupAdapters
  show returned (Prog.run respond _ (respond w .registry).2).1 = _
  rw [h.registry]
  dsimp only [Prog.bind]
  cases chosen ifname fallback (scan ifname reg) with
  | none => rfl
  | some r =>
      obtain ⟨ptr, hptr⟩ := h.strdup (respond w .registry).2 r.1
      show returned (.ok (Option.map _ (respond _ (.strdup r.1)).1, r.2)) = _
      rw [hptr]
      rfl

/-- `tapcfg_fixup_adapters` returns what is meant, and nothing else, exactly on
the registries that are clear. -/
theorem adapters_meant_iff (h : Answers reg respond) :
    (∀ r, fixup respond ifname fallback w = some r ↔ Meant ifname fallback reg r) ↔
      Clear ifname fallback reg := by
  simp only [fixup_eq h, chosen_iff]
  exact ⟨clear_of_agree, fun hclear r => ⟨hclear.meant, hclear.decided⟩⟩

end

/-! ## The order of the registry -/

theorem nil_iff_of_perm {A : Type} {l l' : List A} (h : l.Perm l') : l = [] ↔ l' = [] := by
  rw [← List.length_eq_zero_iff, ← List.length_eq_zero_iff, h.length_eq]

/-- The same keys, in some order. -/
structure Reordered (reg reg' : Registry) : Prop where
  taps : reg'.taps.Perm reg.taps
  panel : reg'.panel.Perm reg.panel

namespace Reordered

variable {reg reg' : Registry} {ifname : CStr}

theorem named (h : Reordered reg reg') : (reg'.named ifname).Perm (reg.named ifname) := by
  unfold Registry.named
  simp only [h.taps.mem_iff]
  exact h.panel.filter _

theorem carriers (h : Reordered reg reg') (guid : CStr) :
    (reg'.carriers guid).Perm (reg.carriers guid) := h.panel.filter _

theorem valid (h : Reordered reg reg') : reg'.valid = reg.valid := by
  funext guid
  unfold Registry.valid
  rw [h.taps.count_eq, (h.carriers guid).length_eq]

theorem validTaps (h : Reordered reg reg') : reg'.validTaps.Perm reg.validTaps := by
  unfold Registry.validTaps
  rw [h.valid]
  exact h.taps.filter _

theorem mem_linkedTaps (h : Reordered reg reg') {guid : CStr} :
    guid ∈ reg'.linkedTaps ↔ guid ∈ reg.linkedTaps := by
  have hempty : (reg'.carriers guid).isEmpty = (reg.carriers guid).isEmpty := by
    rw [Bool.eq_iff_iff, List.isEmpty_iff, List.isEmpty_iff, nil_iff_of_perm (h.carriers guid)]
  unfold Registry.linkedTaps
  rw [List.mem_filter, List.mem_filter, h.taps.mem_iff, hempty]

end Reordered

/-- When an adapter is to be taken instead, no other than the valid one has a
connection. -/
def Unmixed (ifname : CStr) (fallback : Bool) (reg : Registry) : Prop :=
  reg.named ifname = [] → fallback = true →
    ∀ guid, reg.validTaps = [guid] → ∀ other ∈ reg.linkedTaps, other = guid

section

variable {ifname : CStr} {fallback : Bool} {reg reg' : Registry}

/-- The GUID that is taken instead is that of the last adapter with a connection. -/
theorem chosen_last {guid : CStr} (hname : reg.named ifname = []) (hf : fallback = true)
    (hv : reg.validTaps = [guid]) :
    (chosen ifname fallback (scan ifname reg)).map Prod.snd = reg.linkedTaps.getLast? := by
  rw [chosen_instead hname, if_pos ⟨by rw [hv]; rfl, hf⟩, Option.map_map, ← getLast?_visited]
  rfl

theorem getLast?_of_forall {l : List CStr} {a : CStr} (ha : a ∈ l) (h : ∀ b ∈ l, b = a) :
    l.getLast? = some a := by
  cases hlast : l.getLast? with
  | none =>
      rw [List.getLast?_eq_none_iff] at hlast
      rw [hlast] at ha
      cases ha
  | some b => rw [h b (List.mem_of_getLast? hlast)]

theorem linked_of_valid {guid : CStr} (h : guid ∈ reg.validTaps) : guid ∈ reg.linkedTaps := by
  obtain ⟨-, pr, hpr⟩ := valid_of_mem h
  refine List.mem_filter.mpr ⟨(List.mem_filter.mp h).1, ?_⟩
  rw [hpr]
  rfl

theorem Unmixed.chosen_eq (h : Unmixed ifname fallback reg) (hr : Reordered reg reg') :
    (chosen ifname fallback (scan ifname reg')).map Prod.snd =
      (chosen ifname fallback (scan ifname reg)).map Prod.snd := by
  by_cases hname : reg.named ifname = []
  · have hname' : reg'.named ifname = [] := (nil_iff_of_perm hr.named).mpr hname
    by_cases hone : reg.validTaps.length = 1 ∧ fallback = true
    · obtain ⟨guid, hv⟩ := List.length_eq_one_iff.mp hone.1
      have hv' : reg'.validTaps = [guid] := List.perm_singleton.mp (hv ▸ hr.validTaps)
      have hmem : guid ∈ reg.linkedTaps :=
        linked_of_valid (by rw [hv]; exact List.mem_singleton.mpr rfl)
      rw [chosen_last hname' hone.2 hv', chosen_last hname hone.2 hv,
        getLast?_of_forall hmem (h hname hone.2 guid hv),
        getLast?_of_forall (hr.mem_linkedTaps.mpr hmem) fun other hother =>
          h hname hone.2 guid hv other (hr.mem_linkedTaps.mp hother)]
    · rw [chosen_instead hname, chosen_instead hname', hr.validTaps.length_eq, if_neg hone,
        if_neg hone]
  · by_cases honce : (∃ pr, reg.named ifname = [pr] ∧ reg.taps.count pr.guid = 1) ∧
        reg.validTaps ≠ []
    · obtain ⟨⟨pr, hpr, hcount⟩, hv⟩ := honce
      rw [chosen_requested hpr hcount hv,
        chosen_requested (List.perm_singleton.mp (hpr ▸ hr.named))
          ((hr.taps.count_eq _).trans hcount)
          (fun hnil => hv ((nil_iff_of_perm hr.validTaps).mp hnil))]
    · rw [chosen_otherwise hname honce, chosen_otherwise]
      · exact fun hnil => hname ((nil_iff_of_perm hr.named).mp hnil)
      · rintro ⟨⟨pr, hpr, hcount⟩, hv⟩
        exact honce ⟨⟨pr, List.perm_singleton.mp (hpr ▸ hr.named.symm),
          (hr.taps.count_eq _).symm.trans hcount⟩,
          fun hnil => hv ((nil_iff_of_perm hr.validTaps).mpr hnil)⟩

/-- The registry with this adapter listed last. -/
def Registry.withLast (reg : Registry) (guid : CStr) : Registry :=
  { reg with taps := reg.taps.erase guid ++ [guid] }

theorem withLast_reordered {guid : CStr} (h : guid ∈ reg.taps) :
    Reordered reg (reg.withLast guid) where
  taps := List.perm_append_comm.trans (List.perm_cons_erase h).symm
  panel := List.Perm.refl _

/-- A linked adapter that is listed last is the one that is taken instead. -/
theorem chosen_withLast {guid other : CStr} (hname : reg.named ifname = []) (hf : fallback = true)
    (hv : reg.validTaps = [guid]) (hother : other ∈ reg.linkedTaps) :
    (chosen ifname fallback (scan ifname (reg.withLast other))).map Prod.snd = some other := by
  have hlinked := List.mem_filter.mp hother
  have hr := withLast_reordered hlinked.1
  rw [chosen_last ((nil_iff_of_perm hr.named).mpr hname) hf
    (List.perm_singleton.mp (hv ▸ hr.validTaps))]
  show ((reg.taps.erase other ++ [other]).filter fun guid =>
    !(reg.carriers guid).isEmpty).getLast? = some other
  rw [List.filter_append, List.filter_singleton, hlinked.2, cond_true, List.getLast?_concat]

/-- A system whose registry lists `reg`. -/
def registryOs (reg : Registry) : Responder World Call Call.Ans := fun w c =>
  match c with
  | .registry => (reg, w)
  | .strdup _ => (some 1, w)
  | .free _ => ((), w)
  | .createFile _ => (invalidHandleValue, w)
  | .getVersion _ => (none, w)
  | .getMac _ => (none, w)
  | .closeHandle _ => ((), w)
  | .readFile _ _ => (.failed, w)
  | .waitForSingleObject _ => (.failed, w)
  | .getOverlappedResult _ => (none, w)

theorem registryOs_answers (reg : Registry) : Answers reg (registryOs reg) :=
  ⟨fun _ => rfl, fun _ _ => ⟨1, rfl⟩⟩

/-- Every order of the two lists leads to the same decision and the same GUID
exactly when the registry is unmixed. -/
theorem adapters_ordered_iff {respond : Responder World Call Call.Ans} {w : World}
    (h : Answers reg respond) :
    (∀ reg' respond' w', Reordered reg reg' → Answers reg' respond' →
      (fixup respond' ifname fallback w').map Prod.snd =
        (fixup respond ifname fallback w).map Prod.snd) ↔ Unmixed ifname fallback reg := by
  constructor
  · intro hsame hname hf guid hv other hother
    have hlast : ∀ last ∈ reg.linkedTaps,
        (fixup respond ifname fallback w).map Prod.snd = some last := by
      intro last hmem
      have hr := withLast_reordered (List.mem_filter.mp hmem).1
      have hlisted := registryOs_answers (reg.withLast last)
      rw [← hsame _ _ w hr hlisted, fixup_eq hlisted]
      exact chosen_withLast hname hf hv hmem
    have hguid : guid ∈ reg.linkedTaps :=
      linked_of_valid (by rw [hv]; exact List.mem_singleton.mpr rfl)
    exact Option.some_inj.mp ((hlast other hother).symm.trans (hlast guid hguid))
  · intro hunmixed reg' respond' w' hr h'
    rw [fixup_eq h, fixup_eq h']
    exact hunmixed.chosen_eq hr

end

/-! ## Registries -/

/-- A device object just made. -/
def freshWorld : World := ⟨tapcfgInit, ⟨false, none⟩, [], [], []⟩

def lan : PanelReg := { name := ['l', 'a', 'n'], guid := ['a'] }

def wlan : PanelReg := { name := ['w', 'l', 'a', 'n'], guid := ['a'] }

def eth : PanelReg := { name := ['e', 't', 'h'], guid := ['b'] }

/-- Adapter `a` has one connection, adapter `b` has none. -/
def plainRegistry : Registry := { taps := [['a'], ['b']], panel := [lan] }

/-- The valid adapter is found by its name. -/
theorem adapters_meant_plain :
    Meant ['L', 'A', 'N'] false plainRegistry (['L', 'A', 'N'], ['a']) := by
  have hclear : Clear ['L', 'A', 'N'] false plainRegistry := by
    refine ⟨fun pr hname _ _ => ?_, fun _ hf => by cases hf⟩
    rw [show plainRegistry.named ['L', 'A', 'N'] = [lan] by decide] at hname
    cases hname
    decide
  have hiff := (adapters_meant_iff (w := freshWorld) (registryOs_answers plainRegistry)).mpr hclear
  exact (hiff _).mp (by decide)

/-- Adapter `a` has two connections, adapter `b` has one. -/
def mixedRegistry : Registry := { taps := [['a'], ['b']], panel := [lan, eth, wlan] }

/-- Adapter `a` is used although it is not valid, because `b` is. -/
theorem adapters_not_meant :
    fixup (registryOs mixedRegistry) ['l', 'a', 'n'] false freshWorld =
        some (['l', 'a', 'n'], ['a']) ∧
      ¬ Meant ['l', 'a', 'n'] false mixedRegistry (['l', 'a', 'n'], ['a']) := by
  refine ⟨by decide, fun hm => ?_⟩
  generalize (['l', 'a', 'n'], ['a']) = r at hm
  cases hm with
  | requested hname hv =>
      rw [show mixedRegistry.named ['l', 'a', 'n'] = [lan] by decide] at hname
      cases hname
      revert hv
      decide
  | instead hname =>
      revert hname
      decide

/-- Adapter `a`, which has a connection, is taken instead wherever it is listed. -/
theorem adapters_ordered_plain :
    (fixup (registryOs (plainRegistry.withLast ['a'])) ['x'] true freshWorld).map Prod.snd =
      (fixup (registryOs plainRegistry) ['x'] true freshWorld).map Prod.snd := by
  have hunmixed : Unmixed ['x'] true plainRegistry := by
    intro _ _ guid hv
    rw [show plainRegistry.validTaps = [['a']] by decide] at hv
    cases hv
    decide
  exact (adapters_ordered_iff (registryOs_answers plainRegistry)).mpr hunmixed _ _ _
    (withLast_reordered (by decide)) (registryOs_answers _)

/-- Adapter `b` is the only valid one; it is taken instead when it is listed last,
and adapter `a` is when that is. -/
theorem adapters_not_ordered : Reordered mixedRegistry (mixedRegistry.withLast ['a']) ∧
    (fixup (registryOs mixedRegistry) ['x'] true freshWorld).map Prod.snd = some ['b'] ∧
    (fixup (registryOs (mixedRegistry.withLast ['a'])) ['x'] true freshWorld).map Prod.snd =
      some ['a'] :=
  ⟨withLast_reordered (by decide), by decide, by decide⟩

end TapCfg.Windows
