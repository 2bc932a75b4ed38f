/-
  Foundation/Sweep.lean --- a loop by index over a list that erases entries
  while it runs.

  The loop visits the entry at its index, erases it when it fails, and goes on
  to the next index; some indices may be left out.  An erasure moves the next
  entry to the index just visited, so the loop never looks at it.  `visits` is
  what such a loop visits, `Sweep` where it stands, and the last section says
  when it misses nobody.
-/
import Mathlib.Data.List.Nodup
import Mathlib.Data.List.Perm.Subperm

set_option autoImplicit false

namespace TapCfg.Foundation

variable {A : Type}

/-- The entries visited from index `j` on, where they are `l`. -/
def visits (skip : Nat → Bool) (fails : A → Bool) : Nat → List A → List A
  | _, [] => []
  | j, [a] => if skip j then [] else [a]
  | j, a :: b :: rest =>
      if skip j then visits skip fails (j + 1) (b :: rest)
      else if fails a then a :: visits skip fails (j + 1) rest
      else a :: visits skip fails (j + 1) (b :: rest)

section Visits

variable {skip : Nat → Bool} {fails : A → Bool} {j : Nat} {a b : A} {l : List A}

@[simp] theorem visits_nil : visits skip fails j [] = [] := rfl

theorem visits_skip (h : skip j = true) :
    visits skip fails j (a :: l) = visits skip fails (j + 1) l := by
  cases l <;> simp [visits, h]

theorem visits_keep (h : skip j = false) (ha : fails a = false) :
    visits skip fails j (a :: l) = a :: visits skip fails (j + 1) l := by
  cases l <;> simp [visits, h, ha]

theorem visits_drop (h : skip j = false) (ha : fails a = true) :
    visits skip fails j (a :: l) = a :: visits skip fails (j + 1) l.tail := by
  cases l <;> simp [visits, h, ha]

theorem visits_sublist (skip : Nat → Bool) (fails : A → Bool) (j : Nat) (l : List A) :
    (visits skip fails j l).Sublist l := by
  induction j, l using visits.induct skip fails with
  | case1 j => exact List.Sublist.refl _
  | case2 j a h => rw [visits_skip h]; exact List.nil_sublist _
  | case3 j a h => simp [visits, h]
  | case4 j a b rest h ih => rw [visits_skip h]; exact ih.cons a
  | case5 j a b rest h hf ih =>
      rw [visits_drop (Bool.eq_false_iff.mpr h) hf]
      exact (ih.cons b).cons_cons a
  | case6 j a b rest h hf ih =>
      rw [visits_keep (Bool.eq_false_iff.mpr h) (Bool.eq_false_iff.mpr hf)]
      exact ih.cons_cons a

end Visits

/-! ## Where the loop stands -/

section Standing

theorem drop_eq_cons {l : List A} {j : Nat} {a : A} (ha : l[j]? = some a) :
    l.drop j = a :: l.drop (j + 1) := by
  obtain ⟨hlt, hget⟩ := List.getElem?_eq_some_iff.mp ha
  rw [List.drop_eq_getElem_cons hlt, hget]

/-- What is erased at an index brings the next entry there. -/
theorem drop_succ_eraseIdx (l : List A) (j : Nat) :
    (l.eraseIdx j).drop (j + 1) = (l.drop (j + 1)).tail := by
  apply List.ext_getElem?
  intro k
  rw [List.getElem?_drop, List.getElem?_eraseIdx, if_neg (by omega), List.getElem?_tail,
    List.getElem?_drop]
  congr 1

variable [DecidableEq A]

theorem pairwise_idxOf {l : List A} (h : l.Nodup) :
    l.Pairwise fun a b => l.idxOf a < l.idxOf b := by
  rw [List.pairwise_iff_getElem]
  intro i j hi hj hij
  rw [h.idxOf_getElem i hi, h.idxOf_getElem j hj]
  exact hij

/-- The loop over `l` stands at index `j`: it has visited `seen`, and `cur` is
what has become of the list. -/
structure Sweep (skip : Nat → Bool) (fails : A → Bool) (l : List A) (j : Nat)
    (seen cur : List A) : Prop where
  nodup : l.Nodup
  /-- what it has visited, and what it will visit -/
  plan : visits skip fails 0 l = seen ++ visits skip fails j (cur.drop j)
  /-- what lies ahead comes after what it has visited -/
  order : (seen ++ cur.drop j).Sublist l
  /-- just the visited entries that fail are gone -/
  erased : cur = l.filter fun a => !(decide (a ∈ seen) && fails a)

namespace Sweep

variable {skip : Nat → Bool} {fails : A → Bool} {l : List A} {j : Nat} {seen cur : List A} {a : A}

theorem start (skip : Nat → Bool) (fails : A → Bool) (h : l.Nodup) :
    Sweep skip fails l 0 [] l where
  nodup := h
  plan := by simp
  order := by simp
  erased := by simp

/-- The entry at the index is not one it has visited. -/
theorem fresh (h : Sweep skip fails l j seen cur) (ha : cur[j]? = some a) : a ∉ seen := by
  have hnodup := h.nodup.sublist h.order
  rw [drop_eq_cons ha] at hnodup
  intro hmem
  exact (List.nodup_append.mp hnodup).2.2 a hmem a List.mem_cons_self rfl

theorem pass (h : Sweep skip fails l j seen cur) (ha : cur[j]? = some a) (hs : skip j = true) :
    Sweep skip fails l (j + 1) seen cur where
  nodup := h.nodup
  plan := by rw [h.plan, drop_eq_cons ha, visits_skip hs]
  order := by
    refine List.Sublist.trans ?_ h.order
    rw [drop_eq_cons ha]
    exact (List.sublist_cons_self _ _).append_left seen
  erased := h.erased

theorem keep (h : Sweep skip fails l j seen cur) (ha : cur[j]? = some a) (hs : skip j = false)
    (hf : fails a = false) : Sweep skip fails l (j + 1) (seen ++ [a]) cur where
  nodup := h.nodup
  plan := by
    rw [h.plan, drop_eq_cons ha, visits_keep hs hf, List.append_assoc, List.singleton_append]
  order := by
    have horder := h.order
    rwa [drop_eq_cons ha, ← List.singleton_append, ← List.append_assoc] at horder
  erased := by
    rw [h.erased]
    apply List.filter_congr
    intro b _
    by_cases hb : b = a
    · rw [hb, hf, Bool.and_false, Bool.and_false]
    · simp [hb]

theorem drop (h : Sweep skip fails l j seen cur) (ha : cur[j]? = some a) (hs : skip j = false)
    (hf : fails a = true) : Sweep skip fails l (j + 1) (seen ++ [a]) (cur.eraseIdx j) where
  nodup := h.nodup
  plan := by
    rw [h.plan, drop_eq_cons ha, visits_drop hs hf, drop_succ_eraseIdx, List.append_assoc,
      List.singleton_append]
  order := by
    refine List.Sublist.trans ?_ h.order
    rw [drop_eq_cons ha, drop_succ_eraseIdx, List.append_assoc, List.singleton_append]
    exact ((List.tail_sublist _).cons_cons a).append_left seen
  erased := by
    obtain ⟨hlt, hget⟩ := List.getElem?_eq_some_iff.mp ha
    have hcur : cur.Nodup := by
      rw [h.erased]
      exact h.nodup.filter _
    rw [← hcur.erase_getElem j hlt, hget, hcur.erase_eq_filter, h.erased, List.filter_filter]
    apply List.filter_congr
    intro b _
    by_cases hb : b = a
    · simp [hb, hf]
    · simp [hb]

/-- What it has visited stands before the entry at the index. -/
theorem before (h : Sweep skip fails l j seen cur) (ha : cur[j]? = some a) {x : A}
    (hx : x ∈ seen) : l.idxOf x ≤ l.idxOf a := by
  have horder := (pairwise_idxOf h.nodup).sublist h.order
  rw [drop_eq_cons ha] at horder
  exact Nat.le_of_lt ((List.pairwise_append.mp horder).2.2 x hx a List.mem_cons_self)

/-- At the end it has visited all that it visits. -/
theorem done (h : Sweep skip fails l j seen cur) (hj : cur.length ≤ j) :
    seen = visits skip fails 0 l := by
  rw [h.plan, List.drop_eq_nil_of_le hj, visits_nil, List.append_nil]

end Sweep

end Standing

/-! ## When it misses nobody -/

/-- Two parts of a list without repetition, in its order, are equal when they
have the same members. -/
theorem sublist_eq {l l₁ l₂ : List A} (h : l.Nodup) (h₁ : l₁.Sublist l) (h₂ : l₂.Sublist l)
    (hmem : ∀ a, a ∈ l₁ ↔ a ∈ l₂) : l₁ = l₂ :=
  (List.Nodup.perm_iff_eq_of_sublist h h₁ h₂).mp
    ((List.perm_ext_iff_of_nodup (h.sublist h₁) (h.sublist h₂)).mpr hmem)

section Misses

variable {fails : A → Bool} {j : Nat} {l : List A}

theorem forall_dropLast_cons {a : A} (ha : fails a = false) :
    (∀ x ∈ (a :: l).dropLast, fails x = false) ↔ ∀ x ∈ l.dropLast, fails x = false := by
  cases l with
  | nil => simp
  | cons b rest => rw [List.dropLast_cons_cons, List.forall_mem_cons, and_iff_right ha]

/-- A failing entry that another one follows spoils the condition. -/
theorem not_forall_dropLast_cons {a : A} (ha : fails a = true) (hl : l ≠ []) :
    ¬ ∀ x ∈ (a :: l).dropLast, fails x = false := by
  intro hall
  rw [List.dropLast_cons_of_ne_nil hl] at hall
  rw [hall a List.mem_cons_self] at ha
  cases ha

/-- A loop that leaves no index out visits all of a list just when only the last
entry may fail. -/
theorem visits_all_iff {skip : Nat → Bool} (hs : ∀ k, j ≤ k → skip k = false) :
    visits skip fails j l = l ↔ ∀ a ∈ l.dropLast, fails a = false := by
  induction j, l using visits.induct skip fails with
  | case1 j => simp
  | case2 j a h | case4 j a b rest h => rw [hs j (Nat.le_refl j)] at h; cases h
  | case3 j a h => simp [visits, h]
  | case5 j a b rest h hf =>
      rw [visits_drop (Bool.eq_false_iff.mpr h) hf, List.tail_cons]
      -- the entry behind it is not visited
      have hshort := (visits_sublist skip fails (j + 1) rest).length_le
      refine iff_of_false (fun heq => ?_) (not_forall_dropLast_cons hf (List.cons_ne_nil b rest))
      have hlen := congrArg List.length heq
      simp only [List.length_cons] at hlen
      omega
  | case6 j a b rest h hf ih =>
      rw [visits_keep (Bool.eq_false_iff.mpr h) (Bool.eq_false_iff.mpr hf), List.cons_inj_right,
        ih fun k hk => hs k (by omega), forall_dropLast_cons (Bool.eq_false_iff.mpr hf)]

/-- The entry left out is not the first. -/
theorem eraseIdx_sub_cons {i : Nat} (a : A) (l : List A) (h : j < i) :
    (a :: l).eraseIdx (i - j) = a :: l.eraseIdx (i - (j + 1)) := by
  have hsub : i - j = i - (j + 1) + 1 := by omega
  rw [hsub, List.eraseIdx_cons_succ]

/-- When an entry is dropped before the one left out, the entry behind it is not visited, or
the one behind that. -/
theorem visits_others_drop {i : Nat} {a b : A} {rest : List A} (hb : b ∉ rest) (h : j < i)
    (hf : fails a = true) :
    visits (fun k => i == k) fails (j + 1) rest = (b :: rest).eraseIdx (i - (j + 1)) ↔
      ∀ x ∈ (a :: (b :: rest).eraseIdx (i - (j + 1))).dropLast, fails x = false := by
  have hsub := visits_sublist (fun k => i == k) fails (j + 1) rest
  by_cases hat : i = j + 1
  · -- the entry left out is the one behind: the entry after that is left out too
    subst hat
    rw [Nat.sub_self, List.eraseIdx_cons_zero]
    cases rest with
    | nil => simp
    | cons c rest =>
        refine iff_of_false (fun heq => ?_)
          (not_forall_dropLast_cons hf (List.cons_ne_nil c rest))
        have hrest : visits (fun k => j + 1 == k) fails (j + 1 + 1) rest = c :: rest :=
          (visits_skip (beq_self_eq_true (j + 1))).symm.trans heq
        have hshort := (visits_sublist (fun k => j + 1 == k) fails (j + 1 + 1) rest).length_le
        rw [hrest, List.length_cons] at hshort
        omega
  · rw [eraseIdx_sub_cons b rest (by omega)]
    refine iff_of_false (fun heq => ?_) (not_forall_dropLast_cons hf (List.cons_ne_nil _ _))
    exact hb (hsub.subset (by rw [heq]; exact List.mem_cons_self))

theorem visits_others_from {i : Nat} (hl : l.Nodup) (hj : j ≤ i) (hi : i < j + l.length) :
    visits (fun k => i == k) fails j l = l.eraseIdx (i - j) ↔
      ∀ a ∈ (l.eraseIdx (i - j)).dropLast, fails a = false := by
  induction j, l using visits.induct (fun k => i == k) fails with
  | case1 j =>
      rw [List.length_nil] at hi
      omega
  | case2 j a h =>
      rw [beq_iff_eq] at h
      simp [visits, h]
  | case3 j a h =>
      rw [beq_iff_eq] at h
      rw [List.length_singleton] at hi
      omega
  | case4 j a b rest h =>
      rw [visits_skip h]
      rw [beq_iff_eq] at h
      rw [h, Nat.sub_self, List.eraseIdx_cons_zero]
      exact visits_all_iff fun k hk => beq_eq_false_iff_ne.mpr (by omega)
  | case5 j a b rest h hf =>
      have hne : i ≠ j := fun heq => h (beq_iff_eq.mpr heq)
      rw [visits_drop (Bool.eq_false_iff.mpr h) hf, List.tail_cons,
        eraseIdx_sub_cons a _ (by omega), List.cons_inj_right]
      have hb := (List.nodup_cons.mp (List.nodup_cons.mp hl).2).1
      exact visits_others_drop hb (by omega) hf
  | case6 j a b rest h hf ih =>
      have hne : i ≠ j := fun heq => h (beq_iff_eq.mpr heq)
      rw [List.length_cons] at hi
      have hrest := ih (List.nodup_cons.mp hl).2 (by omega) (by omega)
      rw [visits_keep (Bool.eq_false_iff.mpr h) (Bool.eq_false_iff.mpr hf),
        eraseIdx_sub_cons a _ (by omega), List.cons_inj_right,
        forall_dropLast_cons (Bool.eq_false_iff.mpr hf)]
      exact hrest

/-- A loop that leaves out one index visits all the other entries just when only
the last of these may fail. -/
theorem visits_others_iff {i : Nat} (hl : l.Nodup) (hi : i < l.length) :
    visits (fun k => i == k) fails 0 l = l.eraseIdx i ↔
      ∀ a ∈ (l.eraseIdx i).dropLast, fails a = false := by
  have hlt : i < 0 + l.length := by omega
  exact visits_others_from hl (Nat.zero_le i) hlt

end Misses

end TapCfg.Foundation
