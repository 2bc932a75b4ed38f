/-
  Foundation/Buckets.lean --- a table of buckets is a list.

  Every element belongs to the bucket its slot names.  As long as each bucket
  holds its elements in the order of one common list, the table answers as the
  list would: whoever looks for elements of one slot looks into one bucket.
-/
import Mathlib.Algebra.BigOperators.Fin

set_option autoImplicit false

namespace TapCfg.Foundation

variable {α : Type} {n : Nat}

/-! ## Unlinking -/

/-- The first element that is wanted, and the list without it. -/
def unlink (wanted : α → Bool) : List α → Option (α × List α)
  | [] => none
  | a :: l =>
      if wanted a then some (a, l)
      else (unlink wanted l).map fun found => (found.1, a :: found.2)

theorem unlink_eq (wanted : α → Bool) (l : List α) :
    unlink wanted l = (l.find? wanted).map fun a => (a, l.eraseP wanted) := by
  induction l with
  | nil => rfl
  | cons a l ih =>
      unfold unlink
      by_cases ha : wanted a = true
      · rw [if_pos ha, List.find?_cons_of_pos ha, List.eraseP_cons_of_pos ha]
        rfl
      · rw [if_neg ha, List.find?_cons_of_neg ha, List.eraseP_cons_of_neg ha, ih, Option.map_map]
        rfl

/-- The one that is found is the one that is erased. -/
theorem eraseP_of_find [DecidableEq α] {p : α → Bool} {l : List α} {a : α}
    (h : l.find? p = some a) : l.eraseP p = l.erase a := by
  induction l with
  | nil => cases h
  | cons c l ih =>
      by_cases hc : p c = true
      · rw [List.find?_cons_of_pos hc, Option.some.injEq] at h
        subst h
        rw [List.eraseP_cons_of_pos hc, List.erase_cons_head]
      · rw [List.find?_cons_of_neg hc] at h
        have hne : c ≠ a := by
          rintro rfl
          exact hc (List.find?_some h)
        rw [List.eraseP_cons_of_neg hc, ih h, List.erase_cons_tail (by simpa using hne)]

/-- Erasing one that is kept, before or after the others are left out. -/
theorem filter_eraseP_of_imp {p q : α → Bool} (h : ∀ a, p a = true → q a = true) (l : List α) :
    (l.eraseP p).filter q = (l.filter q).eraseP p := by
  rw [List.eraseP_filter]
  have hsame : (fun a => p a && q a) = p := by
    funext a
    cases hp : p a with
    | false => rfl
    | true => rw [h a hp]; rfl
  rw [hsame]

/-- Erasing one that is left out anyway. -/
theorem filter_eraseP_of_not {p q : α → Bool} (h : ∀ a, p a = true → q a = false) (l : List α) :
    (l.eraseP p).filter q = l.filter q := by
  induction l with
  | nil => rfl
  | cons a l ih =>
      cases hp : p a with
      | true => rw [List.eraseP_cons_of_pos hp, List.filter_cons_of_neg (by rw [h a hp]; decide)]
      | false =>
          rw [List.eraseP_cons_of_neg (by rw [hp]; decide), List.filter_cons, List.filter_cons, ih]

/-! ## Buckets -/

/-- Buckets, by their number. -/
abbrev Buckets (α : Type) (n : Nat) : Type := Vector (List α) n

/-- The buckets hold what the list holds, each element in its own, in the order of the list. -/
def Sorts (slot : α → Fin n) (b : Buckets α n) (l : List α) : Prop :=
  ∀ i : Fin n, b[i] = l.filter fun a => decide (slot a = i)

namespace Sorts

variable {slot : α → Fin n} {b : Buckets α n} {l : List α}

theorem nil : Sorts slot (Vector.replicate n []) [] := by
  intro i
  simp

/-- A new element goes to the front of its bucket. -/
theorem push (h : Sorts slot b l) (a : α) :
    Sorts slot (b.set (slot a) (a :: b[slot a])) (a :: l) := by
  intro i
  by_cases hi : slot a = i
  · subst hi
    rw [List.filter_cons_of_pos (by simp), ← h (slot a)]
    simp
  · have hne : (slot a : Nat) ≠ i := fun heq => hi (Fin.ext heq)
    rw [List.filter_cons_of_neg (by simpa using hi), ← h i]
    simp [hne]

/-- Elements of one slot are found in one bucket. -/
theorem find (h : Sorts slot b l) {i : Fin n} {wanted : α → Bool}
    (hslot : ∀ a, wanted a = true → slot a = i) : b[i].find? wanted = l.find? wanted := by
  rw [h i, List.find?_filter]
  congr 1
  funext a
  cases ha : wanted a with
  | false => simp
  | true => simp [hslot a ha]

/-- Elements of one slot are erased in one bucket. -/
theorem erase (h : Sorts slot b l) {i : Fin n} {wanted : α → Bool}
    (hslot : ∀ a, wanted a = true → slot a = i) :
    Sorts slot (b.set i (b[i].eraseP wanted)) (l.eraseP wanted) := by
  intro j
  by_cases hj : i = j
  · subst hj
    rw [filter_eraseP_of_imp fun a ha => decide_eq_true (hslot a ha), ← h i]
    simp
  · have hne : (i : Nat) ≠ j := fun heq => hj (Fin.ext heq)
    have hother : ∀ a, wanted a = true → decide (slot a = j) = false := by
      intro a ha
      rw [hslot a ha]
      exact decide_eq_false hj
    rw [filter_eraseP_of_not hother, ← h j]
    simp [hne]

/-- One that is found goes to the front of its bucket. -/
theorem refresh (h : Sorts slot b l) {i : Fin n} {a : α} {wanted : α → Bool}
    (hslot : ∀ c, wanted c = true → slot c = i) (ha : wanted a = true) :
    Sorts slot (b.set i (a :: b[i].eraseP wanted)) (a :: l.eraseP wanted) := by
  have hi := hslot a ha
  subst hi
  have hpush := (h.erase hslot).push a
  simpa using hpush

/-- The table has as many elements as the list. -/
theorem length (h : Sorts slot b l) : ∑ i : Fin n, b[i].length = l.length := by
  have hbuckets : ∀ i : Fin n, b[i].length = (l.filter fun a => decide (slot a = i)).length :=
    fun i => by rw [h i]
  rw [Finset.sum_congr rfl fun i _ => hbuckets i]
  clear h hbuckets
  induction l with
  | nil => simp
  | cons a l ih =>
      have hcons : ∀ i : Fin n, ((a :: l).filter fun a => decide (slot a = i)).length =
          (if slot a = i then 1 else 0) + (l.filter fun a => decide (slot a = i)).length := by
        intro i
        by_cases hi : slot a = i
        · simp [hi, Nat.add_comm]
        · simp [hi]
      rw [Finset.sum_congr rfl fun i _ => hcons i, Finset.sum_add_distrib, ih]
      simp [Nat.add_comm]

end Sorts

end TapCfg.Foundation
