/-
  Foundation/Ring.lean --- a fixed array used as a ring, and filtering in place.

  A ring is an array, a base and a number of cells in use; the cells in use are
  a window that may wrap past the end.  Seen from its base (rotated), the window
  is the front of a list, so that what the ring operations do is stated and
  proved on lists.

  `Compacted` is the state of an in-place filter half way: what was kept stands
  in front, what was not looked at yet is untouched.
-/
import TapCfg.Foundation.Memory
import Mathlib.Data.List.Rotate
import Mathlib.Data.Nat.ModEq

set_option autoImplicit false

namespace TapCfg.Foundation

variable {α : Type}

/-! ## The window -/

/-- The `n` cells from `base` on, wrapping past the end. -/
def window (ring : List α) (base n : Nat) : List α := (ring.rotate base).take n

theorem window_length {ring : List α} {base n : Nat} (h : n ≤ ring.length) :
    (window ring base n).length = n := by
  simp only [window, List.length_take, List.length_rotate]
  omega

@[simp] theorem window_zero (ring : List α) (base : Nat) : window ring base 0 = [] := by
  simp [window]

theorem window_mod (ring : List α) (base n : Nat) :
    window ring (base % ring.length) n = window ring base n := by
  rw [window, List.rotate_mod, window]

/-- A write `k` cells behind the base, seen from the base. -/
theorem rotate_set (ring : List α) (base k : Nat) (x : α) (hk : k < ring.length) :
    (ring.set ((base + k) % ring.length) x).rotate base = (ring.rotate base).set k x := by
  apply List.ext_getElem?
  intro i
  by_cases hi : i < ring.length
  · rw [List.getElem?_rotate (by rwa [List.length_set]), List.length_set, List.getElem?_set,
      List.getElem?_set, List.length_rotate, List.getElem?_rotate hi, Nat.add_comm base k]
    have hpos : 0 < ring.length := by omega
    have hmod : (k + base) % ring.length < ring.length := Nat.mod_lt _ hpos
    -- two offsets below the length meet the same cell only when they are equal
    have hcell : (k + base) % ring.length = (i + base) % ring.length ↔ k = i := by
      constructor
      · intro h
        have hki : k % ring.length = i % ring.length := Nat.ModEq.add_right_cancel' base h
        rwa [Nat.mod_eq_of_lt hk, Nat.mod_eq_of_lt hi] at hki
      · rintro rfl
        rfl
    simp only [hcell, hmod, hk, if_true]
  · rw [List.getElem?_eq_none (by simpa using Nat.le_of_not_lt hi),
      List.getElem?_eq_none (by simpa using Nat.le_of_not_lt hi)]

/-- Writing just behind the window appends to it. -/
theorem window_push (ring : List α) (base : Nat) {n : Nat} (x : α) (hn : n < ring.length) :
    window (ring.set ((base + n) % ring.length) x) base (n + 1) = window ring base n ++ [x] := by
  rw [window, rotate_set ring base n x hn]
  exact take_succ_set _ n x (by rwa [List.length_rotate])

/-- The window is its first cell and the window from the next cell on. -/
theorem window_pop {ring : List α} {base n : Nat} (hb : base < ring.length)
    (hn : n < ring.length) :
    window ring base (n + 1) = ring[base] :: window ring (base + 1) n := by
  have hcons : ring.rotate base = ring[base] :: (ring.drop (base + 1) ++ ring.take base) := by
    rw [List.rotate_eq_drop_append_take (Nat.le_of_lt hb), List.drop_eq_getElem_cons hb,
      List.cons_append]
  have hnext : ring.rotate (base + 1) = ring.drop (base + 1) ++ ring.take base ++ [ring[base]] := by
    rw [← List.rotate_rotate, hcons, List.rotate_cons_succ, List.rotate_zero]
  have hlen : n ≤ (ring.drop (base + 1) ++ ring.take base).length := by
    simp only [List.length_append, List.length_drop, List.length_take]
    omega
  rw [window, window, hcons, hnext, List.take_succ_cons, List.take_append_of_le_length hlen]

/-- The cell `k` behind the base, seen from the base. -/
theorem getElem?_window {ring : List α} {base k : Nat} (hk : k < ring.length) :
    (ring.rotate base)[k]? = ring[(base + k) % ring.length]? := by
  rw [List.getElem?_rotate hk, Nat.add_comm]

/-! ## Filtering in place -/

/-- What an in-place filter of `whole` has reached: `i` cells were looked at, `j` of them kept. -/
structure Compacted (keep : α → Bool) (whole now : List α) (i j : Nat) : Prop where
  bound : i ≤ whole.length
  length : now.length = whole.length
  kept : now.take j = (whole.take i).filter keep
  count : j = ((whole.take i).filter keep).length
  rest : now.drop i = whole.drop i

namespace Compacted

variable {keep : α → Bool} {whole now : List α} {i j : Nat}

theorem start (keep : α → Bool) (whole : List α) : Compacted keep whole whole 0 0 := by
  constructor <;> simp

theorem le (h : Compacted keep whole now i j) : j ≤ i := by
  rw [h.count]
  refine Nat.le_trans (List.length_filter_le _ _) ?_
  rw [List.length_take]
  exact Nat.min_le_left _ _

/-- The next cell is still the one of the whole. -/
theorem next (h : Compacted keep whole now i j) (hi : i < whole.length) :
    now[i]? = some whole[i] := by
  have hcell : (now.drop i)[0]? = (whole.drop i)[0]? := by rw [h.rest]
  rw [List.getElem?_drop, List.getElem?_drop] at hcell
  simpa [hi] using hcell

/-- The cell looked at is not kept. -/
theorem skip (h : Compacted keep whole now i j) (hi : i < whole.length)
    (hx : keep whole[i] = false) : Compacted keep whole now (i + 1) j := by
  have htake : (whole.take (i + 1)).filter keep = (whole.take i).filter keep := by
    rw [List.take_succ_eq_append_getElem hi, List.filter_append]
    simp [hx]
  refine ⟨hi, h.length, ?_, ?_, ?_⟩
  · rw [htake, h.kept]
  · rw [htake, ← h.count]
  · rw [← List.drop_drop, ← List.drop_drop, h.rest]

/-- The cell looked at is kept: it goes behind those kept before. -/
theorem move (h : Compacted keep whole now i j) (hi : i < whole.length)
    (hx : keep whole[i] = true) : Compacted keep whole (now.set j whole[i]) (i + 1) (j + 1) := by
  have hj := h.le
  have htake : (whole.take (i + 1)).filter keep = (whole.take i).filter keep ++ [whole[i]] := by
    rw [List.take_succ_eq_append_getElem hi, List.filter_append]
    simp [hx]
  refine ⟨hi, by rw [List.length_set, h.length], ?_, ?_, ?_⟩
  · rw [take_succ_set now j _ (by rw [h.length]; omega), h.kept, htake]
  · rw [htake, List.length_append, ← h.count]
    rfl
  · rw [List.drop_set_of_lt (by omega), ← List.drop_drop, ← List.drop_drop, h.rest]

end Compacted

end TapCfg.Foundation
