/-
  Foundation/Memory.lean --- moving and overwriting parts of a fixed buffer.

  Memory is a list of cells of fixed length.  `memmove` refuses a move that
  leaves the buffer, so that "no access is out of bounds" is a statement about
  its result.
-/
import Mathlib.Data.List.Basic

set_option autoImplicit false

namespace TapCfg.Foundation

variable {α : Type}

/-- `memmove(buf + dst, buf + src, n)`; `none` when it would leave the buffer. -/
def memmove (buf : List α) (dst src n : Nat) : Option (List α) :=
  if src + n ≤ buf.length ∧ dst + n ≤ buf.length then
    some (buf.take dst ++ (buf.drop src).take n ++ buf.drop (dst + n))
  else none

/-- `buf[i] = x`; `none` when it would leave the buffer. -/
def store (buf : List α) (i : Nat) (x : α) : Option (List α) :=
  if i < buf.length then some (buf.set i x) else none

/-- `memcpy(dst, src, n)`; `none` when it would leave one of the two buffers. -/
def memcpy (dst src : List α) (n : Int) : Option (List α) :=
  if 0 ≤ n ∧ n ≤ src.length ∧ n ≤ dst.length then
    some (src.take n.toNat ++ dst.drop n.toNat)
  else none

/-- The buffer after `chunk` was written at offset `i`. -/
def splice (buf : List α) (i : Nat) (chunk : List α) : List α :=
  buf.take i ++ chunk ++ buf.drop (i + chunk.length)

theorem store_eq_some {buf : List α} {i : Nat} {x : α} (h : i < buf.length) :
    store buf i x = some (buf.set i x) := if_pos h

/-- Storing just after the first `n` cells appends to them. -/
theorem take_succ_set (buf : List α) (n : Nat) (x : α) (h : n < buf.length) :
    (buf.set n x).take (n + 1) = buf.take n ++ [x] := by
  rw [List.take_succ_eq_append_getElem (by simpa using h), List.take_set_of_le (Nat.le_refl n)]
  simp

/-- Moving the cells behind one down by one erases it from the first `n`. -/
theorem memmove_down {buf : List α} {i n : Nat} (hi : i < n) (hn : n ≤ buf.length) :
    ∃ buf', memmove buf i (i + 1) (n - i - 1) = some buf' ∧ buf'.length = buf.length ∧
      buf'.take (n - 1) = (buf.take n).eraseIdx i := by
  have hlen : i + 1 + (n - i - 1) = n := by omega
  have hlen' : i + (n - i - 1) = n - 1 := by omega
  refine ⟨_, if_pos (by omega), ?_, ?_⟩
  · simp only [List.length_append, List.length_take, List.length_drop]
    omega
  · have hfront : (buf.take i ++ (buf.drop (i + 1)).take (n - i - 1)).length = n - 1 := by
      simp only [List.length_append, List.length_take, List.length_drop]
      omega
    rw [List.take_append_of_le_length (by omega), List.take_of_length_le (by omega),
      List.eraseIdx_eq_take_drop_succ, List.take_take, List.drop_take, Nat.min_eq_left (by omega)]
    congr 2

/-- The last of the first `n` cells is erased by forgetting it. -/
theorem take_pred_eq_eraseIdx {buf : List α} {n : Nat} (hn : 0 < n) (hle : n ≤ buf.length) :
    buf.take (n - 1) = (buf.take n).eraseIdx (n - 1) := by
  have hlen : (buf.take n).length = n := by simp only [List.length_take]; omega
  have hdrop : (buf.take n).drop (n - 1 + 1) = [] := List.drop_eq_nil_of_le (by omega)
  rw [List.eraseIdx_eq_take_drop_succ, hdrop, List.append_nil, List.take_take,
    Nat.min_eq_left (by omega)]

@[simp] theorem splice_length {buf chunk : List α} {i : Nat}
    (h : i + chunk.length ≤ buf.length) : (splice buf i chunk).length = buf.length := by
  simp only [splice, List.length_append, List.length_take, List.length_drop]
  omega

/-- Writing behind what was written extends it. -/
theorem splice_append (got chunk old : List α) :
    splice (got ++ old.drop got.length) got.length chunk =
      (got ++ chunk) ++ old.drop (got ++ chunk).length := by
  simp [splice, List.drop_append, List.drop_drop]

end TapCfg.Foundation
