/-
  Foundation/Checksum.lean --- the checksum of the Internet protocols.

  The bytes are read as 16 bit words, high byte in front, and added up; the
  carries are added in at the other end until none is left; the checksum is the
  complement.  A message that carries its checksum then folds to all ones
  (`foldCarries_add_complement`), which is how a receiver checks it.
-/
import TapCfg.Foundation.Framing
import Mathlib.Data.Nat.ModEq

set_option autoImplicit false

namespace TapCfg.Foundation

/-! ## Words -/

/-- The sum of the words; a zero is put behind an odd byte. -/
def wordSum : List Byte → Nat
  | [] => 0
  | [b] => 256 * b.toNat
  | a :: b :: rest => 256 * a.toNat + b.toNat + wordSum rest

/-- Behind an even number of bytes the words are the same. -/
theorem wordSum_append {xs : List Byte} (h : xs.length % 2 = 0) (ys : List Byte) :
    wordSum (xs ++ ys) = wordSum xs + wordSum ys := by
  induction xs using wordSum.induct with
  | case1 => simp [wordSum]
  | case2 b => simp at h
  | case3 a b rest ih =>
      have hrest : rest.length % 2 = 0 := by
        simp only [List.length_cons] at h
        omega
      simp only [List.cons_append, wordSum, ih hrest]
      omega

theorem wordSum_le (xs : List Byte) : 2 * wordSum xs ≤ 65535 * (xs.length + 1) := by
  induction xs using wordSum.induct with
  | case1 => simp [wordSum]
  | case2 b =>
      have hb := b.toNat_lt
      simp only [wordSum, List.length_singleton]
      omega
  | case3 a b rest ih =>
      have ha := a.toNat_lt
      have hb := b.toNat_lt
      simp only [wordSum, List.length_cons]
      omega

/-- A word with its high byte in front. -/
theorem wordSum_word {n : Nat} (hn : n < 65536) :
    wordSum [UInt8.ofNat (n / 256), UInt8.ofNat n] = n := by
  simp only [wordSum, UInt8.toNat_ofNat']
  omega

/-! ## Carries -/

/-- `foldCarries`, in at most so many rounds. -/
def foldCarriesIn : Nat → Nat → Nat
  | 0, s => s
  | rounds + 1, s =>
      if s / 65536 = 0 then s else foldCarriesIn rounds (s % 65536 + s / 65536)

/-- Add the carries until none is left. -/
def foldCarries (s : Nat) : Nat := foldCarriesIn s s

theorem foldCarriesIn_spec {rounds s : Nat} (h : s ≤ rounds) :
    foldCarriesIn rounds s < 65536 ∧ foldCarriesIn rounds s ≡ s [MOD 65535] ∧
      (foldCarriesIn rounds s = 0 ↔ s = 0) := by
  induction rounds generalizing s with
  | zero =>
      have hs : s = 0 := Nat.le_zero.mp h
      subst hs
      exact ⟨by decide, rfl, Iff.rfl⟩
  | succ rounds ih =>
      rw [foldCarriesIn]
      by_cases hsmall : s / 65536 = 0
      · rw [if_pos hsmall]
        exact ⟨by omega, rfl, Iff.rfl⟩
      · rw [if_neg hsmall]
        -- a carry is worth 65536, which is one more than the modulus
        have hmod : s % 65536 + s / 65536 ≡ s [MOD 65535] := by
          unfold Nat.ModEq
          omega
        obtain ⟨hlt, heq, hzero⟩ := ih (s := s % 65536 + s / 65536) (by omega)
        refine ⟨hlt, heq.trans hmod, hzero.trans ?_⟩
        omega

theorem foldCarries_lt (s : Nat) : foldCarries s < 65536 :=
  (foldCarriesIn_spec (Nat.le_refl s)).1

theorem foldCarries_modEq (s : Nat) : foldCarries s ≡ s [MOD 65535] :=
  (foldCarriesIn_spec (Nat.le_refl s)).2.1

theorem foldCarries_eq_zero (s : Nat) : foldCarries s = 0 ↔ s = 0 :=
  (foldCarriesIn_spec (Nat.le_refl s)).2.2

/-- All ones are the multiples of the modulus, zero apart. -/
theorem foldCarries_eq_ones {s : Nat} : foldCarries s = 65535 ↔ s ≠ 0 ∧ s % 65535 = 0 := by
  have hlt := foldCarries_lt s
  have hmod : foldCarries s % 65535 = s % 65535 := foldCarries_modEq s
  have hzero := foldCarries_eq_zero s
  constructor
  · intro h
    refine ⟨fun hs => ?_, by omega⟩
    rw [hzero.mpr hs] at h
    cases h
  · rintro ⟨hs, hs'⟩
    have hne : foldCarries s ≠ 0 := fun h => hs (hzero.mp h)
    omega

/-- The checksum of a sum. -/
def complement (s : Nat) : Nat := 65535 - foldCarries s

theorem complement_lt (s : Nat) : complement s < 65536 := by
  unfold complement
  omega

/-- A sum and its checksum fold to all ones. -/
theorem foldCarries_add_complement (s : Nat) : foldCarries (s + complement s) = 65535 := by
  have hlt := foldCarries_lt s
  have hmod : foldCarries s % 65535 = s % 65535 := foldCarries_modEq s
  have hzero := foldCarries_eq_zero s
  rw [foldCarries_eq_ones, complement]
  constructor
  · intro h
    have hs : s = 0 := by omega
    rw [hzero.mpr hs] at h
    omega
  · omega

/-- A message that carries its checksum has the checksum zero. -/
theorem complement_add_complement (s : Nat) : complement (s + complement s) = 0 := by
  rw [complement, foldCarries_add_complement]

/-- Storing a word where zeros were adds it to the sum. -/
theorem wordSum_store {front : List Byte} (h : front.length % 2 = 0) (back : List Byte) {n : Nat}
    (hn : n < 65536) :
    wordSum (front ++ ([UInt8.ofNat (n / 256), UInt8.ofNat n] ++ back)) =
      wordSum (front ++ ([0, 0] ++ back)) + n := by
  have hword := wordSum_word hn
  have hzero : wordSum [0, 0] = 0 := rfl
  rw [wordSum_append h, wordSum_append h, wordSum_append (by simp), wordSum_append (by simp), hword,
    hzero]
  omega

/-- A message in which the checksum was stored over zeros has the checksum zero. -/
theorem complement_stored {front : List Byte} (h : front.length % 2 = 0) (back : List Byte)
    {extra c : Nat} (hc : c = complement (wordSum (front ++ ([0, 0] ++ back)) + extra)) :
    complement (wordSum (front ++ ([UInt8.ofNat (c / 256), UInt8.ofNat c] ++ back)) + extra)
      = 0 := by
  have hlt : c < 65536 := hc ▸ complement_lt _
  have hsum : wordSum (front ++ ([0, 0] ++ back)) + c + extra
      = wordSum (front ++ ([0, 0] ++ back)) + extra + c := by omega
  rw [wordSum_store h back hlt, hsum, hc]
  exact complement_add_complement _

end TapCfg.Foundation
