/-
  Foundation/Layout.lean --- packed structures in memory.

  A layout says how the values of a type lie in a fixed number of bytes, with
  no padding.  It carries its own round trips, so that the layout of a structure
  is put together from those of its fields and needs no proof of its own.

  Words are little-endian.
-/
import TapCfg.Foundation.Framing

set_option autoImplicit false

namespace TapCfg.Foundation

/-- How the values of a type lie in memory. -/
structure Layout (α : Type) where
  size : Nat
  bytes : α → List Byte
  /-- the value at the front of the memory; `none` when the memory is too short -/
  read : List Byte → Option α
  length_bytes : ∀ a, (bytes a).length = size
  read_bytes : ∀ a rest, read (bytes a ++ rest) = some a
  bytes_read : ∀ l a, read l = some a → l.take size = bytes a
  read_isSome : ∀ l, (read l).isSome = decide (size ≤ l.length)

namespace Layout

variable {α β : Type}

/-- A memory that is long enough holds a value, and the value is its front. -/
theorem exists_read (L : Layout α) {l : List Byte} (h : L.size ≤ l.length) :
    ∃ a, L.read l = some a ∧ l = L.bytes a ++ l.drop L.size := by
  have hsome : (L.read l).isSome = true := by rw [L.read_isSome, decide_eq_true h]
  obtain ⟨a, ha⟩ := Option.isSome_iff_exists.mp hsome
  refine ⟨a, ha, ?_⟩
  rw [← L.bytes_read l a ha, List.take_append_drop]

theorem read_eq_none (L : Layout α) {l : List Byte} (h : l.length < L.size) : L.read l = none := by
  have hsome := L.read_isSome l
  rw [decide_eq_false (by omega)] at hsome
  simpa using hsome

theorem le_of_read (L : Layout α) {l : List Byte} {a : α} (h : L.read l = some a) :
    L.size ≤ l.length := by
  have hsome := L.read_isSome l
  rw [h] at hsome
  simpa using hsome.symm

/-! ## Fields -/

/-- A byte. -/
def u8 : Layout Byte where
  size := 1
  bytes b := [b]
  read l := l.head?
  length_bytes _ := rfl
  read_bytes _ _ := rfl
  bytes_read l a h := by
    cases l with
    | nil => cases h
    | cons b l => simpa using h
  read_isSome l := by cases l <;> simp

/-- An array of bytes. -/
def array (n : Nat) : Layout (Vector Byte n) where
  size := n
  bytes v := v.toList
  read l := if h : n ≤ l.length then some ⟨(l.take n).toArray, by simpa using Nat.min_eq_left h⟩ else none
  length_bytes v := by simp
  read_bytes v rest := by
    rw [dif_pos (by simp)]
    congr 1
    apply Vector.toList_inj.mp
    simp [Vector.toList]
  bytes_read l v h := by
    split at h
    · cases h
      simp [Vector.toList]
    · cases h
  read_isSome l := by
    split <;> simp [*]

/-- One structure behind the other. -/
def pair (A : Layout α) (B : Layout β) : Layout (α × β) where
  size := A.size + B.size
  bytes p := A.bytes p.1 ++ B.bytes p.2
  read l := do
    let a ← A.read l
    let b ← B.read (l.drop A.size)
    some (a, b)
  length_bytes p := by rw [List.length_append, A.length_bytes, B.length_bytes]
  read_bytes p rest := by
    have hdrop : (A.bytes p.1 ++ (B.bytes p.2 ++ rest)).drop A.size = B.bytes p.2 ++ rest :=
      List.drop_left' (A.length_bytes p.1)
    simp [List.append_assoc, A.read_bytes, hdrop, B.read_bytes]
  bytes_read l p h := by
    simp only [Option.bind_eq_bind, Option.bind_eq_some_iff, Option.some.injEq] at h
    obtain ⟨a, ha, b, hb, rfl⟩ := h
    rw [List.take_add, A.bytes_read l a ha, B.bytes_read _ b hb]
  read_isSome l := by
    by_cases ha : A.size ≤ l.length
    · obtain ⟨a, hra, -⟩ := A.exists_read ha
      by_cases hb : A.size + B.size ≤ l.length
      · have hrest : B.size ≤ (l.drop A.size).length := by
          rw [List.length_drop]
          omega
        obtain ⟨b, hrb, -⟩ := B.exists_read hrest
        simp [hra, hrb, hb]
      · have hrest : (l.drop A.size).length < B.size := by
          rw [List.length_drop]
          omega
        simp [B.read_eq_none hrest, hb]
    · have hab : ¬ A.size + B.size ≤ l.length := by omega
      simp [A.read_eq_none (Nat.lt_of_not_le ha), hab]

/-- A structure with named fields. -/
def struct (A : Layout α) (make : α → β) (fields : β → α) (make_fields : ∀ b, make (fields b) = b)
    (fields_make : ∀ a, fields (make a) = a) : Layout β where
  size := A.size
  bytes b := A.bytes (fields b)
  read l := (A.read l).map make
  length_bytes b := A.length_bytes _
  read_bytes b rest := by rw [A.read_bytes, Option.map_some, make_fields]
  bytes_read l b h := by
    obtain ⟨a, ha, rfl⟩ := Option.map_eq_some_iff.mp h
    rw [A.bytes_read l a ha, fields_make]
  read_isSome l := by rw [Option.isSome_map, A.read_isSome]

/-! ## Words -/

/-- A word of 16 bits. -/
def u16 : Layout (BitVec 16) :=
  (pair u8 u8).struct (fun p => BitVec.ofNat 16 (p.1.toNat + 256 * p.2.toNat))
    (fun x => (UInt8.ofNat x.toNat, UInt8.ofNat (x.toNat / 256)))
    (fun x => by
      apply BitVec.eq_of_toNat_eq
      have hx : x.toNat < 2 ^ 16 := x.isLt
      simp only [BitVec.toNat_ofNat, UInt8.toNat_ofNat']
      omega)
    (fun p => by
      obtain ⟨a, b⟩ := p
      have ha := a.toNat_lt
      have hb := b.toNat_lt
      rw [Prod.mk.injEq]
      constructor
      · apply UInt8.toNat_inj.mp
        simp only [BitVec.toNat_ofNat, UInt8.toNat_ofNat']
        omega
      · apply UInt8.toNat_inj.mp
        simp only [BitVec.toNat_ofNat, UInt8.toNat_ofNat']
        omega)

/-- A word of 32 bits. -/
def u32 : Layout (BitVec 32) :=
  (pair u16 u16).struct (fun p => BitVec.ofNat 32 (p.1.toNat + 65536 * p.2.toNat))
    (fun x => (BitVec.ofNat 16 x.toNat, BitVec.ofNat 16 (x.toNat / 65536)))
    (fun x => by
      apply BitVec.eq_of_toNat_eq
      have hx : x.toNat < 2 ^ 32 := x.isLt
      simp only [BitVec.toNat_ofNat]
      omega)
    (fun p => by
      obtain ⟨a, b⟩ := p
      have ha : a.toNat < 2 ^ 16 := a.isLt
      have hb : b.toNat < 2 ^ 16 := b.isLt
      rw [Prod.mk.injEq]
      constructor
      · apply BitVec.eq_of_toNat_eq
        simp only [BitVec.toNat_ofNat]
        omega
      · apply BitVec.eq_of_toNat_eq
        simp only [BitVec.toNat_ofNat]
        omega)

/-- `htons`, and `ntohs`: the bytes in the other order. -/
def htons (x : BitVec 16) : BitVec 16 := BitVec.ofNat 16 (x.toNat / 256 + 256 * (x.toNat % 256))

theorem htons_toNat (x : BitVec 16) :
    (htons x).toNat = x.toNat / 256 + 256 * (x.toNat % 256) := by
  have hx : x.toNat < 2 ^ 16 := x.isLt
  rw [htons, BitVec.toNat_ofNat]
  omega

@[simp] theorem htons_htons (x : BitVec 16) : htons (htons x) = x := by
  apply BitVec.eq_of_toNat_eq
  have hx : x.toNat < 2 ^ 16 := x.isLt
  rw [htons_toNat, htons_toNat]
  omega

/-- A word in network order lies in memory with its high byte in front. -/
theorem u16_bytes_htons (x : BitVec 16) :
    u16.bytes (htons x) = [UInt8.ofNat (x.toNat / 256), UInt8.ofNat x.toNat] := by
  have hx : x.toNat < 2 ^ 16 := x.isLt
  have hlow : UInt8.ofNat (htons x).toNat = UInt8.ofNat (x.toNat / 256) := by
    apply UInt8.toNat_inj.mp
    simp only [htons_toNat, UInt8.toNat_ofNat']
    omega
  have hhigh : UInt8.ofNat ((htons x).toNat / 256) = UInt8.ofNat x.toNat := by
    have hdiv : (htons x).toNat / 256 = x.toNat % 256 := by
      rw [htons_toNat]
      omega
    apply UInt8.toNat_inj.mp
    rw [hdiv, UInt8.toNat_ofNat', UInt8.toNat_ofNat', Nat.mod_mod]
  show [UInt8.ofNat (htons x).toNat] ++ [UInt8.ofNat ((htons x).toNat / 256)] = _
  rw [hlow, hhigh]
  rfl

end Layout

end TapCfg.Foundation
