/-
  Foundation/Framing.lean --- length-prefixed records on a byte stream.

  A record is a 2-byte big-endian length followed by that many bytes.  `records`
  is the encoder of a list of frames and `cut` the reference decoder of an
  arbitrary stream: it stops before the first record that is not complete or
  whose length is 0 or greater than the bound.

      cut_records_append   what was encoded is cut back, whatever follows
      cut_mono             more bytes never change the frames already cut
      records_inside       a stream inside an encoding carries a prefix of its frames
-/
import Mathlib.Data.List.Basic

set_option autoImplicit false

namespace TapCfg.Foundation

/-- A byte of a stream. -/
abbrev Byte : Type := UInt8

/-- The 2-byte big-endian length. -/
def header (n : Nat) : List Byte := [UInt8.ofNat (n / 256), UInt8.ofNat n]

/-- The length the first two bytes of a stream announce. -/
def headerValue : List Byte → Nat
  | b₀ :: b₁ :: _ => b₀.toNat * 256 + b₁.toNat
  | _ => 0

/-- One frame on the wire. -/
def record (f : List Byte) : List Byte := header f.length ++ f

/-- A list of frames on the wire. -/
def records (fs : List (List Byte)) : List Byte := fs.flatMap record

/-- A frame a bounded decoder accepts. -/
def Legal (maxLen : Nat) (f : List Byte) : Prop := 1 ≤ f.length ∧ f.length ≤ maxLen

/-- The stream begins with a length no decoder of this bound accepts. -/
def BadHead (maxLen : Nat) (s : List Byte) : Prop :=
  2 ≤ s.length ∧ (headerValue s = 0 ∨ maxLen < headerValue s)

/-- The stream ends before its first record does. -/
def Short (maxLen : Nat) (s : List Byte) : Prop :=
  s.length < 2 ∨ (headerValue s ≤ maxLen ∧ s.length < 2 + headerValue s)

instance (maxLen : Nat) (f : List Byte) : Decidable (Legal maxLen f) :=
  inferInstanceAs (Decidable (_ ∧ _))

instance (maxLen : Nat) (s : List Byte) : Decidable (BadHead maxLen s) :=
  inferInstanceAs (Decidable (_ ∧ _))

instance (maxLen : Nat) (s : List Byte) : Decidable (Short maxLen s) :=
  inferInstanceAs (Decidable (_ ∨ _))

/-- The reference decoder. -/
def cut (maxLen : Nat) : List Byte → List (List Byte)
  | b₀ :: b₁ :: rest =>
      let n := headerValue [b₀, b₁]
      if n = 0 ∨ maxLen < n ∨ rest.length < n then []
      else rest.take n :: cut maxLen (rest.drop n)
  | _ => []
  termination_by s => s.length
  decreasing_by simp only [List.length_drop, List.length_cons]; omega

/-! ## Headers -/

@[simp] theorem header_length (n : Nat) : (header n).length = 2 := rfl

theorem record_ne_nil (f : List Byte) : record f ≠ [] := by simp [record, header]

@[simp] theorem record_length (f : List Byte) : (record f).length = 2 + f.length := by
  simp [record]

theorem headerValue_header {n : Nat} (h : n < 65536) (s : List Byte) :
    headerValue (header n ++ s) = n := by
  have h1 : n / 256 % 2 ^ 8 = n / 256 := Nat.mod_eq_of_lt (by omega)
  simp only [header, headerValue, List.cons_append, UInt8.toNat_ofNat', h1]
  omega

/-- Two bytes are the header of the value they announce. -/
theorem header_headerValue (b₀ b₁ : Byte) : header (headerValue [b₀, b₁]) = [b₀, b₁] := by
  have h0 := b₀.toNat_lt
  have h1 := b₁.toNat_lt
  have e : (b₀.toNat * 256 + b₁.toNat) / 256 = b₀.toNat := by omega
  have e' : UInt8.ofNat (b₀.toNat * 256 + b₁.toNat) = b₁ := by
    apply UInt8.toNat_inj.mp
    rw [UInt8.toNat_ofNat']
    omega
  simp only [header, headerValue, e, e', UInt8.ofNat_toNat]

theorem headerValue_append {s : List Byte} (h : 2 ≤ s.length) (t : List Byte) :
    headerValue (s ++ t) = headerValue s := by
  match s, h with
  | _ :: _ :: _, _ => rfl

theorem headerValue_record {f : List Byte} (h : f.length < 65536) (s : List Byte) :
    headerValue (record f ++ s) = f.length := by
  rw [record, List.append_assoc, headerValue_header h]

theorem BadHead.append {maxLen : Nat} {s : List Byte} (h : BadHead maxLen s) (t : List Byte) :
    BadHead maxLen (s ++ t) := by
  refine ⟨?_, by rw [headerValue_append h.1]; exact h.2⟩
  have := h.1
  simp only [List.length_append]
  omega

/-! ## Encoding -/

@[simp] theorem records_nil : records [] = [] := rfl

@[simp] theorem records_append (fs gs : List (List Byte)) :
    records (fs ++ gs) = records fs ++ records gs := by
  simp [records]

@[simp] theorem records_singleton (f : List Byte) : records [f] = record f := by
  simp [records]

theorem records_cons (f : List Byte) (fs : List (List Byte)) :
    records (f :: fs) = record f ++ records fs := by
  simp [records]

/-! ## Cutting -/

section Cut

variable {maxLen : Nat}

/-- The decoder stops at a length it does not accept and at an unfinished record. -/
theorem cut_cons_stop {b₀ b₁ : Byte} {rest : List Byte}
    (h : headerValue [b₀, b₁] = 0 ∨ maxLen < headerValue [b₀, b₁] ∨
      rest.length < headerValue [b₀, b₁]) : cut maxLen (b₀ :: b₁ :: rest) = [] := by
  rw [cut]
  exact if_pos h

/-- The decoder takes a complete record of legal length. -/
theorem cut_cons_go {b₀ b₁ : Byte} {rest : List Byte}
    (h : ¬ (headerValue [b₀, b₁] = 0 ∨ maxLen < headerValue [b₀, b₁] ∨
      rest.length < headerValue [b₀, b₁])) :
    cut maxLen (b₀ :: b₁ :: rest) =
      rest.take (headerValue [b₀, b₁]) :: cut maxLen (rest.drop (headerValue [b₀, b₁])) := by
  rw [cut]
  exact if_neg h

theorem cut_of_length_lt {s : List Byte} (h : s.length < 2) : cut maxLen s = [] := by
  match s with
  | [] => simp [cut]
  | [_] => simp [cut]
  | _ :: _ :: _ =>
      simp only [List.length_cons] at h
      omega

theorem cut_of_badHead {s : List Byte} (h : BadHead maxLen s) : cut maxLen s = [] := by
  match s, h with
  | _ :: _ :: _, ⟨_, h⟩ => exact cut_cons_stop (h.imp_right Or.inl)

/-- The first record of a stream is cut off it. -/
theorem cut_record_append (hmax : maxLen < 65536) {f : List Byte} (h : Legal maxLen f)
    (s : List Byte) : cut maxLen (record f ++ s) = f :: cut maxLen s := by
  have hlen : headerValue [UInt8.ofNat (f.length / 256), UInt8.ofNat f.length] = f.length :=
    headerValue_header (n := f.length) (by have := h.2; omega) []
  have hnot : ¬ (f.length = 0 ∨ maxLen < f.length ∨ (f ++ s).length < f.length) := by
    have h1 := h.1
    have h2 := h.2
    simp only [List.length_append]
    omega
  show cut maxLen (UInt8.ofNat (f.length / 256) :: UInt8.ofNat f.length :: (f ++ s)) = _
  rw [cut_cons_go (by rw [hlen]; exact hnot), hlen, List.take_left, List.drop_left]

/-- What was encoded is cut back, whatever bytes follow. -/
theorem cut_records_append (hmax : maxLen < 65536) {fs : List (List Byte)}
    (h : ∀ f ∈ fs, Legal maxLen f) (s : List Byte) :
    cut maxLen (records fs ++ s) = fs ++ cut maxLen s := by
  induction fs with
  | nil => simp
  | cons f fs ih =>
      have hf : Legal maxLen f := h f List.mem_cons_self
      have hfs : ∀ g ∈ fs, Legal maxLen g := fun g hg => h g (List.mem_cons_of_mem f hg)
      rw [records_cons, List.append_assoc, cut_record_append hmax hf, ih hfs, List.cons_append]

theorem cut_records (hmax : maxLen < 65536) {fs : List (List Byte)}
    (h : ∀ f ∈ fs, Legal maxLen f) : cut maxLen (records fs) = fs := by
  have := cut_records_append hmax h []
  simpa [cut_of_length_lt] using this

/-- Every stream is an encoding of the frames cut from it, and a rest. -/
theorem cut_split (maxLen : Nat) (s : List Byte) :
    ∃ rest, s = records (cut maxLen s) ++ rest ∧ ∀ f ∈ cut maxLen s, Legal maxLen f := by
  induction s using cut.induct maxLen with
  | case1 b₀ b₁ rest n hstop =>
      rw [cut_cons_stop hstop]
      exact ⟨b₀ :: b₁ :: rest, rfl, by simp⟩
  | case2 b₀ b₁ rest n hgo ih =>
      obtain ⟨tail, htail, hlegal⟩ := ih
      have hcut : cut maxLen (b₀ :: b₁ :: rest) = rest.take n :: cut maxLen (rest.drop n) :=
        cut_cons_go hgo
      have hlen : (rest.take n).length = n := by simp only [List.length_take]; omega
      refine ⟨tail, ?_, ?_⟩
      · rw [hcut, records_cons, List.append_assoc, ← htail, record, hlen, header_headerValue,
          List.append_assoc, List.take_append_drop]
        rfl
      · rw [hcut]
        intro f hf
        rcases List.mem_cons.mp hf with rfl | hf
        · exact ⟨by omega, by omega⟩
        · exact hlegal f hf
  | case3 s hs =>
      refine ⟨s, ?_, ?_⟩ <;> rw [cut.eq_2 _ _ hs] <;> simp

/-- More bytes never change the frames already cut. -/
theorem cut_mono (hmax : maxLen < 65536) {s t : List Byte} (h : s <+: t) :
    cut maxLen s <+: cut maxLen t := by
  obtain ⟨u, rfl⟩ := h
  obtain ⟨rest, hs, hlegal⟩ := cut_split maxLen s
  have hcut : cut maxLen (s ++ u) = cut maxLen s ++ cut maxLen (rest ++ u) := by
    conv => lhs; rw [hs, List.append_assoc, cut_records_append hmax hlegal]
  rw [hcut]
  exact List.prefix_append _ _

/-- A stream inside an encoding carries a prefix of the encoded frames, and
what follows them is inside the encoding of the others. -/
theorem records_inside (hmax : maxLen < 65536) {fs gs : List (List Byte)} {s : List Byte}
    (hfs : ∀ f ∈ fs, Legal maxLen f) (hgs : ∀ g ∈ gs, Legal maxLen g)
    (h : records fs ++ s <+: records gs) :
    ∃ hs, gs = fs ++ hs ∧ s <+: records hs := by
  have hcut := cut_mono hmax h
  rw [cut_records_append hmax hfs, cut_records hmax hgs] at hcut
  obtain ⟨hs, rfl⟩ := (List.prefix_append _ _).trans hcut
  rw [records_append] at h
  exact ⟨hs, rfl, List.prefix_append_right_inj _ |>.mp h⟩

/-- No stream inside an encoding of legal frames begins with a bad length. -/
theorem not_badHead_of_inside (hmax : maxLen < 65536) {gs : List (List Byte)} {s : List Byte}
    (hgs : ∀ g ∈ gs, Legal maxLen g) (h : s <+: records gs) : ¬ BadHead maxLen s := by
  rintro ⟨hlen, hbad⟩
  obtain ⟨u, hu⟩ := h
  have hval : headerValue (records gs) = headerValue s := by
    rw [← hu, headerValue_append hlen]
  cases gs with
  | nil =>
      have : s.length = 0 := by
        have := congrArg List.length hu
        simp only [List.length_append, records_nil, List.length_nil] at this
        omega
      omega
  | cons g gs =>
      have hg : Legal maxLen g := hgs g List.mem_cons_self
      have h1 := hg.1
      have h2 := hg.2
      rw [records_cons, headerValue_record (by omega)] at hval
      omega

end Cut

end TapCfg.Foundation
