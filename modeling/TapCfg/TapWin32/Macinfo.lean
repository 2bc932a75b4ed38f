/-
  TapWin32/Macinfo.lean --- hardware addresses the Windows driver reads or makes up.

  Source: drivers/windows/tap-win32/macinfo.c, lines 25-154, and macinfo.h; and
  tapdrvr.c, lines 516-547.

  A text of digits and delimiters falls into fields.  An empty field is a zero
  byte, a field of digits is its bytes two digits each, the last of which may be
  one digit; so `0:1:2:3:4:5`, `000102030405` and `:01:02:03:04:05` are all one
  address.  `ParseMAC` finds this out character by character.
-/
import Mathlib.Data.List.GetD
import TapCfg.TapWin32.Types

set_option autoImplicit false

namespace TapCfg.TapWin32

open TapCfg.Foundation

/-- `HexStringToDecimalInt` -/
def hexStringToDecimalInt (c : Byte) : Byte :=
  if 65 ≤ c ∧ c ≤ 70 then c - 65 + 10 -- 'A' to 'F'
  else if 97 ≤ c ∧ c ≤ 102 then c - 97 + 10 -- 'a' to 'f'
  else if 48 ≤ c ∧ c ≤ 57 then c - 48 -- '0' to '9'
  else 0

/-- `IsMacDelimiter`: a colon, a hyphen or a dot -/
def isMacDelimiter (c : Byte) : Bool := c == 58 || c == 45 || c == 46

/-- `IsHexDigit` -/
def isHexDigit (c : Byte) : Bool :=
  decide (48 ≤ c ∧ c ≤ 57 ∨ 65 ≤ c ∧ c ≤ 70 ∨ 97 ≤ c ∧ c ≤ 102)

/-- Where `ParseMAC` is. -/
structure MacScan where
  dest : MacAddr
  macIndex : Nat
  highDigit : Bool
  delimAction : Nat
  deriving DecidableEq, Repr

/-- One turn of the loop of `ParseMAC`; `none` is `FALSE`. -/
def macScan (s : MacScan) (c : Byte) : Option MacScan :=
  if isMacDelimiter c then
    some { s with macIndex := s.macIndex + s.delimAction, highDigit := false, delimAction := 1 }
  else if isHexDigit c then
    let digit := hexStringToDecimalInt c
    if h : s.macIndex < 6 then
      if s.highDigit = false then
        some { s with dest := s.dest.set s.macIndex digit, highDigit := true, delimAction := 1 }
      else
        some
          { dest := s.dest.set s.macIndex (s.dest[s.macIndex] * 16 + digit)
            macIndex := s.macIndex + 1
            highDigit := false
            delimAction := 0 }
    else none
  else none

/-- What `ParseMAC` returns behind its loop. -/
def macScanned (s : MacScan) : Option MacAddr :=
  if 6 ≤ s.macIndex + s.delimAction then some s.dest else none

/-- `ParseMAC`, of a string without its terminating zero -/
def parseMac (src : List Byte) : Option MacAddr :=
  (src.foldlM macScan ⟨Vector.replicate 6 0, 0, false, 1⟩).bind macScanned

/-! ## What a text means -/

/-- The bytes of a field of digits. -/
def digitBytes : List Byte → List Byte
  | [] => []
  | [d] => [hexStringToDecimalInt d]
  | d :: e :: ds => (hexStringToDecimalInt d * 16 + hexStringToDecimalInt e) :: digitBytes ds

/-- The bytes of a field. -/
def fieldBytes (field : List Byte) : List Byte := if field = [] then [0] else digitBytes field

/-- No digit stands behind the sixth byte; `k` bytes come before these fields. -/
def DigitsFit : Nat → List (List Byte) → Prop
  | _, [] => True
  | k, field :: fields =>
      (field ≠ [] → k + (digitBytes field).length ≤ 6) ∧
        DigitsFit (k + (fieldBytes field).length) fields

/-- An address of six bytes, of which those that are missing are zero. -/
def macOf (bytes : List Byte) : MacAddr := Vector.ofFn fun i => bytes.getD i 0

theorem digitBytes_length (ds : List Byte) : (digitBytes ds).length = (ds.length + 1) / 2 := by
  induction ds using digitBytes.induct with
  | case1 => rfl
  | case2 d => simp [digitBytes]
  | case3 d e ds ih =>
      rw [digitBytes, List.length_cons, ih, List.length_cons, List.length_cons]
      omega

theorem digitBytes_append {ds : List Byte} (heven : ds.length % 2 = 0) (rest : List Byte) :
    digitBytes (ds ++ rest) = digitBytes ds ++ digitBytes rest := by
  induction ds using digitBytes.induct with
  | case1 => rfl
  | case2 d => simp at heven
  | case3 d e ds ih =>
      rw [List.length_cons, List.length_cons] at heven
      rw [List.cons_append, List.cons_append, digitBytes, ih (by omega), digitBytes,
        List.cons_append]

theorem fieldBytes_length (field : List Byte) :
    (fieldBytes field).length = if field = [] then 1 else (field.length + 1) / 2 := by
  unfold fieldBytes
  split
  · rfl
  · exact digitBytes_length field

theorem macOf_getElem (bytes : List Byte) (i : Nat) (h : i < 6) :
    (macOf bytes)[i] = bytes.getD i 0 := by
  simp [macOf]

theorem macOf_set {front back : List Byte} {x : Byte} {i : Nat} (hi : i < 6)
    (hfront : front.length = i) (hback : back.length ≤ 1) :
    (macOf (front ++ back)).set i x hi = macOf (front ++ [x]) := by
  apply Vector.ext
  intro j hj
  rw [Vector.getElem_set, macOf_getElem, macOf_getElem]
  rcases Nat.lt_trichotomy j i with hlt | rfl | hgt
  · rw [if_neg (by omega), List.getD_append _ _ _ _ (by omega),
      List.getD_append _ _ _ _ (by omega)]
  · rw [if_pos rfl, ← hfront]
    simp
  · rw [if_neg (by omega), List.getD_eq_default _ _, List.getD_eq_default _ _]
    · rw [List.length_append, List.length_singleton]
      omega
    · rw [List.length_append]
      omega

/-- Zeros at the end are those that are missing. -/
theorem macOf_append_zero (bytes : List Byte) : macOf (bytes ++ [0]) = macOf bytes := by
  apply Vector.ext
  intro i hi
  rw [macOf_getElem, macOf_getElem]
  rcases Nat.lt_trichotomy i bytes.length with hlt | rfl | hgt
  · rw [List.getD_append _ _ _ _ hlt]
  · simp
  · rw [List.getD_eq_default _ _, List.getD_eq_default _ _ (Nat.le_of_lt hgt)]
    rw [List.length_append, List.length_singleton]
    omega

/-! ## The scan -/

/-- The scan behind these bytes and these digits of a field. -/
def scanned (bytes field : List Byte) : MacScan where
  dest := macOf (bytes ++ digitBytes field)
  macIndex := bytes.length + field.length / 2
  highDigit := decide (field.length % 2 = 1)
  delimAction := if field ≠ [] ∧ field.length % 2 = 0 then 0 else 1

theorem scanned_index (bytes field : List Byte) :
    (scanned bytes field).macIndex + (scanned bytes field).delimAction =
      (bytes ++ fieldBytes field).length := by
  rw [List.length_append, fieldBytes_length]
  unfold scanned
  dsimp only
  cases field with
  | nil => rfl
  | cons d ds =>
      rw [if_neg (List.cons_ne_nil d ds)]
      split
      · omega
      · rename_i hodd
        have hlen : ¬ (d :: ds).length % 2 = 0 := fun heven => hodd ⟨List.cons_ne_nil d ds, heven⟩
        omega

theorem scanned_dest (bytes field : List Byte) :
    (scanned bytes field).dest = macOf (bytes ++ fieldBytes field) := by
  unfold scanned fieldBytes
  dsimp only
  split
  · rename_i hempty
    rw [hempty, macOf_append_zero]
    simp [digitBytes]
  · rfl

/-- A delimiter ends the field. -/
theorem macScan_delimiter {c : Byte} (hc : isMacDelimiter c = true) (bytes field : List Byte) :
    macScan (scanned bytes field) c = some (scanned (bytes ++ fieldBytes field) []) := by
  unfold macScan
  rw [if_pos hc, scanned_index, scanned_dest]
  simp [scanned, digitBytes]

/-- A digit belongs to the field, if there is room for it. -/
theorem macScan_digit {c : Byte} (hdelim : isMacDelimiter c = false) (hc : isHexDigit c = true)
    (bytes field : List Byte) :
    macScan (scanned bytes field) c =
      if bytes.length + (digitBytes (field ++ [c])).length ≤ 6 then
        some (scanned bytes (field ++ [c]))
      else none := by
  have hlen : (digitBytes (field ++ [c])).length = field.length / 2 + 1 := by
    rw [digitBytes_length, List.length_append, List.length_singleton]
    omega
  unfold macScan
  rw [if_neg (by rw [hdelim]; decide), if_pos hc, hlen]
  by_cases hroom : bytes.length + field.length / 2 < 6
  · rw [if_pos (by omega)]
    dsimp only
    rw [dif_pos (show (scanned bytes field).macIndex < 6 from hroom)]
    by_cases heven : field.length % 2 = 0
    · -- the digit begins a byte
      have hfront : (bytes ++ digitBytes field).length = bytes.length + field.length / 2 := by
        rw [List.length_append, digitBytes_length]
        omega
      have hset : (macOf (bytes ++ digitBytes field ++ [])).set _ (hexStringToDecimalInt c) hroom =
          _ := macOf_set hroom hfront (Nat.zero_le _)
      rw [List.append_nil] at hset
      rw [if_pos (by simp [scanned, heven])]
      simp only [scanned, Option.some.injEq, MacScan.mk.injEq]
      refine ⟨?_, ?_, ?_, ?_⟩
      · rw [hset, digitBytes_append heven, digitBytes, List.append_assoc]
      · rw [List.length_append, List.length_singleton]
        omega
      · rw [List.length_append, List.length_singleton]
        exact (decide_eq_true (by omega)).symm
      · rw [if_neg]
        rw [List.length_append, List.length_singleton]
        omega
    · -- the digit completes a byte
      obtain ⟨ds, d, rfl⟩ : ∃ ds d, field = ds ++ [d] := by
        rcases List.eq_nil_or_concat field with rfl | ⟨ds, d, rfl⟩
        · exact absurd rfl heven
        · exact ⟨ds, d, List.concat_eq_append⟩
      have hlast : (ds ++ [d]).length = ds.length + 1 := by simp
      have hboth : (ds ++ [d] ++ [c]).length = ds.length + 2 := by simp
      have hds : ds.length % 2 = 0 := by omega
      have hpair : digitBytes (ds ++ [d]) = digitBytes ds ++ [hexStringToDecimalInt d] := by
        rw [digitBytes_append hds, digitBytes]
      have hfront : (bytes ++ digitBytes ds).length = bytes.length + (ds ++ [d]).length / 2 := by
        rw [List.length_append, digitBytes_length]
        omega
      have hold : (macOf (bytes ++ digitBytes (ds ++ [d])))[bytes.length + (ds ++ [d]).length / 2] =
          hexStringToDecimalInt d := by
        rw [macOf_getElem, hpair, ← List.append_assoc, ← hfront]
        simp
      have hset : (macOf (bytes ++ digitBytes ds ++ [hexStringToDecimalInt d])).set _
          (hexStringToDecimalInt d * 16 + hexStringToDecimalInt c) hroom = _ :=
        macOf_set hroom hfront (Nat.le_refl _)
      rw [if_neg (by simp only [scanned, decide_eq_false_iff_not]; omega)]
      simp only [scanned, Option.some.injEq, MacScan.mk.injEq]
      refine ⟨?_, ?_, ?_, ?_⟩
      · rw [hold, hpair, ← List.append_assoc, hset, List.append_assoc ds, digitBytes_append hds,
          List.append_assoc]
        rfl
      · rw [hboth, hlast]
        omega
      · rw [hboth]
        exact (decide_eq_false (by omega)).symm
      · rw [if_pos]
        exact ⟨by simp, by omega⟩
  · rw [if_neg (by omega), dif_neg (show ¬ (scanned bytes field).macIndex < 6 from hroom)]

theorem macScan_other {c : Byte} (hdelim : isMacDelimiter c = false) (hc : isHexDigit c = false)
    (s : MacScan) : macScan s c = none := by
  unfold macScan
  rw [if_neg (by rw [hdelim]; decide), if_neg (by rw [hc]; decide)]

/-- The field a text goes on with is no shorter than it was. -/
theorem digitsFit_front {k : Nat} {src back : List Byte} (hne : back ≠ [])
    (h : DigitsFit k (src.splitOnPPrepend isMacDelimiter back)) :
    k + (digitBytes back.reverse).length ≤ 6 := by
  rw [List.splitOnPPrepend_eq_modifyHead] at h
  obtain ⟨field, fields, hfields⟩ := List.exists_cons_of_ne_nil
    (List.splitOnP_ne_nil isMacDelimiter src)
  rw [hfields, List.modifyHead_cons] at h
  have hfit := h.1 fun hnil => hne (List.reverse_eq_nil_iff.mp (List.append_eq_nil_iff.mp hnil).1)
  rw [digitBytes_length, List.length_append] at hfit
  rw [digitBytes_length]
  omega

/-- What the rest of a text does to the scan; `back` is the field so far, last digit first. -/
theorem scan_iff {src : List Byte} {bytes back : List Byte} {mac : MacAddr}
    (hfit : back ≠ [] → bytes.length + (digitBytes back.reverse).length ≤ 6) :
    ((src.foldlM macScan (scanned bytes back.reverse)).bind macScanned = some mac) ↔
      (∀ c ∈ src, isMacDelimiter c = true ∨ isHexDigit c = true) ∧
        DigitsFit bytes.length (src.splitOnPPrepend isMacDelimiter back) ∧
        6 ≤ (bytes ++ (src.splitOnPPrepend isMacDelimiter back).flatMap fieldBytes).length ∧
        mac = macOf (bytes ++ (src.splitOnPPrepend isMacDelimiter back).flatMap fieldBytes) := by
  induction src generalizing bytes back with
  | nil =>
      have hfits : DigitsFit bytes.length [back.reverse] := by
        refine ⟨fun hne => hfit ?_, trivial⟩
        intro hnil
        rw [hnil] at hne
        exact hne rfl
      rw [List.splitOnPPrepend_nil, List.flatMap_singleton]
      simp only [List.foldlM_nil, macScanned, scanned_index, scanned_dest, Option.pure_def,
        Option.bind_some, Option.ite_none_right_eq_some, Option.some.injEq]
      constructor
      · rintro ⟨hlen, rfl⟩
        exact ⟨nofun, hfits, hlen, rfl⟩
      · rintro ⟨-, -, hlen, rfl⟩
        exact ⟨hlen, rfl⟩
  | cons c src ih =>
      rw [List.foldlM_cons, Option.bind_eq_bind, List.forall_mem_cons]
      cases hdelim : isMacDelimiter c with
      | true =>
          have hrest := @ih (bytes ++ fieldBytes back.reverse) [] fun h => absurd rfl h
          have hfield : back.reverse ≠ [] →
              bytes.length + (digitBytes back.reverse).length ≤ 6 := by
            intro hne
            exact hfit fun hnil => hne (by rw [hnil]; rfl)
          rw [List.splitOnPPrepend_nil_right, List.reverse_nil, List.append_assoc,
            List.length_append] at hrest
          rw [macScan_delimiter hdelim, List.splitOnPPrepend_cons_pos hdelim, Option.bind_some,
            hrest, List.flatMap_cons, DigitsFit]
          simp only [true_or, true_and, and_iff_right hfield]
      | false =>
          rw [List.splitOnPPrepend_cons_neg hdelim]
          cases hdigit : isHexDigit c with
          | true =>
              rw [macScan_digit hdelim hdigit, ← List.reverse_cons]
              by_cases hroom : bytes.length + (digitBytes (c :: back).reverse).length ≤ 6
              · rw [if_pos hroom, Option.bind_some, ih fun _ => hroom]
                simp
              · rw [if_neg hroom]
                simp only [Option.bind_none, reduceCtorEq, false_iff]
                rintro ⟨-, hfits, -⟩
                exact hroom (digitsFit_front (List.cons_ne_nil c back) hfits)
          | false =>
              rw [macScan_other hdelim hdigit]
              simp

/-- `ParseMAC` accepts exactly the texts of digits and delimiters whose fields have at least six
bytes and no digit behind the sixth; and the first six bytes are the address. -/
theorem parseMac_eq_some_iff (src : List Byte) (mac : MacAddr) :
    parseMac src = some mac ↔
      (∀ c ∈ src, isMacDelimiter c = true ∨ isHexDigit c = true) ∧
        DigitsFit 0 (src.splitOnP isMacDelimiter) ∧
        6 ≤ ((src.splitOnP isMacDelimiter).flatMap fieldBytes).length ∧
        mac = macOf ((src.splitOnP isMacDelimiter).flatMap fieldBytes) := by
  have hstart : scanned [] ([] : List Byte).reverse = ⟨Vector.replicate 6 0, 0, false, 1⟩ := by
    decide
  have hscan := @scan_iff src [] [] mac fun h => absurd rfl h
  rw [hstart] at hscan
  exact hscan

/-- One digit is enough for a byte, and an empty field is one too. -/
example : parseMac [58, 49, 45, 48, 50, 51, 52, 46, 97, 58, 66] = some #v[0, 1, 2, 0x34, 10, 11] := by
  decide +kernel

/-! ## Writing addresses -/

/-- A hexadecimal digit, in capitals or not. -/
def hexDigit (upper : Bool) (n : Byte) : Byte :=
  if n < 10 then 48 + n else if upper then 55 + n else 87 + n

/-- The two digits of a byte. -/
def hexPair (upper : Bool) (b : Byte) : List Byte := [hexDigit upper (b >>> 4), hexDigit upper (b &&& 15)]

/-- The text of some bytes, with or without something between them. -/
def macText (sep : Option Byte) (upper : Bool) : List Byte → List Byte
  | [] => []
  | [b] => hexPair upper b
  | b :: c :: bs => hexPair upper b ++ (sep.toList ++ macText sep upper (c :: bs))

theorem hexDigit_reads (upper : Bool) {n : Byte} (h : n < 16) :
    isMacDelimiter (hexDigit upper n) = false ∧ isHexDigit (hexDigit upper n) = true ∧
      hexStringToDecimalInt (hexDigit upper n) = n := by
  have hall : ∀ u : Bool, ∀ k : Fin 16, isMacDelimiter (hexDigit u (UInt8.ofNat k)) = false ∧
      isHexDigit (hexDigit u (UInt8.ofNat k)) = true ∧
      hexStringToDecimalInt (hexDigit u (UInt8.ofNat k)) = UInt8.ofNat k := by
    decide
  have hn : n = UInt8.ofNat n.toNat := by simp
  rw [hn]
  exact hall upper ⟨n.toNat, UInt8.lt_iff_toNat_lt.mp h⟩

theorem nibbles (b : Byte) : b >>> 4 < 16 ∧ b &&& 15 < 16 ∧ (b >>> 4) * 16 + (b &&& 15) = b := by
  have hall : ∀ k : Fin 256, UInt8.ofNat k >>> 4 < 16 ∧ UInt8.ofNat k &&& 15 < 16 ∧
      (UInt8.ofNat k >>> 4) * 16 + (UInt8.ofNat k &&& 15) = UInt8.ofNat k := by
    decide +kernel
  have hb : b = UInt8.ofNat b.toNat := by simp
  rw [hb]
  exact hall ⟨b.toNat, UInt8.toNat_lt b⟩

theorem digitBytes_hexPair (upper : Bool) (b : Byte) (rest : List Byte) :
    digitBytes (hexPair upper b ++ rest) = b :: digitBytes rest := by
  obtain ⟨hhigh, hlow, hsum⟩ := nibbles b
  have hdigits : digitBytes (hexPair upper b) = [b] := by
    unfold hexPair
    rw [digitBytes, (hexDigit_reads upper hhigh).2.2, (hexDigit_reads upper hlow).2.2, hsum, digitBytes]
  rw [digitBytes_append (by simp [hexPair]), hdigits, List.singleton_append]

theorem hexPair_digits (upper : Bool) (b : Byte) :
    ∀ c ∈ hexPair upper b, isMacDelimiter c = false ∧ isHexDigit c = true := by
  obtain ⟨hhigh, hlow, -⟩ := nibbles b
  obtain ⟨hd, hx, -⟩ := hexDigit_reads upper hhigh
  obtain ⟨hd', hx', -⟩ := hexDigit_reads upper hlow
  intro c hc
  rcases List.mem_pair.mp hc with rfl | rfl
  · exact ⟨hd, hx⟩
  · exact ⟨hd', hx'⟩

theorem mem_macText {sep : Option Byte} {upper : Bool} {bytes : List Byte} {c : Byte}
    (h : c ∈ macText sep upper bytes) :
    sep = some c ∨ isMacDelimiter c = false ∧ isHexDigit c = true := by
  induction bytes using macText.induct with
  | case1 => cases h
  | case2 b => exact .inr (hexPair_digits upper b c h)
  | case3 b d bs ih =>
      rw [macText, List.mem_append, List.mem_append, Option.mem_toList] at h
      rcases h with h | h | h
      · exact .inr (hexPair_digits upper b c h)
      · exact .inl h
      · exact ih h

/-- Without anything between them the bytes are one field. -/
theorem digitBytes_macText (upper : Bool) (bytes : List Byte) :
    digitBytes (macText none upper bytes) = bytes := by
  induction bytes using macText.induct with
  | case1 => rfl
  | case2 b =>
      have hone := digitBytes_hexPair upper b []
      rwa [List.append_nil] at hone
  | case3 b c bs ih =>
      rw [macText, Option.toList_none, List.nil_append, digitBytes_hexPair, ih]

/-- With a delimiter between them every byte is a field. -/
theorem splitOnP_macText {s : Byte} (hs : isMacDelimiter s = true) (upper : Bool)
    {bytes : List Byte} (hne : bytes ≠ []) :
    (macText (some s) upper bytes).splitOnP isMacDelimiter = bytes.map (hexPair upper) := by
  induction bytes using macText.induct with
  | case1 => exact absurd rfl hne
  | case2 b => exact List.splitOnP_eq_singleton fun c hc => (hexPair_digits upper b c hc).1
  | case3 b c bs ih =>
      have hb : ∀ d ∈ hexPair upper b, isMacDelimiter d = false :=
        fun d hd => (hexPair_digits upper b d hd).1
      rw [macText, Option.toList_some, List.singleton_append,
        List.splitOnP_append_cons_of_forall_mem hb s hs, ih (List.cons_ne_nil c bs)]
      rfl

theorem fieldBytes_hexPair (upper : Bool) (b : Byte) : fieldBytes (hexPair upper b) = [b] := by
  have hone := digitBytes_hexPair upper b []
  rw [List.append_nil] at hone
  unfold fieldBytes
  rw [if_neg (by simp [hexPair]), hone]
  rfl

theorem digitsFit_pairs (upper : Bool) {k : Nat} (bytes : List Byte) (h : k + bytes.length ≤ 6) :
    DigitsFit k (bytes.map (hexPair upper)) := by
  induction bytes generalizing k with
  | nil => trivial
  | cons b bs ih =>
      have hone := digitBytes_hexPair upper b []
      rw [List.append_nil] at hone
      rw [List.length_cons] at h
      refine ⟨fun _ => ?_, ih ?_⟩
      · rw [hone, digitBytes, List.length_singleton]
        omega
      · rw [fieldBytes_hexPair, List.length_singleton]
        omega

/-- An address is read back from its text, in capitals or not, with any of the delimiters between
its bytes or none. -/
theorem parseMac_macText {sep : Option Byte} (hsep : ∀ s, sep = some s → isMacDelimiter s = true)
    (upper : Bool) (mac : MacAddr) : parseMac (macText sep upper mac.toList) = some mac := by
  have hlen : mac.toList.length = 6 := by simp
  have hchars : ∀ c ∈ macText sep upper mac.toList,
      isMacDelimiter c = true ∨ isHexDigit c = true := by
    intro c hc
    rcases mem_macText hc with hdelim | ⟨-, hdigit⟩
    · exact .inl (hsep c hdelim)
    · exact .inr hdigit
  have hmac : mac = macOf mac.toList := by
    apply Vector.ext
    intro i hi
    rw [macOf_getElem _ _ hi]
    simp [List.getD, hi]
  rw [parseMac_eq_some_iff]
  refine ⟨hchars, ?_⟩
  cases sep with
  | none =>
      have hone : (macText none upper mac.toList).splitOnP isMacDelimiter =
          [macText none upper mac.toList] := by
        refine List.splitOnP_eq_singleton fun c hc => ?_
        rcases mem_macText hc with hnone | ⟨hdelim, -⟩
        · cases hnone
        · exact hdelim
      have hbytes := digitBytes_macText upper mac.toList
      have hfield : fieldBytes (macText none upper mac.toList) = mac.toList := by
        unfold fieldBytes
        rw [if_neg, hbytes]
        intro hnil
        rw [hnil, digitBytes] at hbytes
        rw [← hbytes] at hlen
        cases hlen
      rw [hone, List.flatMap_singleton, hfield, hlen]
      have hdigits : (digitBytes (macText none upper mac.toList)).length = 6 := by
        rw [hbytes, hlen]
      exact ⟨⟨fun _ => by omega, trivial⟩, Nat.le_refl 6, hmac⟩
  | some s =>
      have hne : mac.toList ≠ [] := by
        intro hnil
        rw [hnil] at hlen
        cases hlen
      have hfields : (mac.toList.map (hexPair upper)).flatMap fieldBytes = mac.toList := by
        rw [List.flatMap_map]
        simp [fieldBytes_hexPair]
      rw [splitOnP_macText (hsep s rfl) upper hne, hfields, hlen]
      exact ⟨digitsFit_pairs upper _ (by omega), Nat.le_refl 6, hmac⟩

/-- `ParseMAC` accepts exactly the texts of digits and delimiters whose fields have at least six
bytes and no digit behind the sixth, and reads the first six; so it reads back every address from
its usual texts. -/
theorem parseMac_reads :
    (∀ src mac, parseMac src = some mac ↔
      (∀ c ∈ src, isMacDelimiter c = true ∨ isHexDigit c = true) ∧
        DigitsFit 0 (src.splitOnP isMacDelimiter) ∧
        6 ≤ ((src.splitOnP isMacDelimiter).flatMap fieldBytes).length ∧
        mac = macOf ((src.splitOnP isMacDelimiter).flatMap fieldBytes)) ∧
      ∀ (sep : Option Byte) (upper : Bool) (mac : MacAddr),
        (∀ s, sep = some s → isMacDelimiter s = true) →
          parseMac (macText sep upper mac.toList) = some mac :=
  ⟨parseMac_eq_some_iff, fun _ upper mac hsep => parseMac_macText hsep upper mac⟩

/-! ## Addresses made up -/

/-- Where `GenerateRandomMac` is. -/
structure GuidScan where
  mac : MacAddr
  i : Nat := 2
  byte : Byte := 0
  brace : Bool := false
  state : Bool := false
  deriving DecidableEq, Repr

/-- One turn of the loop of `GenerateRandomMac`. -/
def guidScan (s : GuidScan) (c : Byte) : GuidScan :=
  if h : s.i < 6 then
    let brace := if c = 123 then true else s.brace -- an opening brace
    if isHexDigit c = true ∧ brace = true then
      let digit := hexStringToDecimalInt c
      if s.state then
        let byte := s.byte <<< 4 ||| digit
        { mac := s.mac.set s.i byte, i := s.i + 1, byte := byte, brace := brace, state := false }
      else { s with byte := digit, brace := brace, state := true }
    else { s with brace := brace }
  else s -- break

/-- `GenerateRandomMac` -/
def generateRandomMac (adapterName : List Byte) : MacAddr :=
  (adapterName.foldl guidScan { mac := #v[0x00, 0xff, 0, 0, 0, 0] }).mac

/-- The address of a new adapter: the one in the registry, if it is one. -/
def adapterMac (registry : Option (List Byte)) (adapterName : List Byte) : MacAddr :=
  match registry.bind parseMac with
  | some mac => mac
  | none => generateRandomMac adapterName

/-- The bytes of the digits in pairs; one digit that is left is none. -/
def pairBytes : List Byte → List Byte
  | [] => []
  | [_] => []
  | d :: e :: ds => (hexStringToDecimalInt d <<< 4 ||| hexStringToDecimalInt e) :: pairBytes ds

theorem pairBytes_length (ds : List Byte) : (pairBytes ds).length = ds.length / 2 := by
  induction ds using pairBytes.induct with
  | case1 => rfl
  | case2 d => simp [pairBytes]
  | case3 d e ds ih =>
      rw [pairBytes, List.length_cons, ih, List.length_cons, List.length_cons]
      omega

theorem pairBytes_append {ds : List Byte} (heven : ds.length % 2 = 0) (rest : List Byte) :
    pairBytes (ds ++ rest) = pairBytes ds ++ pairBytes rest := by
  induction ds using pairBytes.induct with
  | case1 => rfl
  | case2 d => simp at heven
  | case3 d e ds ih =>
      rw [List.length_cons, List.length_cons] at heven
      rw [List.cons_append, List.cons_append, pairBytes, ih (by omega), pairBytes, List.cons_append]

/-- The scan behind these digits of the identifier. -/
structure Guided (ds : List Byte) (s : GuidScan) : Prop where
  mac : s.mac = macOf (0x00 :: 0xff :: pairBytes ds)
  i : s.i = 2 + ds.length / 2
  brace : s.brace = true
  state : s.state = decide (ds.length % 2 = 1)
  byte : ∀ front d, ds = front ++ [d] → s.state = true → s.byte = hexStringToDecimalInt d

/-- One digit more, while there is room. -/
theorem Guided.digit {ds : List Byte} {s : GuidScan} {c : Byte} (h : Guided ds s)
    (hroom : ds.length < 8) (hc : isHexDigit c = true) : Guided (ds ++ [c]) (guidScan s c) := by
  have hbrace : c ≠ 123 := by
    rintro rfl
    exact absurd hc (by decide)
  have hi : s.i < 6 := by
    rw [h.i]
    omega
  have hlen : (ds ++ [c]).length = ds.length + 1 := by simp
  unfold guidScan
  rw [dif_pos hi, if_neg hbrace]
  dsimp only
  rw [if_pos ⟨hc, h.brace⟩]
  by_cases hodd : ds.length % 2 = 1
  · -- the digit completes a byte
    have hstate : s.state = true := h.state.trans (decide_eq_true hodd)
    obtain ⟨front, d, rfl⟩ : ∃ front d, ds = front ++ [d] := by
      rcases List.eq_nil_or_concat ds with rfl | ⟨front, d, rfl⟩
      · cases hodd
      · exact ⟨front, d, List.concat_eq_append⟩
    have hfront : (front ++ [d]).length = front.length + 1 := by simp
    have heven : front.length % 2 = 0 := by omega
    have hold : pairBytes (front ++ [d]) = pairBytes front := by
      rw [pairBytes_append heven, pairBytes, List.append_nil]
    have hnew : pairBytes (front ++ [d] ++ [c]) = pairBytes front ++
        [hexStringToDecimalInt d <<< 4 ||| hexStringToDecimalInt c] := by
      rw [List.append_assoc, pairBytes_append heven]
      rfl
    have hindex : (0x00 :: 0xff :: pairBytes front : List Byte).length = s.i := by
      rw [h.i, List.length_cons, List.length_cons, pairBytes_length]
      omega
    rw [if_pos hstate]
    refine ⟨?_, ?_, h.brace, ?_, ?_⟩
    · have hset : (macOf ((0x00 :: 0xff :: pairBytes front) ++ [])).set s.i
          (hexStringToDecimalInt d <<< 4 ||| hexStringToDecimalInt c) hi = _ :=
        macOf_set hi hindex (Nat.zero_le _)
      rw [List.append_nil] at hset
      dsimp only
      rw [h.byte front d rfl hstate, h.mac, hold, hset, hnew]
      rfl
    · dsimp only
      rw [h.i]
      omega
    · exact (decide_eq_false (by omega)).symm
    · intro _ _ _ hfalse
      cases hfalse
  · -- the digit begins a byte
    have hstate : s.state = false := h.state.trans (decide_eq_false hodd)
    have heven : ds.length % 2 = 0 := by omega
    rw [if_neg (by rw [hstate]; decide)]
    refine ⟨?_, ?_, h.brace, ?_, ?_⟩
    · rw [pairBytes_append heven]
      simpa [pairBytes] using h.mac
    · dsimp only
      rw [h.i]
      omega
    · exact (decide_eq_true (by omega)).symm
    · intro front d heq _
      have hlast := List.append_inj_right' heq rfl
      rw [List.singleton_inj.mp hlast]

theorem Guided.other {ds : List Byte} {s : GuidScan} {c : Byte} (h : Guided ds s)
    (hc : isHexDigit c = false) : guidScan s c = s := by
  unfold guidScan
  split
  · have hbrace : (if c = 123 then true else s.brace) = s.brace := by
      rw [h.brace, ite_self]
    dsimp only
    rw [if_neg (by rw [hc]; exact fun hboth => nomatch hboth.1), hbrace]
  · rfl

/-- Behind the brace the digits count, until there are eight of them. -/
theorem Guided.rest {ds l : List Byte} {s : GuidScan} (h : Guided ds s) (hle : ds.length ≤ 8) :
    (l.foldl guidScan s).mac =
      macOf (0x00 :: 0xff :: pairBytes ((ds ++ l.filter isHexDigit).take 8)) := by
  induction l generalizing ds s with
  | nil =>
      rw [List.filter_nil, List.append_nil, List.take_of_length_le hle]
      exact h.mac
  | cons c l ih =>
      rw [List.foldl_cons]
      cases hc : isHexDigit c with
      | false =>
          rw [h.other hc, ih h hle, List.filter_cons_of_neg (by rw [hc]; decide)]
      | true =>
          rw [List.filter_cons_of_pos hc]
          by_cases hroom : ds.length < 8
          · have hnext := ih (h.digit hroom hc) (by rw [List.length_append]; exact hroom)
            rw [hnext, List.append_assoc, List.singleton_append]
          · -- the loop is left
            have hstop : guidScan s c = s := by
              unfold guidScan
              rw [dif_neg]
              rw [h.i]
              omega
            rw [hstop, ih h hle, List.take_append_of_le_length (by omega),
              List.take_append_of_le_length (by omega)]

/-- The digits of the identifier in a name. -/
def guidDigits (adapterName : List Byte) : List Byte :=
  ((adapterName.dropWhile (· ≠ 123)).filter isHexDigit).take 8

theorem generateRandomMac_eq (adapterName : List Byte) :
    generateRandomMac adapterName = macOf (0x00 :: 0xff :: pairBytes (guidDigits adapterName)) := by
  unfold generateRandomMac guidDigits
  induction adapterName with
  | nil => decide
  | cons c l ih =>
      rw [List.foldl_cons]
      by_cases hc : c = 123
      · subst hc
        have hnone : guidScan { mac := #v[0x00, 0xff, 0, 0, 0, 0] } 123 =
            { mac := #v[0x00, 0xff, 0, 0, 0, 0], brace := true } := by
          decide
        have hstart : Guided [] { mac := #v[0x00, 0xff, 0, 0, 0, 0], brace := true } :=
          ⟨by decide, rfl, rfl, rfl, nofun⟩
        rw [hnone, hstart.rest (Nat.zero_le 8), List.nil_append, List.dropWhile_cons_of_neg (by simp),
          List.filter_cons_of_neg (by decide)]
      · have hskip : guidScan { mac := #v[0x00, 0xff, 0, 0, 0, 0] } c =
            { mac := #v[0x00, 0xff, 0, 0, 0, 0] } := by
          unfold guidScan
          simp [hc]
        rw [hskip, ih, List.dropWhile_cons_of_pos (by simpa using hc)]

theorem macOf_toList {bytes : List Byte} (h : bytes.length = 6) : (macOf bytes).toList = bytes := by
  apply List.ext_getElem
  · rw [Vector.length_toList, h]
  · intro i hi hi'
    rw [Vector.getElem_toList, macOf_getElem _ _ (by omega), List.getD_eq_getElem _ _ hi']

theorem generated_toList {adapterName : List Byte} (h : (guidDigits adapterName).length = 8) :
    (generateRandomMac adapterName).toList = 0x00 :: 0xff :: pairBytes (guidDigits adapterName) := by
  rw [generateRandomMac_eq]
  refine macOf_toList ?_
  rw [List.length_cons, List.length_cons, pairBytes_length, h]

/-- Whatever the registry and the name are, a new adapter has an address; one that was made up
begins with `00:FF` and goes on with the first four bytes of the identifier in the name, so that
two of them are equal exactly when these bytes are. -/
theorem adapterMac_unique {registry registry' : Option (List Byte)} {name name' : List Byte}
    (hmade : registry.bind parseMac = none) (hmade' : registry'.bind parseMac = none)
    (hguid : (guidDigits name).length = 8) (hguid' : (guidDigits name').length = 8) :
    (adapterMac registry name).toList = 0x00 :: 0xff :: pairBytes (guidDigits name) ∧
      (adapterMac registry name = adapterMac registry' name' ↔
        pairBytes (guidDigits name) = pairBytes (guidDigits name')) := by
  have hmac : adapterMac registry name = generateRandomMac name := by
    unfold adapterMac
    rw [hmade]
  have hmac' : adapterMac registry' name' = generateRandomMac name' := by
    unfold adapterMac
    rw [hmade']
  rw [hmac, hmac']
  refine ⟨generated_toList hguid, ?_, ?_⟩
  · intro heq
    have hlists := congrArg Vector.toList heq
    rw [generated_toList hguid, generated_toList hguid'] at hlists
    exact (List.cons_inj_right _).mp ((List.cons_inj_right _).mp hlists)
  · intro heq
    rw [generateRandomMac_eq, generateRandomMac_eq, heq]

/-- The names `{12345678-9}` and `\{1234567a}` of two adapters. -/
def guidNames : List Byte × List Byte :=
  ([123, 49, 50, 51, 52, 53, 54, 55, 56, 45, 57, 125],
    [92, 123, 49, 50, 51, 52, 53, 54, 55, 97, 125])

/-- One of them has a text in the registry that is no address. -/
theorem adapterMac_unique_two :
    (adapterMac none guidNames.1).toList = [0x00, 0xff, 0x12, 0x34, 0x56, 0x78] ∧
      adapterMac none guidNames.1 ≠ adapterMac (some [49, 50]) guidNames.2 := by
  have hbytes : pairBytes (guidDigits guidNames.1) = [0x12, 0x34, 0x56, 0x78] := by decide
  have hne : pairBytes (guidDigits guidNames.1) ≠ pairBytes (guidDigits guidNames.2) := by decide
  obtain ⟨hlist, hiff⟩ := @adapterMac_unique none (some [49, 50]) guidNames.1 guidNames.2 rfl
    (by decide) (by decide) (by decide)
  rw [hbytes] at hlist
  exact ⟨hlist, fun heq => hne (hiff.mp heq)⟩

end TapCfg.TapWin32
