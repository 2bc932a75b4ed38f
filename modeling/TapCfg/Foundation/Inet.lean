/-
  Foundation/Inet.lean --- IPv4 addresses: the dotted notation, the network byte
  order, and netmasks.

  The notation is that of POSIX `inet_addr`: one to four parts, each decimal,
  octal with a leading `0`, or hexadecimal with a leading `0x`; the last part
  fills the bytes that are left.  A netmask is made by shifting ones in from the
  left (`shiftMask`), and `getMsbD_shiftMask` says which bits are set then.
-/
import Mathlib.Tactic.SplitIfs

set_option autoImplicit false

namespace TapCfg.Foundation

/-! ## The dotted notation -/

/-- The value of a digit. -/
def digitValue (c : Char) : Option Nat :=
  if '0' ≤ c ∧ c ≤ '9' then some (c.toNat - '0'.toNat)
  else if 'a' ≤ c ∧ c ≤ 'f' then some (c.toNat - 'a'.toNat + 10)
  else if 'A' ≤ c ∧ c ≤ 'F' then some (c.toNat - 'A'.toNat + 10)
  else none

/-- The rest of a number, after `n`. -/
def readDigits (base : Nat) : Nat → List Char → Option Nat
  | n, [] => some n
  | n, c :: s =>
      match digitValue c with
      | some d => if d < base then readDigits base (n * base + d) s else none
      | none => none

/-- A number as C writes it. -/
def readNumber : List Char → Option Nat
  | [] => none
  | '0' :: 'x' :: s => if s = [] then none else readDigits 16 0 s
  | '0' :: 'X' :: s => if s = [] then none else readDigits 16 0 s
  | '0' :: s => readDigits 8 0 s
  | s => readDigits 10 0 s

/-- What stands between the dots. -/
def splitDots : List Char → List (List Char)
  | [] => [[]]
  | '.' :: s => [] :: splitDots s
  | c :: s =>
      match splitDots s with
      | part :: parts => (c :: part) :: parts
      | [] => [[c]]

/-- The address of some parts; all but the last are bytes. -/
def joinParts : List Nat → Option Nat
  | [a] => if a < 0x100000000 then some a else none
  | [a, b] => if a < 256 ∧ b < 0x1000000 then some (a * 0x1000000 + b) else none
  | [a, b, c] =>
      if a < 256 ∧ b < 256 ∧ c < 0x10000 then some (a * 0x1000000 + b * 0x10000 + c) else none
  | [a, b, c, d] =>
      if a < 256 ∧ b < 256 ∧ c < 256 ∧ d < 256 then
        some (a * 0x1000000 + b * 0x10000 + c * 0x100 + d)
      else none
  | _ => none

/-- The address a string in dotted notation stands for. -/
def dottedAddress (s : List Char) : Option (BitVec 32) :=
  match (splitDots s).mapM readNumber with
  | some parts => (joinParts parts).map (BitVec.ofNat 32)
  | none => none

example : dottedAddress "10.0.0.1".toList = some 0x0a000001#32 := by decide

example : dottedAddress "0x7f.1".toList = some 0x7f000001#32 := by decide

/-! ## The network byte order -/

/-- The order of the bytes of a number in memory. -/
inductive Endian where
  | little
  | big
  deriving DecidableEq, Repr

/-- The byte a bit comes from when the bytes are reversed. -/
def swapIndex (i : Nat) : Nat := (3 - i / 8) * 8 + i % 8

/-- The bytes in the other order. -/
def swapBytes (x : BitVec 32) : BitVec 32 :=
  x.extractLsb' 0 8 ++ x.extractLsb' 8 8 ++ x.extractLsb' 16 8 ++ x.extractLsb' 24 8

/-- `htonl`, and `ntohl`: the conversion is its own inverse. -/
def htonl : Endian → BitVec 32 → BitVec 32
  | .little, x => swapBytes x
  | .big, x => x

theorem getLsbD_swapBytes (x : BitVec 32) {i : Nat} (hi : i < 32) :
    (swapBytes x).getLsbD i = x.getLsbD (swapIndex i) := by
  have hparts : (swapBytes x).getLsbD i =
      if i < 8 then x.getLsbD (24 + i) else if i < 16 then x.getLsbD (16 + (i - 8))
      else if i < 24 then x.getLsbD (8 + (i - 16)) else x.getLsbD (i - 24) := by
    simp only [swapBytes, BitVec.getLsbD_append, BitVec.getLsbD_extractLsb']
    grind
  rw [hparts]
  unfold swapIndex
  split_ifs <;> congr 1 <;> omega

theorem swapIndex_lt {i : Nat} (hi : i < 32) : swapIndex i < 32 := by
  unfold swapIndex
  omega

theorem swapIndex_swapIndex {i : Nat} (hi : i < 32) : swapIndex (swapIndex i) = i := by
  unfold swapIndex
  omega

@[simp] theorem swapBytes_swapBytes (x : BitVec 32) : swapBytes (swapBytes x) = x := by
  refine BitVec.eq_of_getLsbD_eq_iff.mpr fun i hi => ?_
  rw [getLsbD_swapBytes _ hi, getLsbD_swapBytes _ (swapIndex_lt hi), swapIndex_swapIndex hi]

@[simp] theorem htonl_htonl (e : Endian) (x : BitVec 32) : htonl e (htonl e x) = x := by
  cases e with
  | little => exact swapBytes_swapBytes x
  | big => rfl

theorem swapBytes_or (x y : BitVec 32) : swapBytes (x ||| y) = swapBytes x ||| swapBytes y := by
  refine BitVec.eq_of_getLsbD_eq_iff.mpr fun i hi => ?_
  simp only [BitVec.getLsbD_or, getLsbD_swapBytes _ hi]

theorem swapBytes_not (x : BitVec 32) : swapBytes (~~~x) = ~~~swapBytes x := by
  refine BitVec.eq_of_getLsbD_eq_iff.mpr fun i hi => ?_
  rw [getLsbD_swapBytes _ hi, BitVec.getLsbD_not, BitVec.getLsbD_not, getLsbD_swapBytes _ hi,
    decide_eq_true hi, decide_eq_true (swapIndex_lt hi)]

/-- The bits may be combined in either order. -/
theorem htonl_or (e : Endian) (x y : BitVec 32) : htonl e (x ||| y) = htonl e x ||| htonl e y := by
  cases e with
  | little => exact swapBytes_or x y
  | big => rfl

theorem htonl_not (e : Endian) (x : BitVec 32) : htonl e (~~~x) = ~~~htonl e x := by
  cases e with
  | little => exact swapBytes_not x
  | big => rfl

/-! ## Netmasks -/

/-- Shift `n` ones into a mask. -/
def shiftMask : Nat → BitVec 32 → BitVec 32
  | 0, mask => mask
  | n + 1, mask => shiftMask n (mask >>> 1 ||| 1#32 <<< 31)

/-- One more one, and the bits move one place to the right. -/
theorem getMsbD_shiftOne (mask : BitVec 32) {i : Nat} (hi : i < 32) :
    (mask >>> 1 ||| 1#32 <<< 31).getMsbD i = if i = 0 then true else mask.getMsbD (i - 1) := by
  have htop : (1#32 <<< 31).getMsbD i = decide (i = 0) := by
    show (BitVec.intMin 32).getMsbD i = _
    rw [BitVec.getMsbD_intMin]
    simp
  rw [BitVec.getMsbD_or, htop, BitVec.getMsbD_ushiftRight]
  rcases i with - | i
  · simp
  · simp [hi]

/-- The mask has ones in the `n` places on the left, and its old bits after them. -/
theorem getMsbD_shiftMask (n : Nat) (mask : BitVec 32) {i : Nat} (hi : i < 32) :
    (shiftMask n mask).getMsbD i = if i < n then true else mask.getMsbD (i - n) := by
  induction n generalizing mask with
  | zero => simp [shiftMask]
  | succ n ih =>
      rw [shiftMask, ih]
      by_cases hlt : i < n
      · rw [if_pos hlt, if_pos (by omega)]
      · rw [if_neg hlt, getMsbD_shiftOne mask (by omega)]
        by_cases heq : i = n
        · rw [if_pos (by omega), if_pos (by omega)]
        · rw [if_neg (by omega), if_neg (by omega)]
          congr 1

/-- The mask of a network of so many bits. -/
def netmask (bits : Nat) : BitVec 32 := shiftMask bits 0

theorem getMsbD_netmask (bits : Nat) {i : Nat} (hi : i < 32) :
    (netmask bits).getMsbD i = decide (i < bits) := by
  rw [netmask, getMsbD_shiftMask bits 0 hi]
  split
  · simp [*]
  · simp [*]

/-- The mask leaves the places on the right free. -/
theorem getLsbD_netmask_eq_false {bits i : Nat} (h : i + bits < 32) :
    (netmask bits).getLsbD i = false := by
  rw [BitVec.getLsbD_eq_getMsbD, getMsbD_netmask bits (by omega)]
  simp
  omega

end TapCfg.Foundation
