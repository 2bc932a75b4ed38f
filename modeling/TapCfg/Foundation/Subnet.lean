/-
  Foundation/Subnet.lean --- subnets of addresses of any width.

  A mask has ones where the addresses of a subnet agree.  The network address
  has zeros in the other places, the broadcast address has ones, and the last
  host comes before the broadcast address.  A mask that leaves the last place
  free has the last host in the subnet, and one that leaves the last two free
  keeps it apart from the network address.
-/
import Mathlib.Data.Set.Defs

set_option autoImplicit false

namespace TapCfg.Foundation

variable {w : Nat} (a m : BitVec w)

/-- The address that stands for the network. -/
def network : BitVec w := a &&& m

/-- The address that stands for all hosts. -/
def broadcast : BitVec w := a ||| ~~~m

/-- The addresses that agree with `a` where the mask has ones. -/
def subnet : Set (BitVec w) := { b | network b m = network a m }

/-- The last address before the one that stands for all. -/
def lastHost : BitVec w := broadcast a m - 1#w

variable {a m}

/-- Taking one from an odd number clears its last bit. -/
theorem sub_one_eq_and_not {x : BitVec w} (h : x.getLsbD 0 = true) :
    x - 1#w = x &&& ~~~1#w := by
  have hdisjoint : (x &&& ~~~1#w) &&& 1#w = 0#w := by
    rw [BitVec.and_assoc, BitVec.and_comm (~~~1#w), BitVec.and_not_self]
    exact BitVec.and_zero
  have hsum : (x &&& ~~~1#w) + 1#w = x := by
    rw [BitVec.add_eq_or_of_and_eq_zero _ _ hdisjoint]
    refine BitVec.eq_of_getLsbD_eq_iff.mpr fun i hi => ?_
    rcases i with - | i
    · simp [h, hi]
    · simp [hi]
  rw [BitVec.sub_eq_iff_eq_add]
  exact hsum.symm

theorem getLsbD_broadcast {i : Nat} (hi : i < w) (h : m.getLsbD i = false) :
    (broadcast a m).getLsbD i = true := by
  rw [broadcast, BitVec.getLsbD_or, BitVec.getLsbD_not, decide_eq_true hi, h]
  exact Bool.or_true _

theorem getLsbD_network {i : Nat} (h : m.getLsbD i = false) :
    (network a m).getLsbD i = false := by
  simp [network, h]

/-- The last host differs from the broadcast address in the last place alone. -/
theorem lastHost_eq (hw : 0 < w) (h : m.getLsbD 0 = false) :
    lastHost a m = broadcast a m &&& ~~~1#w :=
  sub_one_eq_and_not (getLsbD_broadcast hw h)

theorem lastHost_mem_subnet (hw : 0 < w) (h : m.getLsbD 0 = false) :
    lastHost a m ∈ subnet a m := by
  show network (lastHost a m) m = network a m
  rw [lastHost_eq hw h]
  refine BitVec.eq_of_getLsbD_eq_iff.mpr fun i hi => ?_
  rcases i with - | i
  · rw [getLsbD_network h, getLsbD_network h]
  · cases hm : m.getLsbD (i + 1) with
    | false => rw [getLsbD_network hm, getLsbD_network hm]
    | true =>
        simp only [network, broadcast, BitVec.getLsbD_and, BitVec.getLsbD_or, BitVec.getLsbD_not,
          hm, decide_eq_true hi]
        simp

theorem lastHost_ne_broadcast (hw : 0 < w) (h : m.getLsbD 0 = false) :
    lastHost a m ≠ broadcast a m := by
  intro heq
  have hbit : (lastHost a m).getLsbD 0 = true := by rw [heq, getLsbD_broadcast hw h]
  rw [lastHost_eq hw h, BitVec.getLsbD_and, BitVec.getLsbD_not] at hbit
  simp [hw] at hbit

theorem lastHost_ne_network (hw : 1 < w) (h : m.getLsbD 0 = false) (h' : m.getLsbD 1 = false) :
    lastHost a m ≠ network a m := by
  intro heq
  have hbit : (lastHost a m).getLsbD 1 = false := by rw [heq, getLsbD_network h']
  rw [lastHost_eq (by omega) h, BitVec.getLsbD_and, getLsbD_broadcast hw h',
    BitVec.getLsbD_not] at hbit
  simp [hw] at hbit

end TapCfg.Foundation
