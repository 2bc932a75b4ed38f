/-
  TapWin32/Instances.lean --- how the Windows driver finds the adapter of a device.

  Source: drivers/windows/tap-win32/instance.c, lines 25-241.

  The table has 256 buckets, each a linked list behind a lock of its own; who
  cannot get the lock gives up.  A lookup moves what it found to the front of
  its bucket.  The table answers as one list would that is kept by the last use.
-/
import TapCfg.Foundation.Buckets

set_option autoImplicit false

namespace TapCfg.TapWin32

open TapCfg.Foundation

/-- `N_INSTANCE_BUCKETS` -/
def nInstanceBuckets : Nat := 256

/-- `InstanceHashValue`, for an address of 4 or of 8 bytes -/
def instanceHashValue {w : Nat} (addr : BitVec w) : Fin nInstanceBuckets :=
  ((List.range (w / 8)).foldl (fun hash i => hash ^^^ UInt8.ofBitVec (addr.extractLsb' (8 * i) 8))
    0).toFin

section

variable {α : Type} [DecidableEq α] {w : Nat}

/-- What a call brings: whether it gets the lock, or which locks it gets, and whether there is
memory. -/
inductive InstanceCall (α : Type) (w : Nat) where
  | add (adapter : α) (lock memory : Bool)
  | remove (adapter : α) (lock : Bool)
  | lookup (device : BitVec w) (lock : Bool)
  | count (locks : Fin nInstanceBuckets → Bool)

inductive InstanceAnswer (α : Type) where
  | done (ret : Bool)
  | found (adapter : Option α)
  | number (n : Int)
  deriving DecidableEq, Repr

/-! ## The table -/

/-- `INSTANCE_HASH` -/
abbrev InstanceHash (α : Type) : Type := Buckets α nInstanceBuckets

/-- `InitInstanceList` -/
def initInstanceList : InstanceHash α := Vector.replicate nInstanceBuckets []

variable (instanceKey : α → BitVec w)

/-- `AddAdapterToInstanceList` -/
def addAdapterToInstanceList (hash : InstanceHash α) (adapter : α) (lock memory : Bool) :
    Bool × InstanceHash α :=
  let i := instanceHashValue (instanceKey adapter)
  if lock then
    if memory then (true, hash.set i (adapter :: hash[i])) else (false, hash)
  else (false, hash)

/-- `RemoveAdapterFromInstanceList` -/
def removeAdapterFromInstanceList (hash : InstanceHash α) (adapter : α) (lock : Bool) :
    Bool × InstanceHash α :=
  let i := instanceHashValue (instanceKey adapter)
  if lock then
    match unlink (fun current => decide (current = adapter)) hash[i] with
    | some (_, rest) => (true, hash.set i rest) -- found match
    | none => (false, hash)
  else (false, hash)

/-- `LookupAdapterInInstanceList` -/
def lookupAdapterInInstanceList (hash : InstanceHash α) (device : BitVec w) (lock : Bool) :
    Option α × InstanceHash α :=
  let i := instanceHashValue device
  if lock then
    match unlink (fun current => decide (device = instanceKey current)) hash[i] with
    | some (current, rest) => (some current, hash.set i (current :: rest)) -- move it to head of list
    | none => (none, hash)
  else (none, hash)

/-- The loop of `NInstances`. -/
def countBuckets (hash : InstanceHash α) (locks : Fin nInstanceBuckets → Bool) :
    List (Fin nInstanceBuckets) → Int → Int
  | [], n => n
  | i :: is, n => if locks i then countBuckets hash locks is (n + hash[i].length) else -1

/-- `NInstances` -/
def nInstances (hash : InstanceHash α) (locks : Fin nInstanceBuckets → Bool) : Int :=
  countBuckets hash locks (List.finRange nInstanceBuckets) 0

def instanceCall (hash : InstanceHash α) : InstanceCall α w → InstanceAnswer α × InstanceHash α
  | .add adapter lock memory =>
      let (ret, hash) := addAdapterToInstanceList instanceKey hash adapter lock memory
      (.done ret, hash)
  | .remove adapter lock =>
      let (ret, hash) := removeAdapterFromInstanceList instanceKey hash adapter lock
      (.done ret, hash)
  | .lookup device lock =>
      let (ret, hash) := lookupAdapterInInstanceList instanceKey hash device lock
      (.found ret, hash)
  | .count locks => (.number (nInstances hash locks), hash)

/-! ## The list -/

/-- What a call does to the adapters, the one used last in front. -/
def recentCall (l : List α) : InstanceCall α w → InstanceAnswer α × List α
  | .add adapter lock memory =>
      if lock && memory then (.done true, adapter :: l) else (.done false, l)
  | .remove adapter lock =>
      if lock then (.done (decide (adapter ∈ l)), l.erase adapter) else (.done false, l)
  | .lookup device lock =>
      if lock then
        match l.find? fun adapter => decide (device = instanceKey adapter) with
        | some adapter => (.found (some adapter), adapter :: l.erase adapter)
        | none => (.found none, l)
      else (.found none, l)
  | .count locks => (.number (if ∀ i, locks i = true then l.length else -1), l)

/-- Calls in a row, and what each answers. -/
def callsInRow {σ : Type} (call : σ → InstanceCall α w → InstanceAnswer α × σ) (s : σ) :
    List (InstanceCall α w) → List (InstanceAnswer α) × σ
  | [] => ([], s)
  | c :: cs =>
      let (answer, s) := call s c
      let (answers, s) := callsInRow call s cs
      (answer :: answers, s)

/-! ## The table answers as the list -/

/-- The bucket of an adapter. -/
def instanceSlot (adapter : α) : Fin nInstanceBuckets := instanceHashValue (instanceKey adapter)

variable {instanceKey} {hash : InstanceHash α} {l : List α}

omit [DecidableEq α] in
theorem addAdapter_sorts (h : Sorts (instanceSlot instanceKey) hash l) (adapter : α)
    (lock memory : Bool) :
    (addAdapterToInstanceList instanceKey hash adapter lock memory).1 = (lock && memory) ∧
      Sorts (instanceSlot instanceKey)
        (addAdapterToInstanceList instanceKey hash adapter lock memory).2
        (if lock && memory then adapter :: l else l) := by
  cases lock with
  | false => exact ⟨rfl, h⟩
  | true =>
      cases memory with
      | false => exact ⟨rfl, h⟩
      | true => exact ⟨rfl, h.push adapter⟩

theorem removeAdapter_sorts (h : Sorts (instanceSlot instanceKey) hash l) (adapter : α) :
    (removeAdapterFromInstanceList instanceKey hash adapter true).1 = decide (adapter ∈ l) ∧
      Sorts (instanceSlot instanceKey)
        (removeAdapterFromInstanceList instanceKey hash adapter true).2 (l.erase adapter) := by
  have hslot : ∀ a, decide (a = adapter) = true →
      instanceSlot instanceKey a = instanceHashValue (instanceKey adapter) := by
    intro a ha
    rw [of_decide_eq_true ha]
    rfl
  unfold removeAdapterFromInstanceList
  rw [if_pos rfl, unlink_eq, h.find hslot]
  cases hfind : l.find? fun current => decide (current = adapter) with
  | none =>
      have hnot : adapter ∉ l := by
        intro hmem
        exact List.find?_eq_none.mp hfind adapter hmem (decide_eq_true rfl)
      rw [List.erase_of_not_mem hnot]
      exact ⟨(decide_eq_false hnot).symm, h⟩
  | some found =>
      have hyes := List.find?_some hfind
      have hfound : found = adapter := of_decide_eq_true hyes
      have hmem : adapter ∈ l := hfound ▸ List.mem_of_find?_eq_some hfind
      refine ⟨(decide_eq_true hmem).symm, ?_⟩
      rw [← hfound, ← eraseP_of_find hfind, hfound]
      exact h.erase hslot

theorem lookupAdapter_sorts (h : Sorts (instanceSlot instanceKey) hash l) (device : BitVec w) :
    (lookupAdapterInInstanceList instanceKey hash device true).1 =
        (l.find? fun adapter => decide (device = instanceKey adapter)) ∧
      Sorts (instanceSlot instanceKey) (lookupAdapterInInstanceList instanceKey hash device true).2
        (match l.find? fun adapter => decide (device = instanceKey adapter) with
          | some adapter => adapter :: l.erase adapter
          | none => l) := by
  have hslot : ∀ a, decide (device = instanceKey a) = true →
      instanceSlot instanceKey a = instanceHashValue device := by
    intro a ha
    rw [of_decide_eq_true ha]
    rfl
  unfold lookupAdapterInInstanceList
  rw [if_pos rfl, unlink_eq, h.find hslot]
  cases hfind : l.find? fun current => decide (device = instanceKey current) with
  | none => exact ⟨rfl, h⟩
  | some found =>
      have hyes := List.find?_some hfind
      refine ⟨rfl, ?_⟩
      dsimp only
      rw [← eraseP_of_find hfind]
      exact h.refresh hslot hyes

omit [DecidableEq α] in
theorem countBuckets_eq (locks : Fin nInstanceBuckets → Bool) (is : List (Fin nInstanceBuckets))
    (n : Int) :
    countBuckets hash locks is n =
      if ∀ i ∈ is, locks i = true then n + (is.map fun i => hash[i].length).sum else -1 := by
  induction is generalizing n with
  | nil => simp [countBuckets]
  | cons i is ih =>
      unfold countBuckets
      cases hi : locks i with
      | false => simp [hi]
      | true =>
          rw [if_pos rfl, ih]
          simp [hi, Int.add_assoc]

omit [DecidableEq α] in
theorem nInstances_eq (h : Sorts (instanceSlot instanceKey) hash l)
    (locks : Fin nInstanceBuckets → Bool) :
    nInstances hash locks = if ∀ i, locks i = true then (l.length : Int) else -1 := by
  have hsum : ((List.finRange nInstanceBuckets).map fun i => hash[i].length).sum = l.length := by
    rw [← h.length, Fin.sum_univ_def]
  unfold nInstances
  rw [countBuckets_eq, hsum]
  simp

/-- One call. -/
theorem instanceCall_sorts (h : Sorts (instanceSlot instanceKey) hash l) (c : InstanceCall α w) :
    (instanceCall instanceKey hash c).1 = (recentCall instanceKey l c).1 ∧
      Sorts (instanceSlot instanceKey) (instanceCall instanceKey hash c).2
        (recentCall instanceKey l c).2 := by
  cases c with
  | add adapter lock memory =>
      obtain ⟨hret, hsorts⟩ := addAdapter_sorts h adapter lock memory
      simp only [instanceCall, recentCall]
      rw [hret]
      cases hboth : lock && memory with
      | false => rw [hboth] at hsorts; exact ⟨rfl, hsorts⟩
      | true => rw [hboth] at hsorts; exact ⟨rfl, hsorts⟩
  | remove adapter lock =>
      cases lock with
      | false => exact ⟨rfl, h⟩
      | true =>
          obtain ⟨hret, hsorts⟩ := removeAdapter_sorts h adapter
          exact ⟨congrArg InstanceAnswer.done hret, hsorts⟩
  | lookup device lock =>
      cases lock with
      | false => exact ⟨rfl, h⟩
      | true =>
          obtain ⟨hret, hsorts⟩ := lookupAdapter_sorts h device
          simp only [instanceCall, recentCall, if_true]
          rw [hret]
          cases hfind : l.find? fun adapter => decide (device = instanceKey adapter) with
          | none => rw [hfind] at hsorts; exact ⟨rfl, hsorts⟩
          | some found => rw [hfind] at hsorts; exact ⟨rfl, hsorts⟩
  | count locks => exact ⟨congrArg InstanceAnswer.number (nInstances_eq h locks), h⟩

theorem callsInRow_sorts (h : Sorts (instanceSlot instanceKey) hash l)
    (cs : List (InstanceCall α w)) :
    (callsInRow (instanceCall instanceKey) hash cs).1 =
        (callsInRow (recentCall instanceKey) l cs).1 ∧
      Sorts (instanceSlot instanceKey) (callsInRow (instanceCall instanceKey) hash cs).2
        (callsInRow (recentCall instanceKey) l cs).2 := by
  induction cs generalizing hash l with
  | nil => exact ⟨rfl, h⟩
  | cons c cs ih =>
      obtain ⟨hanswer, hnext⟩ := instanceCall_sorts h c
      obtain ⟨hanswers, hrest⟩ := ih hnext
      exact ⟨congrArg₂ List.cons hanswer hanswers, hrest⟩

end

/-- From `InitInstanceList` on, whatever is called in whatever order, whoever gets a lock and
whether or not there is memory: every call answers as it would for one list of the adapters, and
each bucket holds its part of that list. -/
theorem instanceCalls_refine_list {α : Type} [DecidableEq α] {w : Nat} (instanceKey : α → BitVec w)
    (cs : List (InstanceCall α w)) :
    (callsInRow (instanceCall instanceKey) initInstanceList cs).1 =
        (callsInRow (recentCall instanceKey) [] cs).1 ∧
      ∀ i : Fin nInstanceBuckets,
        (callsInRow (instanceCall instanceKey) initInstanceList cs).2[i] =
          (callsInRow (recentCall instanceKey) [] cs).2.filter
            fun adapter => decide (instanceHashValue (instanceKey adapter) = i) :=
  callsInRow_sorts .nil cs

/-- Three devices, of which two share a bucket. -/
example : (callsInRow (instanceCall fun a : BitVec 32 => a) initInstanceList
    [.add 0x0101 true true, .add 0x0202 true true, .add 7 true true, .lookup 0x0101 true,
      .lookup 9 true, .remove 0x0202 true, .lookup 0x0202 true]).1 =
    [.done true, .done true, .done true, .found (some 0x0101), .found none, .done true,
      .found none] := by
  decide +kernel

end TapCfg.TapWin32
