/-
  TapWin32/Queue.lean --- the circular queues of the Windows driver.

  Source: drivers/windows/tap-win32/mem.c, lines 30 to 54 and 74 to 186, and types.h,
  lines 28 to 35.

  An index is a `ULONG`, and so is the size of the memory: a capacity for which the
  size wraps around gets an array that is too short.  A failed `MYASSERT` and an
  access outside the memory are `none`.  An item is not NULL; NULL is `none`, as the
  queue's memory is zeroed.
-/
import TapCfg.Foundation.Ring
import Mathlib.Data.List.Infix

set_option autoImplicit false

namespace TapCfg.TapWin32

open TapCfg.Foundation

/-! ## The code -/

/-- `Queue` -/
structure Queue (α : Type) where
  base : Nat
  size : Nat
  capacity : Nat
  maxSize : Nat
  data : List (Option α)
  deriving DecidableEq, Repr

variable {α : Type}

/-- `QUEUE_ADD_INDEX` -/
def queueAddIndex (capacity var inc : Nat) : Option Nat :=
  let sum := (var + inc) % 2 ^ 32
  let wrapped := if capacity ≤ sum then sum - capacity else sum
  if wrapped < capacity then some wrapped else none

/-- `QUEUE_SANITY_CHECK` -/
def queueSanityCheck (q : Queue α) : Bool :=
  decide (q.base < q.capacity) && decide (q.size ≤ q.capacity)

/-- `UPDATE_MAX_SIZE` -/
def updateMaxSize (q : Queue α) : Queue α :=
  if q.maxSize < q.size then { q with maxSize := q.size } else q

/-- `sizeof (Queue)`: four `ULONG`s, and an array of unknown length. -/
def sizeofQueue : Nat := 16

/-- `QUEUE_BYTE_ALLOCATION`, where `pointer` is `sizeof (PVOID)`. -/
def queueByteAllocation (pointer capacity : Nat) : Nat := sizeofQueue + capacity * pointer

/-- `MemAlloc`: the size of the memory, or NULL. -/
def memAlloc (size : Nat) (granted : Bool) : Option Nat :=
  let p_Size := size % 2 ^ 32
  if p_Size ≠ 0 ∧ granted then some p_Size else none

/-- `QueueInit`; the result is NULL when there is no memory.  The fields before the array may
lie behind memory that is too short already. -/
def queueInit (α : Type) (pointer capacity : Nat) (granted : Bool) :
    Option (Option (Queue α)) :=
  if 0 < capacity then
    match memAlloc (queueByteAllocation pointer capacity) granted with
    | none => some none
    | some p_Size =>
        if sizeofQueue ≤ p_Size then
          some (some { base := 0, size := 0, capacity := capacity, maxSize := 0,
                       data := List.replicate ((p_Size - sizeofQueue) / pointer) none })
        else none
  else none

/-- `QueuePush` -/
def queuePush (q : Queue α) (item : α) : Option (Option α × Queue α) :=
  if queueSanityCheck q then
    if q.size = q.capacity then some (none, q)
    else do
      let dest ← queueAddIndex q.capacity q.base q.size
      let data ← store q.data dest (some item)
      some (some item, updateMaxSize { q with data := data, size := q.size + 1 })
  else none

/-- `QueuePop` -/
def queuePop (q : Queue α) : Option (Option α × Queue α) :=
  if queueSanityCheck q then
    if q.size = 0 then some (none, q)
    else do
      let oldbase := q.base
      let base ← queueAddIndex q.capacity q.base 1
      let q := updateMaxSize { q with base := base, size := q.size - 1 }
      let item ← q.data[oldbase]?
      some (item, q)
  else none

section

variable [DecidableEq α]

/-- The loop of `QueueExtract`, with `count` turns to go. -/
def queueExtractLoop (item : α) :
    Nat → Queue α → Nat → Nat → Nat → Option (Nat × Queue α)
  | 0, q, _, _, n => some (n, q)
  | count + 1, q, src, dest, n => do
      let x ← q.data[src]?
      if x = some item then
        let src ← queueAddIndex q.capacity src 1
        queueExtractLoop item count { q with size := q.size - 1 } src dest (n + 1)
      else
        let data ← store q.data dest x
        let dest ← queueAddIndex q.capacity dest 1
        let src ← queueAddIndex q.capacity src 1
        queueExtractLoop item count { q with data := data } src dest n

/-- `QueueExtract` -/
def queueExtract (q : Queue α) (item : α) : Option (Option α × Queue α) :=
  if queueSanityCheck q then do
    let (n, q) ← queueExtractLoop item q.size q q.base q.base 0
    some (if n = 0 then none else some item, q)
  else none

end

/-! ## The queue as a list -/

/-- The queue holds `items`, oldest first, and never held more than `peak`.  With more than
`2 ^ 31` cells the indices would overflow. -/
structure Queue.Holds (q : Queue α) (capacity : Nat) (items : List α) (peak : Nat) : Prop where
  capacity_eq : q.capacity = capacity
  small : q.capacity ≤ 2 ^ 31
  length : q.data.length = q.capacity
  base_lt : q.base < q.capacity
  size_le : q.size ≤ q.capacity
  items_eq : window q.data q.base q.size = items.map some
  peak_eq : q.maxSize = peak
  size_le_peak : q.size ≤ peak

section Refinement

variable {q : Queue α} {capacity peak : Nat} {items : List α}

theorem updateMaxSize_eq (q : Queue α) :
    updateMaxSize q = { q with maxSize := max q.maxSize q.size } := by
  unfold updateMaxSize
  split
  · rw [Nat.max_eq_right (by omega)]
  · rw [Nat.max_eq_left (by omega)]

theorem queueAddIndex_eq {i k : Nat} (hs : capacity ≤ 2 ^ 31) (hi : i < capacity)
    (hk : k ≤ capacity) : queueAddIndex capacity i k = some ((i + k) % capacity) := by
  have hsum : (i + k) % 2 ^ 32 = i + k := Nat.mod_eq_of_lt (by omega)
  by_cases hwrap : capacity ≤ i + k
  · have hlt : i + k - capacity < capacity := by omega
    have hmod : (i + k) % capacity = i + k - capacity := by
      rw [Nat.mod_eq_sub_mod hwrap, Nat.mod_eq_of_lt hlt]
    simp only [queueAddIndex, hsum, hwrap, if_true, hlt, hmod]
  · have hlt : i + k < capacity := by omega
    simp only [queueAddIndex, hsum, hwrap, if_false, hlt, if_true, Nat.mod_eq_of_lt hlt]

/-- Advancing an index by one moves it to the next offset. -/
theorem queueAddIndex_next (base i : Nat) (hs : capacity ≤ 2 ^ 31) (hpos : 0 < capacity) :
    queueAddIndex capacity ((base + i) % capacity) 1 = some ((base + (i + 1)) % capacity) := by
  rw [queueAddIndex_eq hs (Nat.mod_lt _ hpos) hpos, Nat.mod_add_mod, Nat.add_assoc]

namespace Queue.Holds

theorem sane (h : q.Holds capacity items peak) : queueSanityCheck q = true := by
  simp [queueSanityCheck, h.base_lt, h.size_le]

theorem length_eq (h : q.Holds capacity items peak) : items.length = q.size := by
  have hlen := congrArg List.length h.items_eq
  rwa [window_length (by rw [h.length]; exact h.size_le), List.length_map, eq_comm] at hlen

theorem length_le (h : q.Holds capacity items peak) : items.length ≤ capacity := by
  rw [h.length_eq, ← h.capacity_eq]
  exact h.size_le

end Queue.Holds

/-- A new queue is empty, and all its cells are there if the size does not wrap around. -/
theorem queueInit_holds {pointer : Nat} (hpointer : pointer = 4 ∨ pointer = 8)
    (hpos : 0 < capacity) (hs : queueByteAllocation pointer capacity < 2 ^ 32) :
    ∃ q : Queue α, queueInit α pointer capacity true = some (some q) ∧
      q.Holds capacity [] 0 := by
  have halloc : memAlloc (queueByteAllocation pointer capacity) true
      = some (queueByteAllocation pointer capacity) := by
    have hne : queueByteAllocation pointer capacity ≠ 0 := by
      rw [queueByteAllocation, sizeofQueue]
      omega
    simp only [memAlloc, Nat.mod_eq_of_lt hs]
    exact if_pos ⟨hne, trivial⟩
  have hcells : (queueByteAllocation pointer capacity - sizeofQueue) / pointer = capacity := by
    rw [queueByteAllocation, Nat.add_sub_cancel_left,
      Nat.mul_div_cancel _ (by rcases hpointer with rfl | rfl <;> decide)]
  have hsmall : capacity ≤ 2 ^ 31 := by
    simp only [queueByteAllocation, sizeofQueue] at hs
    rcases hpointer with rfl | rfl <;> omega
  refine ⟨⟨0, 0, capacity, 0, List.replicate capacity none⟩, ?_, ?_⟩
  · have hheader : sizeofQueue ≤ queueByteAllocation pointer capacity := Nat.le_add_right _ _
    simp only [queueInit, hpos, if_true, halloc, hheader, hcells]
  · exact ⟨rfl, hsmall, by simp, hpos, Nat.zero_le _, by simp, rfl, Nat.le_refl _⟩

/-- `QueuePush` appends the item, or refuses it when the queue is full. -/
theorem queuePush_holds (h : q.Holds capacity items peak) (x : α) :
    ∃ q', queuePush q x = some (if items.length < capacity then some x else none, q') ∧
      q'.Holds capacity (if items.length < capacity then items ++ [x] else items)
        (if items.length < capacity then max peak (items.length + 1) else peak) := by
  by_cases hfull : q.size = q.capacity
  · have hlen : ¬ items.length < capacity := by
      rw [h.length_eq, ← h.capacity_eq]
      omega
    refine ⟨q, ?_, ?_⟩
    · simp [queuePush, h.sane, hfull, hlen]
    · rw [if_neg hlen, if_neg hlen]
      exact h
  · have hlt : q.size < q.capacity := Nat.lt_of_le_of_ne h.size_le hfull
    have hlen : items.length < capacity := by rwa [h.length_eq, ← h.capacity_eq]
    have hdest : (q.base + q.size) % q.capacity < q.data.length := by
      rw [h.length]
      exact Nat.mod_lt _ (by omega)
    have hstore := store_eq_some (x := some x) hdest
    have hwin : window (q.data.set ((q.base + q.size) % q.capacity) (some x)) q.base (q.size + 1)
        = (items ++ [x]).map some := by
      have hpush := window_push q.data q.base (some x) (by rw [h.length]; exact hlt)
      rw [h.items_eq, h.length] at hpush
      rw [hpush, List.map_append, List.map_singleton]
    refine ⟨updateMaxSize { q with
      data := q.data.set ((q.base + q.size) % q.capacity) (some x), size := q.size + 1 }, ?_, ?_⟩
    · simp [queuePush, h.sane, hfull, hlen, queueAddIndex_eq h.small h.base_lt h.size_le, hstore]
    · rw [if_pos hlen, if_pos hlen, updateMaxSize_eq, h.length_eq, ← h.peak_eq]
      exact ⟨h.capacity_eq, h.small, by simp [h.length], h.base_lt, hlt, hwin, rfl,
        Nat.le_max_right _ _⟩

/-- `QueuePop` takes the oldest item. -/
theorem queuePop_holds (h : q.Holds capacity items peak) :
    ∃ q', queuePop q = some (items.head?, q') ∧ q'.Holds capacity items.tail peak := by
  have hlen := h.length_eq
  cases items with
  | nil =>
      have hzero : q.size = 0 := hlen.symm
      exact ⟨q, by simp [queuePop, h.sane, hzero], h⟩
  | cons x items =>
      have hsize : q.size = items.length + 1 := hlen.symm
      have hle := h.size_le
      have hwin := h.items_eq
      rw [hsize, window_pop (by rw [h.length]; exact h.base_lt) (by rw [h.length]; omega),
        List.map_cons, List.cons.injEq] at hwin
      have hold : q.data[q.base]? = some (some x) := by
        rw [List.getElem?_eq_getElem (by rw [h.length]; exact h.base_lt), hwin.1]
      have hbase : (q.base + 1) % q.capacity < q.capacity := Nat.mod_lt _ (by omega)
      have hadd := queueAddIndex_eq h.small h.base_lt (k := 1) (by omega)
      have hpeak : max q.maxSize (q.size - 1) = q.maxSize := by
        have hsize_le := h.size_le_peak
        rw [← h.peak_eq] at hsize_le
        omega
      refine ⟨updateMaxSize { q with base := (q.base + 1) % q.capacity, size := q.size - 1 },
        ?_, ?_⟩
      · have hne : q.size ≠ 0 := by omega
        simp [queuePop, h.sane, hne, hadd, updateMaxSize_eq, hold]
      · rw [updateMaxSize_eq]
        refine ⟨h.capacity_eq, h.small, h.length, hbase, by simp only; omega, ?_,
          hpeak.trans h.peak_eq, Nat.le_trans (Nat.sub_le _ _) h.size_le_peak⟩
        simp only [hsize, Nat.add_sub_cancel, List.tail_cons, ← h.length, window_mod]
        exact hwin.2

/-! ## The extraction -/

section Extraction

variable [DecidableEq α]

/-- What `QueueExtract` keeps. -/
def keeps (item : α) (x : Option α) : Bool := decide (x ≠ some item)

theorem filter_keeps (item : α) (items : List α) :
    (items.map some).filter (keeps item) = (items.filter (· ≠ item)).map some := by
  simp [List.filter_map, keeps, Function.comp_def]

/-- The loop from the middle: `i` cells were looked at, `j` of them kept. -/
theorem queueExtractLoop_compacts {q₀ : Queue α} (h : q₀.Holds capacity items peak) (item : α)
    (count : Nat) {i j : Nat} {data : List (Option α)} (hi : i + count = q₀.size)
    (hlen : data.length = q₀.capacity)
    (hc : Compacted (keeps item) (q₀.data.rotate q₀.base) (data.rotate q₀.base) i j) :
    ∃ data' j', queueExtractLoop item count { q₀ with data := data, size := q₀.size - (i - j) }
        ((q₀.base + i) % q₀.capacity) ((q₀.base + j) % q₀.capacity) (i - j)
          = some (q₀.size - j', { q₀ with data := data', size := j' }) ∧
      data'.length = q₀.capacity ∧
      Compacted (keeps item) (q₀.data.rotate q₀.base) (data'.rotate q₀.base) q₀.size j' := by
  induction count generalizing i j data with
  | zero =>
      have hi' : i = q₀.size := hi
      have hj := hc.le
      subst hi'
      refine ⟨data, j, ?_, hlen, hc⟩
      have hsize : q₀.size - (q₀.size - j) = j := by omega
      simp only [queueExtractLoop, hsize]
  | succ count ih =>
      have hle := h.size_le
      have hb := h.base_lt
      have hj := hc.le
      have hpos : 0 < q₀.capacity := by omega
      have hiw : i < (q₀.data.rotate q₀.base).length := by
        rw [List.length_rotate, h.length]
        omega
      -- the cell at `src` is the `i`-th cell of the window
      have hx : data[(q₀.base + i) % q₀.capacity]? = some (q₀.data.rotate q₀.base)[i] := by
        rw [← hc.next hiw, getElem?_window (by omega), hlen]
      have hsrc := queueAddIndex_next q₀.base i h.small hpos
      by_cases hkeep : (q₀.data.rotate q₀.base)[i] = some item
      · have hskip := hc.skip hiw (by simp [keeps, hkeep])
        obtain ⟨data', j', hrun, hlen', hc'⟩ := ih (by omega) hlen hskip
        refine ⟨data', j', ?_, hlen', hc'⟩
        have hn : i + 1 - j = i - j + 1 := by omega
        have hs : q₀.size - (i - j) - 1 = q₀.size - (i - j + 1) := by omega
        rw [hn] at hrun
        simpa only [queueExtractLoop, hx, Option.bind_eq_bind, Option.bind_some, hkeep, if_true,
          hs, hsrc] using hrun
      · have hdest := queueAddIndex_next q₀.base j h.small hpos
        have hjlt : (q₀.base + j) % q₀.capacity < data.length := by
          rw [hlen]
          exact Nat.mod_lt _ hpos
        have hstore := store_eq_some (x := (q₀.data.rotate q₀.base)[i]) hjlt
        have hmove := hc.move hiw (decide_eq_true hkeep)
        rw [← rotate_set data q₀.base j _ (by omega), hlen] at hmove
        obtain ⟨data', j', hrun, hlen', hc'⟩ := ih (by omega) (by simpa using hlen) hmove
        refine ⟨data', j', ?_, hlen', hc'⟩
        have hn : i + 1 - (j + 1) = i - j := by omega
        rw [hn] at hrun
        simpa only [queueExtractLoop, hx, Option.bind_eq_bind, Option.bind_some, hkeep, if_false,
          hstore, hsrc, hdest] using hrun

/-- `QueueExtract` takes every copy of the item and leaves the others in order. -/
theorem queueExtract_holds (h : q.Holds capacity items peak) (x : α) :
    ∃ q', queueExtract q x = some (if x ∈ items then some x else none, q') ∧
      q'.Holds capacity (items.filter (· ≠ x)) peak := by
  have hstart := Compacted.start (keeps x) (q.data.rotate q.base)
  obtain ⟨data', j, hrun, hlen, hc⟩ :=
    queueExtractLoop_compacts h x q.size (Nat.zero_add _) h.length hstart
  have hfilter : ((q.data.rotate q.base).take q.size).filter (keeps x)
      = (items.filter (· ≠ x)).map some := by
    rw [← filter_keeps, ← h.items_eq, window]
  have hj : j = (items.filter (· ≠ x)).length := by
    rw [hc.count, hfilter, List.length_map]
  have hsize := h.length_eq
  -- nothing was taken exactly when the filter is the whole list
  have hzero : q.size - j = 0 ↔ x ∉ items := by
    have hle := List.length_filter_le (· ≠ x) items
    rw [hj, ← hsize]
    constructor
    · intro h0 hx
      have hlt := List.length_filter_lt_length_iff_exists (p := (· ≠ x)).mpr ⟨x, hx, by simp⟩
      omega
    · intro hx
      have hall : items.filter (· ≠ x) = items := by
        apply List.filter_eq_self.mpr
        intro a ha
        simp only [ne_eq, decide_eq_true_eq]
        rintro rfl
        exact hx ha
      rw [hall, Nat.sub_self]
  refine ⟨{ q with data := data', size := j }, ?_, ?_⟩
  · simp only [Nat.sub_zero, Nat.add_zero, Nat.mod_eq_of_lt h.base_lt] at hrun
    simp only [queueExtract, h.sane, if_true, hrun, Option.bind_eq_bind, Option.bind_some, hzero]
    by_cases hx : x ∈ items <;> simp [hx]
  · have hle : j ≤ q.size := hc.le
    have hcap := h.size_le
    refine ⟨h.capacity_eq, h.small, hlen, h.base_lt, Nat.le_trans hle hcap, ?_, h.peak_eq,
      Nat.le_trans hle h.size_le_peak⟩
    simp only
    rw [window, hc.kept, hfilter]

end Extraction

/-! ## Runs of calls -/

/-- A call on a queue. -/
inductive QueueCall (α : Type) where
  | push (item : α)
  | pop
  | extract (item : α)
  deriving DecidableEq, Repr

/-- A bounded first-in-first-out list, and the most it ever held. -/
structure Fifo (α : Type) where
  items : List α
  peak : Nat
  deriving DecidableEq, Repr

section Calls

variable [DecidableEq α]

/-- What a call returns and leaves. -/
def queueCall (q : Queue α) : QueueCall α → Option (Option α × Queue α)
  | .push item => queuePush q item
  | .pop => queuePop q
  | .extract item => queueExtract q item

/-- The calls one after the other. -/
def queueCalls : Queue α → List (QueueCall α) → Option (List (Option α) × Queue α)
  | q, [] => some ([], q)
  | q, c :: cs => do
      let (r, q) ← queueCall q c
      let (rs, q) ← queueCalls q cs
      some (r :: rs, q)

/-- What the call does to the list. -/
def fifoCall (capacity : Nat) (f : Fifo α) : QueueCall α → Option α × Fifo α
  | .push item =>
      if f.items.length < capacity then
        (some item, { items := f.items ++ [item], peak := max f.peak (f.items.length + 1) })
      else (none, f)
  | .pop => (f.items.head?, { f with items := f.items.tail })
  | .extract item =>
      (if item ∈ f.items then some item else none, { f with items := f.items.filter (· ≠ item) })

/-- The calls one after the other, on the list. -/
def fifoCalls (capacity : Nat) : Fifo α → List (QueueCall α) → List (Option α) × Fifo α
  | f, [] => ([], f)
  | f, c :: cs =>
      let (r, f) := fifoCall capacity f c
      let (rs, f) := fifoCalls capacity f cs
      (r :: rs, f)

theorem queueCall_holds {f : Fifo α} (h : q.Holds capacity f.items f.peak) (c : QueueCall α) :
    ∃ q', queueCall q c = some ((fifoCall capacity f c).1, q') ∧
      q'.Holds capacity (fifoCall capacity f c).2.items (fifoCall capacity f c).2.peak := by
  cases c with
  | push item =>
      obtain ⟨q', hrun, hq'⟩ := queuePush_holds h item
      refine ⟨q', ?_, ?_⟩
      · rw [queueCall, hrun, fifoCall]
        split <;> rfl
      · rw [fifoCall]
        split <;> simpa [*] using hq'
  | pop => exact queuePop_holds h
  | extract item => exact queueExtract_holds h item

theorem queueCalls_hold {f : Fifo α} (h : q.Holds capacity f.items f.peak)
    (cs : List (QueueCall α)) :
    ∃ q', queueCalls q cs = some ((fifoCalls capacity f cs).1, q') ∧
      q'.Holds capacity (fifoCalls capacity f cs).2.items (fifoCalls capacity f cs).2.peak := by
  induction cs generalizing q f with
  | nil => exact ⟨q, rfl, h⟩
  | cons c cs ih =>
      obtain ⟨q', hcall, hq'⟩ := queueCall_holds h c
      obtain ⟨q'', hcalls, hq''⟩ := ih hq'
      exact ⟨q'', by simp [queueCalls, hcall, hcalls, fifoCalls], hq''⟩

/-- `2 ^ 30` cells of four bytes wrap around: the memory is the header alone, and no item goes in. -/
example : (queueInit Nat 4 (2 ^ 30) true).bind (fun q => q.map Queue.data) = some [] ∧
    ((queueInit Nat 4 (2 ^ 30) true).bind fun q => q.bind (queuePush · 1)) = none := by decide

end Calls

end Refinement

/-! ## Queues that carry their invariant -/

/-- A queue of the driver: it holds some items. -/
structure BoundedQueue (α : Type) (capacity : Nat) where
  queue : Queue α
  holds : ∃ items peak, queue.Holds capacity items peak

namespace BoundedQueue

variable {capacity : Nat}

/-- What the queue holds, oldest first. -/
def items (b : BoundedQueue α capacity) : List α :=
  (window b.queue.data b.queue.base b.queue.size).filterMap id

theorem items_eq {b : BoundedQueue α capacity} {xs : List α} {peak : Nat}
    (h : b.queue.Holds capacity xs peak) : b.items = xs := by
  rw [BoundedQueue.items, h.items_eq, List.filterMap_map]
  simp

theorem holds_items (b : BoundedQueue α capacity) :
    ∃ peak, b.queue.Holds capacity b.items peak := by
  obtain ⟨xs, peak, h⟩ := b.holds
  exact ⟨peak, by rwa [items_eq h]⟩

/-- `QueueCount` -/
def count (b : BoundedQueue α capacity) : Nat := b.queue.size

@[simp] theorem count_eq (b : BoundedQueue α capacity) : b.count = b.items.length := by
  obtain ⟨peak, h⟩ := b.holds_items
  rw [h.length_eq, count]

/-- A call that returns and leaves a queue holding something. -/
def Safe (capacity : Nat) (r : Option (Option α × Queue α)) : Prop :=
  ∃ x q xs peak, r = some (x, q) ∧ q.Holds capacity xs peak

theorem Safe.isSome {r : Option (Option α × Queue α)} (h : Safe capacity r) : r.isSome := by
  obtain ⟨x, q, xs, peak, rfl, -⟩ := h
  rfl

theorem Safe.holds {r : Option (Option α × Queue α)} (h : Safe capacity r) :
    ∃ xs peak, (r.get h.isSome).2.Holds capacity xs peak := by
  obtain ⟨x, q, xs, peak, rfl, hq⟩ := h
  exact ⟨xs, peak, hq⟩

/-- What a safe call returned and left. -/
def settle (r : Option (Option α × Queue α)) (h : Safe capacity r) :
    Option α × BoundedQueue α capacity :=
  ((r.get h.isSome).1, ⟨(r.get h.isSome).2, h.holds⟩)

theorem settle_eq {r : Option (Option α × Queue α)} {x : Option α} {q : Queue α} {xs : List α}
    {peak : Nat} (h : Safe capacity r) (hr : r = some (x, q)) (hq : q.Holds capacity xs peak) :
    (settle r h).1 = x ∧ (settle r h).2.items = xs := by
  subst hr
  exact ⟨rfl, items_eq hq⟩

/-- A new queue. -/
def new (α : Type) (capacity : Nat) (h : 0 < capacity ∧ capacity ≤ 2 ^ 31) :
    BoundedQueue α capacity where
  queue := ⟨0, 0, capacity, 0, List.replicate capacity none⟩
  holds := ⟨[], 0, rfl, h.2, by simp, h.1, Nat.zero_le _, by simp, rfl, Nat.le_refl _⟩

@[simp] theorem new_items (α : Type) (capacity : Nat) (h : 0 < capacity ∧ capacity ≤ 2 ^ 31) :
    (new α capacity h).items = [] := by
  simp [new, items]

theorem push_safe (b : BoundedQueue α capacity) (x : α) : Safe capacity (queuePush b.queue x) := by
  obtain ⟨peak, h⟩ := b.holds_items
  obtain ⟨q', hrun, hq'⟩ := queuePush_holds h x
  exact ⟨_, q', _, _, hrun, hq'⟩

theorem pop_safe (b : BoundedQueue α capacity) : Safe capacity (queuePop b.queue) := by
  obtain ⟨peak, h⟩ := b.holds_items
  obtain ⟨q', hrun, hq'⟩ := queuePop_holds h
  exact ⟨_, q', _, _, hrun, hq'⟩

/-- `QueuePush` on a queue that carries its invariant. -/
def push (b : BoundedQueue α capacity) (x : α) : Option α × BoundedQueue α capacity :=
  settle (queuePush b.queue x) (b.push_safe x)

/-- `QueuePop` on a queue that carries its invariant. -/
def pop (b : BoundedQueue α capacity) : Option α × BoundedQueue α capacity :=
  settle (queuePop b.queue) b.pop_safe

theorem push_eq (b : BoundedQueue α capacity) (x : α) :
    (b.push x).1 = (if b.items.length < capacity then some x else none) ∧
      (b.push x).2.items = if b.items.length < capacity then b.items ++ [x] else b.items := by
  obtain ⟨peak, h⟩ := b.holds_items
  obtain ⟨q', hrun, hq'⟩ := queuePush_holds h x
  exact settle_eq (b.push_safe x) hrun hq'

theorem pop_eq (b : BoundedQueue α capacity) :
    b.pop.1 = b.items.head? ∧ b.pop.2.items = b.items.tail := by
  obtain ⟨peak, h⟩ := b.holds_items
  obtain ⟨q', hrun, hq'⟩ := queuePop_holds h
  exact settle_eq b.pop_safe hrun hq'

@[simp] theorem pop_fst (b : BoundedQueue α capacity) : b.pop.1 = b.items.head? := b.pop_eq.1

@[simp] theorem pop_items (b : BoundedQueue α capacity) : b.pop.2.items = b.items.tail :=
  b.pop_eq.2

section

variable [DecidableEq α]

theorem extract_safe (b : BoundedQueue α capacity) (x : α) :
    Safe capacity (queueExtract b.queue x) := by
  obtain ⟨peak, h⟩ := b.holds_items
  obtain ⟨q', hrun, hq'⟩ := queueExtract_holds h x
  exact ⟨_, q', _, _, hrun, hq'⟩

/-- `QueueExtract` on a queue that carries its invariant. -/
def extract (b : BoundedQueue α capacity) (x : α) : Option α × BoundedQueue α capacity :=
  settle (queueExtract b.queue x) (b.extract_safe x)

theorem extract_eq (b : BoundedQueue α capacity) (x : α) :
    (b.extract x).1 = (if x ∈ b.items then some x else none) ∧
      (b.extract x).2.items = b.items.filter (· ≠ x) := by
  obtain ⟨peak, h⟩ := b.holds_items
  obtain ⟨q', hrun, hq'⟩ := queueExtract_holds h x
  exact settle_eq (b.extract_safe x) hrun hq'

end

end BoundedQueue

end TapCfg.TapWin32
