/-
  Foundation/Options.lean --- lists of tagged options.

  An option is a code, a length and that many bytes; one code is a single byte
  of padding, and one ends the list.  Any bytes are, in one way, a list of
  complete options and a tail at which a reader has to stop: nothing, the end
  mark, or an option that is cut off (`exists_splits`, `Splits.unique`).
-/
import TapCfg.Foundation.Framing

set_option autoImplicit false

namespace TapCfg.Foundation

/-- One item of a list of options. -/
inductive Item where
  | pad
  | option (code : Byte) (data : List Byte)
  deriving DecidableEq, Repr

/-- The codes of padding and of the end. -/
structure Marks where
  pad : Byte
  stop : Byte
  ne : pad ≠ stop

namespace Item

variable {m : Marks}

/-- An option has a code of its own and a length that fits into a byte. -/
def Legal (m : Marks) : Item → Prop
  | .pad => True
  | .option code data => code ≠ m.pad ∧ code ≠ m.stop ∧ data.length < 256

/-- The bytes of an item. -/
def bytes (m : Marks) : Item → List Byte
  | .pad => [m.pad]
  | .option code data => code :: UInt8.ofNat data.length :: data

end Item

variable {m : Marks}

/-- The bytes of some items. -/
def itemBytes (m : Marks) (items : List Item) : List Byte := items.flatMap (Item.bytes m)

@[simp] theorem itemBytes_nil (m : Marks) : itemBytes m [] = [] := rfl

@[simp] theorem itemBytes_cons (m : Marks) (i : Item) (items : List Item) :
    itemBytes m (i :: items) = i.bytes m ++ itemBytes m items := by
  simp [itemBytes]

/-- A tail no item can be read from. -/
inductive Stops (m : Marks) : List Byte → Prop where
  | done : Stops m []
  | mark (junk : List Byte) : Stops m (m.stop :: junk)
  | bare {code : Byte} (hpad : code ≠ m.pad) (hstop : code ≠ m.stop) : Stops m [code]
  | cut {code len : Byte} {data : List Byte} (hpad : code ≠ m.pad) (hstop : code ≠ m.stop)
      (hlen : data.length < len.toNat) : Stops m (code :: len :: data)

/-- The bytes are these items, and this tail. -/
structure Splits (m : Marks) (bytes : List Byte) (items : List Item) (tail : List Byte) : Prop where
  eq : bytes = itemBytes m items ++ tail
  legal : ∀ i ∈ items, i.Legal m
  stops : Stops m tail

theorem Splits.cons {bytes tail : List Byte} {items : List Item} {i : Item} (hi : i.Legal m)
    (h : Splits m bytes items tail) : Splits m (i.bytes m ++ bytes) (i :: items) tail := by
  refine ⟨?_, ?_, h.stops⟩
  · rw [h.eq, itemBytes_cons, List.append_assoc]
  · rintro j hj
    rcases List.mem_cons.mp hj with rfl | hj
    · exact hi
    · exact h.legal j hj

/-- Items in front of items. -/
theorem Splits.append {bytes tail : List Byte} {items more : List Item}
    (hi : ∀ i ∈ items, i.Legal m) (h : Splits m bytes more tail) :
    Splits m (itemBytes m items ++ bytes) (items ++ more) tail := by
  induction items with
  | nil => exact h
  | cons i items ih =>
      have htail := ih fun j hj => hi j (List.mem_cons_of_mem _ hj)
      rw [itemBytes_cons, List.append_assoc, List.cons_append]
      exact htail.cons (hi i List.mem_cons_self)

theorem Stops.splits {tail : List Byte} (h : Stops m tail) : Splits m tail [] tail :=
  ⟨rfl, by simp, h⟩

theorem toNat_ofNat_length {data : List Byte} (h : data.length < 256) :
    (UInt8.ofNat data.length).toNat = data.length := by
  rw [UInt8.toNat_ofNat']
  omega

/-- Any bytes can be split. -/
theorem exists_splits (m : Marks) (bytes : List Byte) :
    ∃ items tail, Splits m bytes items tail := by
  induction hn : bytes.length using Nat.strongRecOn generalizing bytes with
  | ind n ih =>
      match bytes, hn with
      | [], _ => exact ⟨[], [], Stops.done.splits⟩
      | code :: rest, hn =>
          by_cases hpad : code = m.pad
          · subst hpad
            obtain ⟨items, tail, h⟩ := ih rest.length (by simp at hn; omega) rest rfl
            exact ⟨.pad :: items, tail, h.cons (i := .pad) trivial⟩
          by_cases hstop : code = m.stop
          · subst hstop
            exact ⟨[], _, (Stops.mark rest).splits⟩
          match rest, hn with
          | [], _ => exact ⟨[], _, (Stops.bare hpad hstop).splits⟩
          | len :: data, hn =>
              by_cases hlen : data.length < len.toNat
              · exact ⟨[], _, (Stops.cut hpad hstop hlen).splits⟩
              -- the option is complete: its data, and the rest
              have hlt := len.toNat_lt
              have htake : (data.take len.toNat).length = len.toNat := by
                rw [List.length_take]
                omega
              obtain ⟨items, tail, h⟩ := ih (data.drop len.toNat).length
                (by simp at hn ⊢; omega) _ rfl
              have hlegal : (Item.option code (data.take len.toNat)).Legal m :=
                ⟨hpad, hstop, by omega⟩
              refine ⟨.option code (data.take len.toNat) :: items, tail, ?_⟩
              have hcons := h.cons hlegal
              rwa [Item.bytes, htake, UInt8.ofNat_toNat, List.cons_append, List.cons_append,
                List.take_append_drop] at hcons

/-- An item is not the beginning of a tail. -/
theorem Item.Legal.not_stops {i : Item} (hi : i.Legal m) {rest : List Byte} :
    ¬ Stops m (i.bytes m ++ rest) := by
  intro h
  cases i with
  | pad =>
      rw [Item.bytes, List.singleton_append] at h
      generalize hl : m.pad :: rest = l at h
      cases h with
      | done => cases hl
      | mark junk => exact m.ne (List.cons.inj hl).1
      | bare hpad hstop => exact hpad (List.cons.inj hl).1.symm
      | cut hpad hstop hlen => exact hpad (List.cons.inj hl).1.symm
  | option code data =>
      obtain ⟨hpad, hstop, hlen⟩ := hi
      rw [Item.bytes, List.cons_append, List.cons_append] at h
      generalize hl : code :: UInt8.ofNat data.length :: (data ++ rest) = l at h
      cases h with
      | done => cases hl
      | mark junk => exact hstop (List.cons.inj hl).1
      | bare => cases (List.cons.inj hl).2
      | cut hpad' hstop' hcut =>
          obtain ⟨-, htail⟩ := List.cons.inj hl
          obtain ⟨rfl, rfl⟩ := List.cons.inj htail
          rw [toNat_ofNat_length hlen, List.length_append] at hcut
          omega

/-- Bytes that begin with two items begin with one. -/
theorem Item.Legal.bytes_inj {i j : Item} (hi : i.Legal m) (hj : j.Legal m) {r s : List Byte}
    (h : i.bytes m ++ r = j.bytes m ++ s) : i = j ∧ r = s := by
  cases i with
  | pad =>
      cases j with
      | pad => exact ⟨rfl, List.append_cancel_left h⟩
      | option code data => exact absurd (List.cons.inj h).1.symm hj.1
  | option code data =>
      cases j with
      | pad => exact absurd (List.cons.inj h).1 hi.1
      | option code' data' =>
          obtain ⟨rfl, htail⟩ := List.cons.inj h
          obtain ⟨hlen, hdata⟩ := List.cons.inj htail
          have hlen' : data.length = data'.length := by
            rw [← toNat_ofNat_length hi.2.2, hlen, toNat_ofNat_length hj.2.2]
          obtain ⟨rfl, rfl⟩ := List.append_inj hdata hlen'
          exact ⟨rfl, rfl⟩

/-- There is one way to split. -/
theorem Splits.unique {bytes tail tail' : List Byte} {items items' : List Item}
    (h : Splits m bytes items tail) (h' : Splits m bytes items' tail') :
    items = items' ∧ tail = tail' := by
  induction items generalizing bytes items' with
  | nil =>
      cases items' with
      | nil => exact ⟨rfl, by rw [← List.nil_append tail, ← List.nil_append tail',
          ← itemBytes_nil m, ← h.eq, ← h'.eq]⟩
      | cons j items' =>
          have hstops := h.stops
          have hbytes := h.eq.symm.trans h'.eq
          rw [itemBytes_nil, List.nil_append, itemBytes_cons, List.append_assoc] at hbytes
          rw [hbytes] at hstops
          exact ((h'.legal j List.mem_cons_self).not_stops hstops).elim
  | cons i items ih =>
      have hi := h.legal i List.mem_cons_self
      cases items' with
      | nil =>
          have hstops := h'.stops
          have hbytes := h'.eq.symm.trans h.eq
          rw [itemBytes_nil, List.nil_append, itemBytes_cons, List.append_assoc] at hbytes
          rw [hbytes] at hstops
          exact (hi.not_stops hstops).elim
      | cons j items' =>
          have hbytes := h.eq.symm.trans h'.eq
          rw [itemBytes_cons, itemBytes_cons, List.append_assoc, List.append_assoc] at hbytes
          obtain ⟨rfl, hrest⟩ := hi.bytes_inj (h'.legal j List.mem_cons_self) hbytes
          have hsub : Splits m (itemBytes m items ++ tail) items tail :=
            ⟨rfl, fun k hk => h.legal k (List.mem_cons_of_mem _ hk), h.stops⟩
          obtain ⟨rfl, rfl⟩ := ih hsub
            ⟨hrest, fun k hk => h'.legal k (List.mem_cons_of_mem _ hk), h'.stops⟩
          exact ⟨rfl, rfl⟩

end TapCfg.Foundation
