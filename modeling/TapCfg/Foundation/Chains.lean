/-
  Foundation/Chains.lean --- lists that are linked in memory.

  A cell is linked to the next by one of its fields, so that one memory may hold
  several families of lists.  `Seg` says which cells a pointer leads through.  A
  list is a segment that ends at NULL; its cells are distinct, and a walk along
  it that is given as many steps as there are cells reaches its end.  A walk that
  does not has met a freed cell or a cycle.

  A place is what a pointer to a pointer points at: the head of the list, or the
  link of a cell.  Linking in and unlinking write to one place, and leave the
  other families alone (`Relinked`).
-/
import Mathlib.Data.List.AList

set_option autoImplicit false

namespace TapCfg.Foundation

variable {α : Type}

/-! ## Memory -/

/-- What stands at the addresses in use. -/
abbrev Cells (α : Type) : Type := AList fun _ : Nat => α

/-- The cell at `a` is written. -/
def adjust (a : Nat) (f : α → α) (mem : Cells α) : Cells α :=
  match mem.lookup a with
  | some c => mem.insert a (f c)
  | none => mem

theorem lookup_adjust_self (a : Nat) (f : α → α) (mem : Cells α) :
    (adjust a f mem).lookup a = (mem.lookup a).map f := by
  unfold adjust
  cases h : mem.lookup a with
  | none => exact h
  | some c => exact AList.lookup_insert mem

theorem lookup_adjust_ne {a b : Nat} (hne : b ≠ a) (f : α → α) (mem : Cells α) :
    (adjust a f mem).lookup b = mem.lookup b := by
  unfold adjust
  cases mem.lookup a with
  | none => rfl
  | some c => exact AList.lookup_insert_ne hne

theorem mem_iff_lookup {mem : Cells α} {a : Nat} : a ∈ mem ↔ ∃ c, mem.lookup a = some c := by
  rw [← AList.lookup_isSome, Option.isSome_iff_exists]

/-- What a write does not touch of a cell is as before. -/
theorem map_lookup_adjust {β : Type} {g : α → β} {f : α → α} (hg : ∀ c, g (f c) = g c) (a : Nat)
    (mem : Cells α) (b : Nat) : ((adjust a f mem).lookup b).map g = (mem.lookup b).map g := by
  rcases eq_or_ne b a with rfl | hne
  · rw [lookup_adjust_self, Option.map_map]
    exact congrArg (fun k => (mem.lookup b).map k) (funext hg)
  · rw [lookup_adjust_ne hne]

/-- Several cells are written. -/
def adjustAll (f : α → α) (as : List Nat) (mem : Cells α) : Cells α :=
  as.foldl (fun mem a => adjust a f mem) mem

theorem lookup_adjustAll {f : α → α} {as : List Nat} (hnodup : as.Nodup) (mem : Cells α) (b : Nat) :
    (adjustAll f as mem).lookup b = if b ∈ as then (mem.lookup b).map f else mem.lookup b := by
  induction as generalizing mem with
  | nil => rfl
  | cons a as ih =>
      obtain ⟨hnot, hrest⟩ := List.nodup_cons.mp hnodup
      have hrec : (adjustAll f (a :: as) mem).lookup b = _ := ih hrest (adjust a f mem)
      rw [hrec]
      rcases eq_or_ne b a with rfl | hne
      · rw [if_neg hnot, if_pos List.mem_cons_self, lookup_adjust_self]
      · rw [lookup_adjust_ne hne]
        simp only [List.mem_cons, hne, false_or]

theorem map_lookup_adjustAll {β : Type} {g : α → β} {f : α → α} (hg : ∀ c, g (f c) = g c)
    (as : List Nat) (mem : Cells α) (b : Nat) :
    ((adjustAll f as mem).lookup b).map g = (mem.lookup b).map g := by
  induction as generalizing mem with
  | nil => rfl
  | cons a as ih => exact (ih (adjust a f mem)).trans (map_lookup_adjust hg a mem b)

/-! ## Segments -/

/-- The field by which a cell is linked to the next. -/
structure Link (α : Type) where
  next : α → Option Nat
  setNext : Option Nat → α → α
  next_setNext : ∀ n c, next (setNext n c) = n

/-- The pointer `p` leads through these cells to `q`. -/
def Seg (L : Link α) (mem : Cells α) : Option Nat → List Nat → Option Nat → Prop
  | p, [], q => p = q
  | p, a :: as, q => p = some a ∧ ∃ c, mem.lookup a = some c ∧ Seg L mem (L.next c) as q

variable {L : Link α} {mem mem' : Cells α} {p q : Option Nat} {as bs : List Nat} {a : Nat}

theorem seg_append : Seg L mem p (as ++ bs) q ↔ ∃ r, Seg L mem p as r ∧ Seg L mem r bs q := by
  induction as generalizing p with
  | nil => exact ⟨fun h => ⟨p, rfl, h⟩, by rintro ⟨r, rfl, h⟩; exact h⟩
  | cons a as ih =>
      constructor
      · rintro ⟨hp, c, hc, h⟩
        obtain ⟨r, hr, hb⟩ := ih.mp h
        exact ⟨r, ⟨hp, c, hc, hr⟩, hb⟩
      · rintro ⟨r, ⟨hp, c, hc, hr⟩, hb⟩
        exact ⟨hp, c, hc, ih.mpr ⟨r, hr, hb⟩⟩

/-- A segment depends on nothing but the links of its cells. -/
theorem Seg.transport (h : Seg L mem p as q)
    (hsame : ∀ a ∈ as, (mem'.lookup a).map L.next = (mem.lookup a).map L.next) :
    Seg L mem' p as q := by
  induction as generalizing p with
  | nil => exact h
  | cons a as ih =>
      obtain ⟨hp, c, hc, hrest⟩ := h
      have hmap := hsame a List.mem_cons_self
      rw [hc, Option.map_some] at hmap
      obtain ⟨c', hc', hnext⟩ := Option.map_eq_some_iff.mp hmap
      refine ⟨hp, c', hc', ?_⟩
      rw [hnext]
      exact ih hrest fun b hb => hsame b (List.mem_cons_of_mem a hb)

theorem Seg.allocated (h : Seg L mem p as q) (ha : a ∈ as) : a ∈ mem := by
  obtain ⟨front, back, rfl⟩ := List.append_of_mem ha
  obtain ⟨r, -, -, c, hc, -⟩ := seg_append.mp h
  exact mem_iff_lookup.mpr ⟨c, hc⟩

/-- A pointer begins one list. -/
theorem Seg.unique (ha : Seg L mem p as none) (hb : Seg L mem p bs none) : as = bs := by
  induction as generalizing p bs with
  | nil =>
      cases bs with
      | nil => rfl
      | cons b bs =>
          cases ha
          cases hb.1
  | cons a as ih =>
      obtain ⟨rfl, c, hc, hrest⟩ := ha
      cases bs with
      | nil => cases hb
      | cons b bs =>
          obtain ⟨hab, c', hc', hrest'⟩ := hb
          obtain rfl := Option.some.inj hab
          obtain rfl := Option.some.inj (hc.symm.trans hc')
          rw [ih hrest hrest']

/-- A cell that came twice would begin two lists. -/
theorem Seg.nodup (h : Seg L mem p as none) : as.Nodup := by
  induction as generalizing p with
  | nil => exact List.nodup_nil
  | cons a as ih =>
      obtain ⟨rfl, c, hc, hrest⟩ := h
      refine List.nodup_cons.mpr ⟨fun ha => ?_, ih hrest⟩
      obtain ⟨front, back, rfl⟩ := List.append_of_mem ha
      obtain ⟨r, -, htail⟩ := seg_append.mp hrest
      obtain rfl : r = some a := htail.1
      have hlong : Seg L mem (some a) (a :: (front ++ a :: back)) none := ⟨rfl, c, hc, hrest⟩
      have hlen := congrArg List.length (hlong.unique htail)
      simp only [List.length_cons, List.length_append] at hlen
      omega

/-- A pointer that leads back to itself begins no list. -/
theorem Seg.no_end (h : Seg L mem p (a :: as) p) : ¬ Seg L mem p bs none := by
  intro hb
  have hlonger := seg_append.mpr ⟨p, h, hb⟩
  have hlen := congrArg List.length (hlonger.unique hb)
  simp only [List.length_append, List.length_cons] at hlen
  omega

theorem Seg.length_le (h : Seg L mem p as none) : as.length ≤ mem.keys.length :=
  (List.subperm_of_subset h.nodup fun _ ha => AList.mem_keys.mp (h.allocated ha)).length_le

/-! ## Going along a list -/

/-- The cells a loop along the list visits, with so many steps. -/
def walk (L : Link α) (mem : Cells α) : Nat → Option Nat → Option (List Nat)
  | _, none => some []
  | 0, some _ => none
  | n + 1, some a => do
      let c ← mem.lookup a
      let as ← walk L mem n (L.next c)
      some (a :: as)

/-- A loop `for (tmp = p; tmp; tmp = tmp->next)`; `none` when it meets a freed cell or
never ends. -/
def visited (L : Link α) (mem : Cells α) (p : Option Nat) : Option (List Nat) :=
  walk L mem mem.keys.length p

theorem seg_of_walk {n : Nat} (h : walk L mem n p = some as) : Seg L mem p as none := by
  induction n generalizing p as with
  | zero =>
      cases p with
      | none => cases h; rfl
      | some a => cases h
  | succ n ih =>
      cases p with
      | none => cases h; rfl
      | some a =>
          obtain ⟨c, hc, h⟩ := Option.bind_eq_some_iff.mp h
          obtain ⟨rest, hrest, h⟩ := Option.bind_eq_some_iff.mp h
          cases h
          exact ⟨rfl, c, hc, ih hrest⟩

theorem Seg.walk {n : Nat} (h : Seg L mem p as none) (hlen : as.length ≤ n) :
    walk L mem n p = some as := by
  induction as generalizing p n with
  | nil =>
      cases h
      cases n <;> rfl
  | cons a as ih =>
      obtain ⟨rfl, c, hc, hrest⟩ := h
      cases n with
      | zero => cases hlen
      | succ n =>
          have hrec := ih hrest (Nat.le_of_succ_le_succ hlen)
          simp only [Foundation.walk, hc, hrec, Option.bind_eq_bind, Option.bind_some]

/-- The loop comes back exactly from a list. -/
theorem visited_eq_some_iff : visited L mem p = some as ↔ Seg L mem p as none :=
  ⟨seg_of_walk, fun h => h.walk h.length_le⟩

/-- The loop `for (prev = &p; (tmp = *prev); prev = &tmp->next) if (stop) break;` with so
many steps: how often it went on, and `prev` and `tmp` at its end. -/
def seekFrom (L : Link α) (mem : Cells α) (stop : Nat → Nat → α → Bool) :
    Nat → Nat → Option Nat → Option Nat → Option (Nat × Option Nat × Option Nat)
  | _, i, prev, none => some (i, prev, none)
  | 0, _, _, some _ => none
  | n + 1, i, prev, some a => do
      let c ← mem.lookup a
      if stop i a c then some (i, prev, some a)
      else seekFrom L mem stop n (i + 1) (some a) (L.next c)

/-- The loop from the head on. -/
def seek (L : Link α) (mem : Cells α) (stop : Nat → Nat → α → Bool) (p : Option Nat) :
    Option (Nat × Option Nat × Option Nat) := seekFrom L mem stop mem.keys.length 0 none p

/-- The loop goes on at these cells, the first of them the `i`th. -/
def GoesOn (mem : Cells α) (stop : Nat → Nat → α → Bool) : Nat → List Nat → Prop
  | _, [] => True
  | i, a :: as => (∀ c, mem.lookup a = some c → stop i a c = false) ∧ GoesOn mem stop (i + 1) as

/-- The loop ends at the first of these cells, the `i`th, or there is none. -/
def StopsAt (mem : Cells α) (stop : Nat → Nat → α → Bool) (i : Nat) : List Nat → Prop
  | [] => True
  | a :: _ => ∀ c, mem.lookup a = some c → stop i a c = true

theorem seekFrom_eq {stop : Nat → Nat → α → Bool} {n i : Nat} {prev : Option Nat}
    (h : Seg L mem p (as ++ bs) none) (hlen : (as ++ bs).length ≤ n) (has : GoesOn mem stop i as)
    (hbs : StopsAt mem stop (i + as.length) bs) :
    seekFrom L mem stop n i prev p = some (i + as.length, as.getLast?.or prev, bs.head?) := by
  induction as generalizing p n i prev with
  | nil =>
      cases bs with
      | nil =>
          cases h
          cases n <;> rfl
      | cons b bs =>
          obtain ⟨rfl, c, hc, -⟩ := h
          cases n with
          | zero => cases hlen
          | succ n =>
              have hstop : stop i b c = true := hbs c hc
              simp [seekFrom, hc, hstop]
  | cons a as ih =>
      obtain ⟨rfl, c, hc, hrest⟩ := h
      cases n with
      | zero => cases hlen
      | succ n =>
          have hgo : stop i a c = false := has.1 c hc
          have hlast : (as.getLast?.or (some a)) = (a :: as).getLast?.or prev := by
            cases as with
            | nil => rfl
            | cons b as => simp [List.getLast?_cons]
          have hcount : i + 1 + as.length = i + (a :: as).length := by
            rw [List.length_cons]
            omega
          have hrec : seekFrom L mem stop n (i + 1) (some a) (L.next c) =
              some (i + 1 + as.length, as.getLast?.or (some a), bs.head?) :=
            ih hrest (Nat.le_of_succ_le_succ hlen) has.2 (by rw [hcount]; exact hbs)
          simp only [seekFrom, hc, Option.bind_eq_bind, Option.bind_some, hgo, Bool.false_eq_true,
            if_false]
          rw [hrec, hlast, hcount]

theorem seek_eq {stop : Nat → Nat → α → Bool} (h : Seg L mem p (as ++ bs) none)
    (has : GoesOn mem stop 0 as) (hbs : StopsAt mem stop as.length bs) :
    seek L mem stop p = some (as.length, as.getLast?, bs.head?) := by
  have hrun : seek L mem stop p = some (0 + as.length, as.getLast?.or none, bs.head?) :=
    seekFrom_eq h h.length_le has (by rwa [Nat.zero_add])
  rwa [Nat.zero_add, Option.or_none] at hrun

/-- Wherever the loop ends, it has gone on before. -/
theorem exists_split (mem : Cells α) (stop : Nat → Nat → α → Bool) (i : Nat) (nodes : List Nat) :
    ∃ as bs, nodes = as ++ bs ∧ GoesOn mem stop i as ∧ StopsAt mem stop (i + as.length) bs := by
  induction nodes generalizing i with
  | nil => exact ⟨[], [], rfl, trivial, trivial⟩
  | cons a nodes ih =>
      by_cases hstop : ∀ c, mem.lookup a = some c → stop i a c = true
      · exact ⟨[], a :: nodes, rfl, trivial, hstop⟩
      · obtain ⟨as, bs, rfl, has, hbs⟩ := ih (i + 1)
        obtain ⟨c, hc⟩ := not_forall.mp hstop
        obtain ⟨hlookup, hfalse⟩ := Classical.not_imp.mp hc
        refine ⟨a :: as, bs, rfl, ⟨fun c' hc' => ?_, has⟩, ?_⟩
        · rw [hlookup] at hc'
          cases hc'
          exact Bool.eq_false_iff.mpr hfalse
        · rwa [List.length_cons, Nat.add_comm as.length 1, ← Nat.add_assoc]

/-! ## Places -/

/-- What stands at a place; `none` where the cell has been freed. -/
def fetch (L : Link α) (mem : Cells α) (p : Option Nat) : Option Nat → Option (Option Nat)
  | none => some p
  | some b => (mem.lookup b).map L.next

/-- A place is written. -/
def assign (L : Link α) (mem : Cells α) (p : Option Nat) (place v : Option Nat) :
    Option (Option Nat × Cells α) :=
  match place with
  | none => some (v, mem)
  | some b => if b ∈ mem then some (p, adjust b (L.setNext v) mem) else none

/-- Nothing but the links of some cells has been written. -/
structure Relinked (L : Link α) (nodes : List Nat) (mem mem' : Cells α) : Prop where
  others : ∀ b, b ∉ nodes → mem'.lookup b = mem.lookup b
  rest : ∀ {β : Type} (g : α → β), (∀ n c, g (L.setNext n c) = g c) →
    ∀ b, (mem'.lookup b).map g = (mem.lookup b).map g

theorem Relinked.refl (nodes : List Nat) : Relinked L nodes mem mem :=
  ⟨fun _ _ => rfl, fun _ _ _ => rfl⟩

theorem Relinked.adjust {nodes : List Nat} (ha : a ∈ nodes) (v : Option Nat) :
    Relinked L nodes mem (Foundation.adjust a (L.setNext v) mem) :=
  ⟨fun _ hb => lookup_adjust_ne (fun hba => hb (by rwa [hba])) _ mem,
    fun _ hg => map_lookup_adjust (hg v) a mem⟩

theorem Relinked.trans {nodes : List Nat} {mem'' : Cells α} (h : Relinked L nodes mem mem')
    (h' : Relinked L nodes mem' mem'') : Relinked L nodes mem mem'' :=
  ⟨fun b hb => (h'.others b hb).trans (h.others b hb),
    fun g hg b => (h'.rest g hg b).trans (h.rest g hg b)⟩

theorem Relinked.mem_iff {nodes : List Nat} (h : Relinked L nodes mem mem') :
    a ∈ mem' ↔ a ∈ mem := by
  have hunit := h.rest (fun _ => ()) (fun _ _ => rfl) a
  rw [← AList.lookup_isSome, ← AList.lookup_isSome, ← Option.isSome_map, hunit, Option.isSome_map]

/-- The place behind some cells holds what these lead to. -/
theorem Seg.fetch (h : Seg L mem p as q) : fetch L mem p as.getLast? = some q := by
  rcases List.eq_nil_or_concat as with rfl | ⟨front, a, rfl⟩
  · cases h
    rfl
  · rw [List.concat_eq_append] at h ⊢
    obtain ⟨r, -, -, c, hc, hq⟩ := seg_append.mp h
    obtain rfl : L.next c = q := hq
    rw [List.getLast?_concat]
    show (mem.lookup a).map L.next = _
    rw [hc]
    rfl

/-- Writing the place behind some cells makes them lead to what is written. -/
theorem Seg.assign (h : Seg L mem p as q) (hnodup : as.Nodup) (v : Option Nat) :
    ∃ p' mem', assign L mem p as.getLast? v = some (p', mem') ∧ Seg L mem' p' as v ∧
      Relinked L as mem mem' := by
  rcases List.eq_nil_or_concat as with rfl | ⟨front, a, rfl⟩
  · exact ⟨v, mem, rfl, rfl, .refl []⟩
  · rw [List.concat_eq_append] at h hnodup ⊢
    have hlast : a ∈ front ++ [a] := List.mem_append_right front List.mem_cons_self
    obtain ⟨r, hfront, hr, c, hc, -⟩ := seg_append.mp h
    have hnot : a ∉ front := fun ha => (List.nodup_append.mp hnodup).2.2 a ha a (by simp) rfl
    refine ⟨p, adjust a (L.setNext v) mem, ?_, ?_, .adjust hlast v⟩
    · rw [List.getLast?_concat]
      exact if_pos (h.allocated hlast)
    · refine seg_append.mpr ⟨r, hfront.transport fun b hb => ?_, hr, L.setNext v c, ?_, ?_⟩
      · rw [lookup_adjust_ne fun hba => hnot (by rwa [← hba])]
      · rw [lookup_adjust_self, hc]
        rfl
      · exact L.next_setNext v c

/-! ## Linking in and unlinking -/

/-- `a->next = *prev; *prev = a;` -/
def linkAt (L : Link α) (mem : Cells α) (p : Option Nat) (prev : Option Nat) (a : Nat) :
    Option (Option Nat × Cells α) := do
  let next ← fetch L mem p prev
  if a ∈ mem then assign L (adjust a (L.setNext next) mem) p prev (some a) else none

/-- The cell is looked for, and the place before it made to lead past it. -/
def unchain (L : Link α) (mem : Cells α) (p : Option Nat) (a : Nat) :
    Option (Option Nat × Cells α) := do
  let (_, prev, tmp) ← seek L mem (fun _ b _ => b == a) p
  let b ← tmp
  let c ← mem.lookup b
  assign L mem p prev (L.next c)

theorem Seg.linkAt (h : Seg L mem p (as ++ bs) none) (ha : a ∈ mem) (hnew : a ∉ as ++ bs) :
    ∃ p' mem', linkAt L mem p as.getLast? a = some (p', mem') ∧
      Seg L mem' p' (as ++ a :: bs) none ∧ Relinked L (a :: as) mem mem' := by
  obtain ⟨q, hfront, hback⟩ := seg_append.mp h
  obtain ⟨hnota, hnotb⟩ := not_or.mp fun hor => hnew (List.mem_append.mpr hor)
  obtain ⟨c, hc⟩ := mem_iff_lookup.mp ha
  have hothers : ∀ b, b ≠ a →
      (adjust a (L.setNext q) mem).lookup b = mem.lookup b := fun b hb => lookup_adjust_ne hb _ mem
  have hfront' : Seg L (adjust a (L.setNext q) mem) p as q :=
    hfront.transport fun b hb => by rw [hothers b fun hba => hnota (hba ▸ hb)]
  obtain ⟨p', mem', hassign, hseg, hrel⟩ :=
    hfront'.assign (List.nodup_append.mp h.nodup).1 (some a)
  refine ⟨p', mem', ?_, seg_append.mpr ⟨some a, hseg, rfl, L.setNext q c, ?_, ?_⟩, ?_⟩
  · simp only [Foundation.linkAt, hfront.fetch, Option.bind_eq_bind, Option.bind_some, if_pos ha]
    exact hassign
  · rw [hrel.others a hnota, lookup_adjust_self, hc]
    rfl
  · rw [L.next_setNext]
    refine hback.transport fun b hb => ?_
    have hdisjoint : b ∉ as := fun hba => (List.nodup_append.mp h.nodup).2.2 b hba b hb rfl
    rw [hrel.others b hdisjoint, hothers b fun hba => hnotb (hba ▸ hb)]
  · have hwide : Relinked L (a :: as) (adjust a (L.setNext q) mem) mem' :=
      ⟨fun b hb => hrel.others b fun hba => hb (List.mem_cons_of_mem a hba), hrel.rest⟩
    exact (Relinked.adjust List.mem_cons_self q).trans hwide

theorem Seg.unchain (h : Seg L mem p (as ++ a :: bs) none) :
    ∃ p' mem', unchain L mem p a = some (p', mem') ∧ Seg L mem' p' (as ++ bs) none ∧
      Relinked L as mem mem' := by
  obtain ⟨q, hfront, hq, c, hc, hback⟩ := seg_append.mp h
  obtain ⟨hnodup, hnodup', hdisjoint⟩ := List.nodup_append.mp h.nodup
  have hnota : a ∉ as := fun ha => hdisjoint a ha a List.mem_cons_self rfl
  have hgoes : ∀ (i : Nat) (xs : List Nat), a ∉ xs → GoesOn mem (fun _ b _ => b == a) i xs := by
    intro i xs hxs
    induction xs generalizing i with
    | nil => trivial
    | cons x xs ih =>
        obtain ⟨hne, hrest⟩ := not_or.mp fun hor => hxs (List.mem_cons.mpr hor)
        exact ⟨fun _ _ => beq_eq_false_iff_ne.mpr (Ne.symm hne), ih (i + 1) hrest⟩
  have hseek : seek L mem (fun _ b _ => b == a) p = some (as.length, as.getLast?, some a) :=
    seek_eq h (hgoes 0 as hnota) fun _ _ => beq_self_eq_true a
  obtain ⟨p', mem', hassign, hseg, hrel⟩ := hfront.assign hnodup (L.next c)
  refine ⟨p', mem', ?_, seg_append.mpr ⟨L.next c, hseg, hback.transport fun b hb => ?_⟩, hrel⟩
  · simp only [Foundation.unchain, hseek, Option.bind_eq_bind, Option.bind_some, hc]
    exact hassign
  · rw [hrel.others b fun hba => hdisjoint b hba b (List.mem_cons_of_mem a hb) rfl]

end TapCfg.Foundation
