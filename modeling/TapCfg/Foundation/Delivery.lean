/-
  Foundation/Delivery.lean --- handing on what a source delivers.

  A reader takes items from a source and hands them on; what it has taken and
  not handed on yet it holds.  A log of `Move`s, oldest first, is what the
  reader and its source have done.  An item is a list, and an empty one counts
  for nothing.

      Accounts h₀ held h    the items taken are those handed on and those held
      session h             what was done since a source was opened last
      CallEnds              how one call for an item ends
      Disciplined h₀ h      an item is asked for only when nothing is outstanding
-/
import TapCfg.Foundation.History

set_option autoImplicit false

namespace TapCfg.Foundation

/-- What a reader and its source do. -/
inductive Move (β : Type) where
  /-- a source is opened -/
  | opened
  /-- the reader looks whether an item is ready -/
  | polled (ready : Bool)
  /-- a request for an item is made -/
  | asked
  /-- a request has come to its end -/
  | ended
  /-- the reader asks for the end of its request -/
  | awaited
  /-- the reader has had to wait for the source -/
  | blocked
  /-- an item is taken over from the source -/
  | took (item : List β)
  /-- an item is handed on -/
  | gave (item : List β)
  deriving DecidableEq, Repr

namespace Move

variable {β : Type}

/-- The item, unless it is empty. -/
def nonEmpty (item : List β) : Option (List β) := if item.isEmpty then none else some item

/-- The item a move takes over. -/
def tookItem : Move β → Option (List β)
  | .took item => nonEmpty item
  | _ => none

/-- The item a move hands on. -/
def gaveItem : Move β → Option (List β)
  | .gave item => nonEmpty item
  | _ => none

/-- A source is opened. -/
def isOpened : Move β → Bool
  | .opened => true
  | _ => false

/-- A request is awaited, or what it has given is taken over. -/
def isResponse : Move β → Bool
  | .awaited => true
  | .took _ => true
  | _ => false

end Move

variable {β : Type}

/-- The items taken over. -/
def taken (h : List (Move β)) : List (List β) := h.filterMap Move.tookItem

/-- The items handed on. -/
def given (h : List (Move β)) : List (List β) := h.filterMap Move.gaveItem

/-- What was done since a source was opened last. -/
def session (h : List (Move β)) : List (Move β) := since Move.isOpened h

/-- The requests that have not come to their end. -/
def outstanding (h : List (Move β)) : Nat :=
  h.foldl (fun n e => match e with
    | .asked => n + 1
    | .ended => n - 1
    | _ => n) 0

@[simp] theorem taken_nil : taken ([] : List (Move β)) = [] := rfl

@[simp] theorem given_nil : given ([] : List (Move β)) = [] := rfl

@[simp] theorem taken_append (h τ : List (Move β)) : taken (h ++ τ) = taken h ++ taken τ :=
  List.filterMap_append

@[simp] theorem given_append (h τ : List (Move β)) : given (h ++ τ) = given h ++ given τ :=
  List.filterMap_append

theorem taken_cons (e : Move β) (τ : List (Move β)) :
    taken (e :: τ) = e.tookItem.toList ++ taken τ := by
  unfold taken
  cases he : e.tookItem <;> simp [he]

theorem given_cons (e : Move β) (τ : List (Move β)) :
    given (e :: τ) = e.gaveItem.toList ++ given τ := by
  unfold given
  cases he : e.gaveItem <;> simp [he]

@[simp] theorem nonEmpty_toList_nil : (Move.nonEmpty ([] : List β)).toList = [] := rfl

theorem nonEmpty_toList {item : List β} (h : item ≠ []) : (Move.nonEmpty item).toList = [item] := by
  have hne : item.isEmpty = false := List.isEmpty_eq_false_iff.mpr h
  simp [Move.nonEmpty, hne]

@[simp] theorem session_opened (h : List (Move β)) : session (h ++ [.opened]) = [] := by
  simp [session, since_concat, Move.isOpened]

/-- Moves that open no source belong to the session. -/
theorem session_append (h : List (Move β)) {τ : List (Move β)}
    (hτ : ∀ e ∈ τ, e.isOpened = false) : session (h ++ τ) = session h ++ τ :=
  since_append_of_not_mem h hτ

@[simp] theorem outstanding_nil : outstanding ([] : List (Move β)) = 0 := rfl

@[simp] theorem outstanding_asked (h : List (Move β)) :
    outstanding (h ++ [.asked]) = outstanding h + 1 := by
  simp [outstanding]

@[simp] theorem outstanding_ended (h : List (Move β)) :
    outstanding (h ++ [.ended]) = outstanding h - 1 := by
  simp [outstanding]

/-- Other moves leave the requests as they are. -/
theorem outstanding_append (h : List (Move β)) {τ : List (Move β)}
    (hτ : ∀ e ∈ τ, e ≠ .asked ∧ e ≠ .ended) : outstanding (h ++ τ) = outstanding h := by
  induction τ using List.reverseRecOn with
  | nil => simp
  | append_singleton τ e ih =>
      have he : e ≠ .asked ∧ e ≠ .ended := hτ e (by simp)
      have hτ' : ∀ e ∈ τ, e ≠ .asked ∧ e ≠ .ended := fun e h => hτ e (by simp [h])
      rw [← ih hτ', ← List.append_assoc]
      unfold outstanding
      rw [List.foldl_append]
      cases e with
      | asked => exact absurd rfl he.1
      | ended => exact absurd rfl he.2
      | opened => rfl
      | polled ready => rfl
      | awaited => rfl
      | blocked => rfl
      | took item => rfl
      | gave item => rfl

/-! ## What is held -/

/-- With `held₀` from before, the items taken are those handed on and those held. -/
def Accounts (held₀ held : List (List β)) (h : List (Move β)) : Prop :=
  held₀ ++ taken h = given h ++ held

namespace Accounts

variable {held₀ held : List (List β)} {h τ : List (Move β)}

theorem start (held : List (List β)) : Accounts held held [] := by simp [Accounts]

/-- Further moves: what was held and what they take is what they hand on and what is
held then. -/
theorem append {held' : List (List β)} (ha : Accounts held₀ held h)
    (hτ : held ++ taken τ = given τ ++ held') : Accounts held₀ held' (h ++ τ) := by
  have heq : held₀ ++ taken h = given h ++ held := ha
  calc held₀ ++ taken (h ++ τ) = (held₀ ++ taken h) ++ taken τ := by
        rw [taken_append, List.append_assoc]
    _ = given h ++ (held ++ taken τ) := by rw [heq, List.append_assoc]
    _ = (given h ++ given τ) ++ held' := by rw [hτ, List.append_assoc]
    _ = given (h ++ τ) ++ held' := by rw [given_append]

/-- Nothing but the first items taken has been handed on. -/
theorem given_inside (ha : Accounts [] held h) : given h <+: taken h := by
  have heq : taken h = given h ++ held := ha
  exact heq ▸ List.prefix_append _ _

end Accounts

/-- What was handed on since a source was opened last is the first of what was taken since. -/
def Current (h : List (Move β)) : Prop := given (session h) <+: taken (session h)

theorem Accounts.current {held : List (List β)} {h : List (Move β)}
    (ha : Accounts [] held (session h)) : Current h := ha.given_inside

/-- Something was handed on, and nothing taken. -/
theorem not_current {h : List (Move β)} (hgiven : given (session h) ≠ [])
    (htaken : taken (session h) = []) : ¬ Current h := by
  unfold Current
  rw [htaken]
  exact fun hprefix => hgiven (List.prefix_nil.mp hprefix)

/-! ## One call -/

/-- How a call for an item ends, when the caller has memory `mem` and room for `count`
elements: what is at hand, what the call returns, the memory after it, what it hands on
and what is held then. -/
inductive CallEnds (count : Int) (mem : List β) :
    List (List β) → Int → List β → List (List β) → List (List β) → Prop where
  /-- there is nothing to hand on -/
  | nothing {r : Int} (h : r ≤ 0) : CallEnds count mem [] r mem [] []
  /-- there is no room for the item -/
  | tooSmall {item : List β} (hne : item ≠ []) (h : count < item.length) :
      CallEnds count mem [item] (-1) mem [] [item]
  | handed {item : List β} (hne : item ≠ []) (h : item.length ≤ count) :
      CallEnds count mem [item] item.length (item ++ mem.drop item.length) [item] []

/-- The bytes a call reports to have handed on. -/
def handedMoves (r : Int) (mem : List β) : List (Move β) :=
  if 0 ≤ r then [.gave (mem.take r.toNat)] else []

@[simp] theorem taken_handedMoves (r : Int) (mem : List β) : taken (handedMoves r mem) = [] := by
  unfold handedMoves
  split <;> rfl

/-- A call loses nothing and hands nothing on twice. -/
theorem CallEnds.split {count r : Int} {mem mem' : List β} {atHand handed held : List (List β)}
    (h : CallEnds count mem atHand r mem' handed held) : atHand = handed ++ held := by
  cases h with
  | nothing _ => rfl
  | tooSmall _ _ => rfl
  | handed _ _ => rfl

/-- What a call reports is what it hands on. -/
theorem CallEnds.given_handedMoves {count r : Int} {mem mem' : List β}
    {atHand handed held : List (List β)} (h : CallEnds count mem atHand r mem' handed held) :
    given (handedMoves r mem') = handed := by
  unfold handedMoves
  cases h with
  | nothing hr =>
      split
      · have hzero : r.toNat = 0 := by omega
        rw [given_cons, hzero]
        rfl
      · rfl
  | tooSmall _ _ => rfl
  | handed hne _ =>
      rw [if_pos (Int.natCast_nonneg _), Int.toNat_natCast, List.take_left, given_cons]
      simp [Move.gaveItem, nonEmpty_toList hne]

/-! ## The discipline -/

/-- An item is asked for only when no request is outstanding and nothing is held:
all that was taken, and what was held before, has been handed on. -/
def Disciplined (held₀ : List (List β)) (h : List (Move β)) : Prop :=
  Along (fun before e => e = .asked → outstanding before = 0 ∧ Accounts held₀ [] before) [] h

/-- At most one request is outstanding at a time. -/
theorem Disciplined.outstanding_le_one {held₀ : List (List β)} {h : List (Move β)}
    (hd : Disciplined held₀ h) : outstanding h ≤ 1 := by
  induction h using List.reverseRecOn with
  | nil => simp
  | append_singleton h e ih =>
      obtain ⟨hh, he⟩ := along_append.mp hd
      have hle : outstanding h ≤ 1 := ih hh
      by_cases hasked : e = .asked
      · have hnone : outstanding h = 0 := (along_singleton.mp he hasked).1
        rw [hasked, outstanding_asked]
        omega
      · by_cases hended : e = .ended
        · rw [hended, outstanding_ended]
          omega
        · rw [outstanding_append h (by simpa using ⟨hasked, hended⟩)]
          exact hle

/-- Nothing is asked for. -/
theorem Disciplined.append {held₀ : List (List β)} {h τ : List (Move β)}
    (hd : Disciplined held₀ h) (hτ : .asked ∉ τ) : Disciplined held₀ (h ++ τ) := by
  refine along_append.mpr ⟨hd, along_iff.mpr fun τ₁ e τ₂ hs hasked => ?_⟩
  subst hasked
  exact absurd (by rw [hs]; simp) hτ

/-- Something is asked for when nothing is outstanding and nothing held. -/
theorem Disciplined.ask {held₀ : List (List β)} {h : List (Move β)}
    (hd : Disciplined held₀ h) (hout : outstanding h = 0) (ha : Accounts held₀ [] h) :
    Disciplined held₀ (h ++ [.asked]) :=
  along_append.mpr ⟨hd, along_singleton.mpr fun _ => ⟨hout, ha⟩⟩

/-! ## Requests and their responses -/

/-- Every request that is awaited and every item that is taken over has been asked for in
these moves, or, when `p` holds, before them. -/
def Owned (p : Prop) (τ : List (Move β)) : Prop :=
  Along (fun before e => e.isResponse = true → p ∨ .asked ∈ before) [] τ

namespace Owned

variable {p q : Prop} {τ₁ τ₂ : List (Move β)}

theorem nil (p : Prop) : Owned p ([] : List (Move β)) := trivial

theorem append (h₁ : Owned p τ₁) (h₂ : Owned q τ₂) (hq : q → p ∨ .asked ∈ τ₁) :
    Owned p (τ₁ ++ τ₂) := by
  refine along_append.mpr ⟨h₁, along_iff.mpr fun τ e τ' hs hresponse => ?_⟩
  rcases along_iff.mp h₂ τ e τ' hs hresponse with hq' | hasked
  · exact (hq hq').imp_right fun h => List.mem_append_left τ (List.mem_append_right [] h)
  · exact .inr (List.mem_append_right _ hasked)

/-- Moves before which the request is known to have been made. -/
theorem of_true (hp : p) (τ : List (Move β)) : Owned p τ :=
  along_iff.mpr fun _ _ _ _ _ => .inl hp

/-- Whatever follows a request. -/
theorem of_asked (p : Prop) (τ : List (Move β)) : Owned p (.asked :: τ) := by
  refine along_iff.mpr fun τ₁ e τ₂ hs hresponse => ?_
  cases τ₁ with
  | nil =>
      cases hs
      cases hresponse
  | cons m τ₁ =>
      cases hs
      exact .inr (by simp)

/-- Moves that are no responses. -/
theorem of_none (hτ : ∀ e ∈ τ₁, e.isResponse = false) : Owned p τ₁ := by
  refine along_iff.mpr fun τ e τ' hs hresponse => ?_
  have he : e.isResponse = false := hτ e (by rw [hs]; simp)
  exact absurd hresponse (by simp [he])

end Owned

end TapCfg.Foundation
