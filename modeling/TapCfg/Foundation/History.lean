/-
  Foundation/History.lean --- histories of events.

  A history is the list of everything that happened, oldest first.  `Along`
  says that each event of a list was admissible in the history before it;
  `since` forgets everything up to the last event of one kind.
-/
import Mathlib.Data.List.Induction

set_option autoImplicit false

namespace TapCfg.Foundation

variable {E : Type}

/-- Each event of the list is admissible after the history before it. -/
def Along (P : List E → E → Prop) : List E → List E → Prop
  | _, [] => True
  | h, e :: τ => P h e ∧ Along P (h ++ [e]) τ

@[simp] theorem along_nil (P : List E → E → Prop) (h : List E) : Along P h [] := trivial

@[simp] theorem along_singleton {P : List E → E → Prop} {h : List E} {e : E} :
    Along P h [e] ↔ P h e := by
  simp [Along]

theorem along_append {P : List E → E → Prop} {h τ ρ : List E} :
    Along P h (τ ++ ρ) ↔ Along P h τ ∧ Along P (h ++ τ) ρ := by
  induction τ generalizing h with
  | nil => simp
  | cons e τ ih => simp [Along, ih, and_assoc]

/-- `Along` is a condition on each event and the history before it. -/
theorem along_iff {P : List E → E → Prop} {h τ : List E} :
    Along P h τ ↔ ∀ τ₁ e τ₂, τ = τ₁ ++ e :: τ₂ → P (h ++ τ₁) e := by
  induction τ generalizing h with
  | nil => simp
  | cons a τ ih =>
      rw [Along, ih]
      constructor
      · rintro ⟨ha, hτ⟩ τ₁ e τ₂ hs
        cases τ₁ with
        | nil =>
            cases hs
            simpa using ha
        | cons b τ₁ =>
            cases hs
            simpa using hτ τ₁ e τ₂ rfl
      · intro hall
        refine ⟨by simpa using hall [] a τ rfl, fun τ₁ e τ₂ hs => ?_⟩
        simpa using hall (a :: τ₁) e τ₂ (by rw [hs, List.cons_append])

/-- What holds along a history holds at each of its events. -/
theorem Along.at {P : List E → E → Prop} {h h₁ h₂ : List E} {e : E}
    (ha : Along P [] h) (hs : h = h₁ ++ e :: h₂) : P h₁ e :=
  along_iff.mp ha h₁ e h₂ hs

theorem Along.of_mem {P : List E → E → Prop} {h : List E} {e : E} (ha : Along P [] h)
    (he : e ∈ h) : ∃ h₁, P h₁ e := by
  obtain ⟨h₁, h₂, hs⟩ := List.append_of_mem he
  exact ⟨h₁, ha.at hs⟩

theorem Along.mono {P P' : List E → E → Prop} {h τ : List E} (ha : Along P h τ)
    (hP : ∀ h e, P h e → P' h e) : Along P' h τ := by
  induction τ generalizing h with
  | nil => trivial
  | cons e τ ih => exact ⟨hP h e ha.1, ih ha.2⟩

/-- The events after the last one of a kind (all of them when there is none). -/
def since (mark : E → Bool) (h : List E) : List E :=
  h.foldl (fun acc e => if mark e then [] else acc ++ [e]) []

@[simp] theorem since_nil (mark : E → Bool) : since mark [] = [] := rfl

theorem since_concat (mark : E → Bool) (h : List E) (e : E) :
    since mark (h ++ [e]) = if mark e then [] else since mark h ++ [e] := by
  simp [since]

theorem since_suffix (mark : E → Bool) (h : List E) : since mark h <:+ h := by
  induction h using List.reverseRecOn with
  | nil => exact List.suffix_refl []
  | append_singleton h a ih =>
      rw [since_concat]
      split
      · exact List.nil_suffix
      · obtain ⟨before, hbefore⟩ := ih
        exact ⟨before, by rw [← List.append_assoc, hbefore]⟩

theorem since_append_of_not_mem {mark : E → Bool} {τ : List E} (h : List E)
    (hτ : ∀ e ∈ τ, mark e = false) : since mark (h ++ τ) = since mark h ++ τ := by
  induction τ using List.reverseRecOn with
  | nil => simp
  | append_singleton τ e ih =>
      have he : mark e = false := hτ e (by simp)
      have hτ' : ∀ e ∈ τ, mark e = false := fun e h => hτ e (by simp [h])
      rw [← List.append_assoc, since_concat, he, ih hτ']
      simp

/-- What the events of a history tell, of one kind of thing. -/
def collect {α : Type} (f : E → Option α) (h : List E) : List α := h.filterMap f

section

variable {α : Type} (f : E → Option α)

@[simp] theorem collect_nil : collect f [] = [] := rfl

@[simp] theorem collect_append (h τ : List E) :
    collect f (h ++ τ) = collect f h ++ collect f τ :=
  List.filterMap_append

@[simp] theorem collect_cons (e : E) (τ : List E) :
    collect f (e :: τ) = (f e).toList ++ collect f τ := by
  cases h : f e <;> simp [collect, h]

theorem collect_grows {h h' : List E} (hp : h <+: h') : collect f h <+: collect f h' := by
  obtain ⟨τ, rfl⟩ := hp
  exact ⟨collect f τ, (collect_append f h τ).symm⟩

end

end TapCfg.Foundation
