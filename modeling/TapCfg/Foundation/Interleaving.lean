/-
  Foundation/Interleaving.lean --- activities that interleave over a shared state.

  An activity runs section by section: a section is what it does while it holds
  a lock, or one access that nothing can divide.  Between two sections of one
  activity any number of sections of others may fall, and activities begin and
  end at any time.

  The rules speak of one section at a time.  An activity that holds resources
  must say what becomes of them (`Section.accounts`); work that is left must be
  left to an activity that will see it (`Covered`).
-/
import Mathlib.Algebra.BigOperators.Group.Multiset.Basic

set_option autoImplicit false

namespace TapCfg.Foundation

variable {σ κ τ : Type}

/-- A shared state, and the activities in progress. -/
structure Pool (σ κ : Type) where
  shared : σ
  active : Multiset κ

/-- The activity there is, if there is one. -/
def started (k : Option κ) : Multiset κ := k.toList

@[simp] theorem started_none : started (none : Option κ) = 0 := rfl

@[simp] theorem started_some (k : κ) : started (some k) = {k} := rfl

theorem mem_started {k : Option κ} {j : κ} : j ∈ started k ↔ k = some j := by
  cases k with
  | none => simp
  | some k => simp [eq_comm]

/-- One section: something happens outside and may begin an activity, or an activity goes on. -/
inductive Section (begins : σ → σ → Option κ → Prop) (goes : κ → σ → σ → Option κ → Prop) :
    Pool σ κ → Pool σ κ → Prop where
  | spawn {s s' : σ} {k : Option κ} {R : Multiset κ} (h : begins s s' k) :
      Section begins goes ⟨s, R⟩ ⟨s', started k + R⟩
  | advance {s s' : σ} {k : κ} {k' : Option κ} {R : Multiset κ} (h : goes k s s' k') :
      Section begins goes ⟨s, k ::ₘ R⟩ ⟨s', started k' + R⟩

/-- A pool with its state seen through `f`. -/
def Pool.map {ρ : Type} (f : σ → ρ) (p : Pool σ κ) : Pool ρ κ := ⟨f p.shared, p.active⟩

section

variable {ρ : Type} {begins : σ → σ → Option κ → Prop} {goes : κ → σ → σ → Option κ → Prop}
  {begins' : ρ → ρ → Option κ → Prop} {goes' : κ → ρ → ρ → Option κ → Prop}

/-- Sections that agree, seen through `f`, agree in every pool. -/
theorem Section.map {f : σ → ρ} (hbegins : ∀ s s' k, begins s s' k → begins' (f s) (f s') k)
    (hgoes : ∀ k s s' k', goes k s s' k' → goes' k (f s) (f s') k') {p p' : Pool σ κ}
    (h : Section begins goes p p') : Section begins' goes' (p.map f) (p'.map f) := by
  cases h with
  | spawn hb => exact .spawn (hbegins _ _ _ hb)
  | advance hg => exact .advance (hgoes _ _ _ _ hg)

end

/-! ## Assertions -/

/-- What holds of the state, and what every activity in progress may rely on. -/
structure Asserts (I : σ → Prop) (A : σ → κ → Prop) (p : Pool σ κ) : Prop where
  shared : I p.shared
  each : ∀ k ∈ p.active, A p.shared k

section

variable {begins : σ → σ → Option κ → Prop} {goes : κ → σ → σ → Option κ → Prop}
  {I : σ → Prop} {A : σ → κ → Prop} {s s' : σ} {R : Multiset κ}

theorem Asserts.spawn {k : Option κ} (h : Asserts I A ⟨s, R⟩) (hshared : I s')
    (hnew : ∀ j, k = some j → A s' j) (hothers : ∀ j ∈ R, A s j → A s' j) :
    Asserts I A ⟨s', started k + R⟩ := by
  refine ⟨hshared, fun j hj => ?_⟩
  rcases Multiset.mem_add.mp hj with hj | hj
  · exact hnew j (mem_started.mp hj)
  · exact hothers j hj (h.each j hj)

theorem Asserts.advance {k : κ} {k' : Option κ} (h : Asserts I A ⟨s, k ::ₘ R⟩) (hshared : I s')
    (hnext : ∀ j, k' = some j → A s' j) (hothers : ∀ j ∈ R, A s j → A s' j) :
    Asserts I A ⟨s', started k' + R⟩ := by
  refine ⟨hshared, fun j hj => ?_⟩
  rcases Multiset.mem_add.mp hj with hj | hj
  · exact hnext j (mem_started.mp hj)
  · exact hothers j hj (h.each j (Multiset.mem_cons_of_mem hj))

theorem Asserts.head {k : κ} (h : Asserts I A ⟨s, k ::ₘ R⟩) : A s k :=
  h.each k (Multiset.mem_cons_self k R)

end

/-! ## Resources -/

/-- What the activities hold. -/
def holdings (held : κ → Multiset τ) (A : Multiset κ) : Multiset τ := (A.map held).sum

section

variable (held : κ → Multiset τ)

@[simp] theorem holdings_zero : holdings held 0 = 0 := rfl

@[simp] theorem holdings_cons (k : κ) (A : Multiset κ) :
    holdings held (k ::ₘ A) = held k + holdings held A := by
  simp [holdings]

@[simp] theorem holdings_add (A B : Multiset κ) :
    holdings held (A + B) = holdings held A + holdings held B := by
  simp [holdings]

@[simp] theorem holdings_singleton (k : κ) : holdings held {k} = held k := by
  simp [holdings]

end

variable {begins : σ → σ → Option κ → Prop} {goes : κ → σ → σ → Option κ → Prop}

/-- What a state and the resources held outside it must agree on is kept, when every section
keeps it whatever the others hold. -/
theorem Section.accounts {held : κ → Multiset τ} {P : σ → Multiset τ → Prop}
    (hspawn : ∀ s s' k R, P s R → begins s s' k → P s' (holdings held (started k) + R))
    (hadvance : ∀ s s' k k' R, P s (held k + R) → goes k s s' k' →
      P s' (holdings held (started k') + R))
    {p p' : Pool σ κ} (h : P p.shared (holdings held p.active)) (hs : Section begins goes p p') :
    P p'.shared (holdings held p'.active) := by
  cases hs with
  | spawn hb =>
      rw [holdings_add]
      exact hspawn _ _ _ _ h hb
  | advance hg =>
      rw [holdings_add]
      rw [holdings_cons] at h
      exact hadvance _ _ _ _ _ h hg

/-! ## Work -/

/-- Whatever there is to do, an activity will see to it. -/
def Covered (todo : σ → Prop) (cover : κ → Prop) (p : Pool σ κ) : Prop :=
  todo p.shared → ∃ k ∈ p.active, cover k

section

variable {todo : σ → Prop} {cover : κ → Prop} {s s' : σ} {R : Multiset κ}

/-- What happens outside leaves nothing to do that was not there, or begins an activity. -/
theorem Covered.spawn {k : Option κ} (h : Covered todo cover ⟨s, R⟩)
    (hstep : todo s' → todo s ∨ ∃ j, k = some j ∧ cover j) :
    Covered todo cover ⟨s', started k + R⟩ := by
  intro htodo
  rcases hstep htodo with hold | ⟨j, hj, hcover⟩
  · obtain ⟨j, hj, hcover⟩ := h hold
    exact ⟨j, Multiset.mem_add.mpr (.inr hj), hcover⟩
  · exact ⟨j, Multiset.mem_add.mpr (.inl (mem_started.mpr hj)), hcover⟩

/-- An activity goes on seeing to what there is to do, or another one does. -/
theorem Covered.advance {k : κ} {k' : Option κ} (h : Covered todo cover ⟨s, k ::ₘ R⟩)
    (hstep : todo s' → (todo s ∧ ¬ cover k) ∨ ∃ j, k' = some j ∧ cover j) :
    Covered todo cover ⟨s', started k' + R⟩ := by
  intro htodo
  rcases hstep htodo with ⟨hold, hnot⟩ | ⟨j, hj, hcover⟩
  · obtain ⟨j, hj, hcover⟩ := h hold
    rcases Multiset.mem_cons.mp hj with rfl | hj
    · exact absurd hcover hnot
    · exact ⟨j, Multiset.mem_add.mpr (.inr hj), hcover⟩
  · exact ⟨j, Multiset.mem_add.mpr (.inl (mem_started.mpr hj)), hcover⟩

end

end TapCfg.Foundation
