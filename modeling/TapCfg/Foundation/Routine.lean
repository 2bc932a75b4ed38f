/-
  Foundation/Routine.lean --- the functions of an interface, and the calls that
  are refused before anything is asked of the system.

  The functions of a library may be programs over states of their own: one looks
  at a part of the object only, another at the object and a device.  A `Routine`
  is such a function together with how it gets its state from the object and
  gives it back, and with what its calls are answered.

  `settle` runs a program up to its first call.  A program that settles has asked
  for nothing, and ends the same way in every environment.
-/
import TapCfg.Foundation.Interactive

set_option autoImplicit false

namespace TapCfg.Foundation

/-! ## Programs that ask for nothing -/

namespace Prog

variable {σ C : Type} {A : C → Type} {ε α β : Type}

/-- The result and the state of a program that returns without a call. -/
def settle : Prog σ C A ε α → σ → Option (α × σ)
  | .ret a, w => some (a, w)
  | .fault _, _ => none
  | .atomic f k, w =>
      match f w with
      | .ok w' => (k w').settle w'
      | .error _ => none
  | .call _ _, _ => none

section

variable {env : Env σ C A} {p : Prog σ C A ε α} {w w' : σ} {a : α}

@[simp] theorem settle_ret (a : α) (w : σ) :
    (Prog.ret a : Prog σ C A ε α).settle w = some (a, w) := rfl

/-- A function that looks at the state first. -/
theorem settle_load (k : σ → Prog σ C A ε α) (w : σ) :
    ((load : Prog σ C A ε σ).bind k).settle w = (k w).settle w := rfl

/-- A function that looks at the state first and returns at once. -/
theorem settle_guard {c : σ → Prop} [DecidablePred c] {rest : σ → Prog σ C A ε α}
    (hp : p = (load : Prog σ C A ε σ).bind fun w => if c w then .ret a else rest w) (h : c w) :
    p.settle w = some (a, w) := by
  rw [hp, settle_load, if_pos h, settle_ret]

/-- A program that settles ends so in any environment. -/
theorem reaches_of_settle (h : p.settle w = some (a, w')) : Reaches env (p, w) (.ret a, w') := by
  induction p generalizing w with
  | ret b =>
      cases h
      exact .refl
  | fault e => cases h
  | atomic f k ih =>
      simp only [settle] at h
      cases hf : f w with
      | ok v =>
          rw [hf] at h
          exact .head (.atomic hf) (ih v h)
      | error e =>
          rw [hf] at h
          cases h
  | call c k ih => cases h

/-- And it ends in no other way. -/
theorem sat_of_settle {F : ε → σ → Prop} (h : p.settle w = some (a, w')) :
    Sat env (fun _ => True) (fun b v => b = a ∧ v = w') F p w := by
  induction p generalizing w with
  | ret b =>
      cases h
      exact ⟨trivial, rfl, rfl⟩
  | fault e => cases h
  | atomic f k ih =>
      simp only [settle] at h
      cases hf : f w with
      | ok v =>
          rw [hf] at h
          refine ⟨trivial, fun v' hv => ?_, fun e he => ?_⟩
          · rw [hf] at hv
            cases hv
            exact ih v h
          · rw [hf] at he
            cases he
      | error e =>
          rw [hf] at h
          cases h
  | call c k ih => cases h

end

/-- The program only looks at the state, and makes calls. -/
abbrev Looks (p : Prog σ C A ε α) : Prop := Uses (· = .ok) (fun _ => True) p

theorem looks_load : Looks (load : Prog σ C A ε σ) := uses_load (P := (· = .ok)) rfl

theorem looks_call (c : C) : Looks (.call c .ret : Prog σ C A ε (A c)) := uses_call trivial

end Prog

open Prog

/-! ## Routines -/

/-- A function of an interface: a program over states of its own. -/
structure Routine (Obj Res : Type) where
  {State Ask : Type}
  {Ans : Ask → Type}
  {Fault Ret : Type}
  env : Env State Ask Ans
  enter : Obj → State
  leave : Obj → State → Obj
  result : Ret → Res
  prog : Prog State Ask Ans Fault Ret

namespace Routine

variable {Obj Res : Type} {p : Routine Obj Res} {s s' : Obj} {r : Res}

/-- What the function returns and leaves, when it asks for nothing. -/
def attempt (p : Routine Obj Res) (s : Obj) : Option (Res × Obj) :=
  (p.prog.settle (p.enter s)).map fun ended => (p.result ended.1, p.leave s ended.2)

/-- A call of the function that returns. -/
def Performs (p : Routine Obj Res) (s : Obj) (r : Res) (s' : Obj) : Prop :=
  ∃ a t, Reaches p.env (p.prog, p.enter s) (.ret a, t) ∧ r = p.result a ∧ s' = p.leave s t

/-- What every run of the program satisfies, every call does. -/
theorem Performs.of_sat {Q : p.Ret → p.State → Prop} {F : p.Fault → p.State → Prop}
    (h : p.Performs s r s')
    (hsat : Sat p.env (fun _ => True) Q F p.prog (p.enter s)) :
    ∃ a t, Q a t ∧ r = p.result a ∧ s' = p.leave s t := by
  obtain ⟨a, t, hr, hres, hleave⟩ := h
  exact ⟨a, t, (hsat.reaches hr).2, hres, hleave⟩

/-- What every access and every call of the program keeps, every call of the function does. -/
theorem Performs.kept {P : (p.State → Except p.Fault p.State) → Prop} {R : p.Ask → Prop}
    {I : p.State → Prop} (h : p.Performs s r s') (huses : Uses P R p.prog)
    (hP : ∀ f, P f → ∀ t t', I t → f t = .ok t' → I t')
    (hR : ∀ c, R c → ∀ t a t', I t → p.env t c a t' → I t') (hI : I (p.enter s)) :
    ∃ t, I t ∧ s' = p.leave s t := by
  have hsat : Sat p.env (fun _ => True) (fun _ => I) (fun _ _ => True) p.prog (p.enter s) :=
    (sat_of_kept huses hP hR hI).mono (fun _ _ => trivial) (fun _ _ _ hQ => hQ)
      (fun _ _ _ hF => hF)
  obtain ⟨-, t, ht, -, hleave⟩ := h.of_sat hsat
  exact ⟨t, ht, hleave⟩

/-- What every call of a program that only looks at its state keeps. -/
theorem Performs.looked {I : p.State → Prop} (h : p.Performs s r s') (hp : Looks p.prog)
    (henv : ∀ t c a t', I t → p.env t c a t' → I t') (hI : I (p.enter s)) :
    ∃ t, I t ∧ s' = p.leave s t := by
  refine h.kept hp (fun f hf t t' ht htt' => ?_) (fun c _ => fun t => henv t c) hI
  subst hf
  cases htt'
  exact ht

/-- A part of the state that no call changes is not changed by a program that only looks. -/
theorem Performs.unmoved {V : Type} (h : p.Performs s r s') (view : p.State → V)
    (hp : Looks p.prog) (henv : ∀ t c a t', p.env t c a t' → view t' = view t) :
    ∃ t, view t = view (p.enter s) ∧ s' = p.leave s t :=
  h.looked hp (fun t c a t' ht htt' => (henv t c a t' htt').trans ht) rfl

theorem attempt_eq {a : p.Ret} {t : p.State} (h : p.prog.settle (p.enter s) = some (a, t)) :
    p.attempt s = some (p.result a, p.leave s t) := by
  rw [attempt, h, Option.map_some]

theorem performs_of_attempt (h : p.attempt s = some (r, s')) : p.Performs s r s' := by
  obtain ⟨⟨a, t⟩, hsettle, hended⟩ := Option.map_eq_some_iff.mp h
  cases hended
  exact ⟨a, t, reaches_of_settle hsettle, rfl, rfl⟩

theorem Performs.of_attempt {r₀ : Res} {s₀ : Obj} (h : p.Performs s r s')
    (hattempt : p.attempt s = some (r₀, s₀)) : r = r₀ ∧ s' = s₀ := by
  obtain ⟨⟨a₀, t₀⟩, hsettle, hended⟩ := Option.map_eq_some_iff.mp hattempt
  cases hended
  obtain ⟨a, t, ⟨rfl, rfl⟩, rfl, rfl⟩ := h.of_sat (sat_of_settle (F := fun _ _ => True) hsettle)
  exact ⟨rfl, rfl⟩

/-- The function fails as is documented: it asks for nothing, its result is one of those that
say so, and the fields of the object are as they were. -/
structure Refuses {Fields : Type} (p : Routine Obj Res) (documented : Res → Prop)
    (fields : Obj → Fields) (s : Obj) : Prop where
  quiet : p.attempt s ≠ none
  told : ∀ r s', p.Performs s r s' → documented r
  unchanged : ∀ r s', p.Performs s r s' → fields s' = fields s

/-- What a function that asks for nothing returns decides whether it fails. -/
theorem refuses_iff {Fields : Type} {documented : Res → Prop} {fields : Obj → Fields}
    (h : p.attempt s = some (r, s')) :
    p.Refuses documented fields s ↔ documented r ∧ fields s' = fields s := by
  have hperforms := performs_of_attempt h
  constructor
  · exact fun hrefuses => ⟨hrefuses.told r s' hperforms, hrefuses.unchanged r s' hperforms⟩
  · rintro ⟨htold, hsame⟩
    refine ⟨by simp [h], fun r' s'' hp => ?_, fun r' s'' hp => ?_⟩
    · rwa [(hp.of_attempt h).1]
    · rwa [(hp.of_attempt h).2]

end Routine

end TapCfg.Foundation
