/-
  Foundation/Interactive.lean --- programs that talk to an environment.

  A `Prog` is a program text in which every access to a shared state and every
  call to the outside is visible.  Nothing here knows which state, which calls
  or which faults: a development instantiates them.

  Three readings of one program are given:

      Prog.Step    one access or one call (small steps, any interleaving)
      Prog.Sat     what every run of the program satisfies (a program logic)
      Prog.run     the run against one deterministic environment (executable)

  `Sat` carries an assertion `I` for every intermediate state as well as the
  usual postcondition, so that "at every moment" statements need no second
  proof.  `Sat.reaches` and `Sat.run` tie the three readings together.

  `Prog.runAgainst` is the run of a program and of a server that answers its calls
  out of a state of its own.
-/
import Mathlib.Logic.Relation

set_option autoImplicit false

namespace TapCfg.Foundation

/-- A program over a shared state `σ` that makes calls `C`, answered in `A`,
and may stop with a fault in `ε`. -/
inductive Prog (σ C : Type) (A : C → Type) (ε α : Type) : Type where
  /-- The program has returned. -/
  | ret (a : α)
  /-- The program has stopped at a fault. -/
  | fault (e : ε)
  /-- One atomic access to the shared state; the rest sees the state after it. -/
  | atomic (f : σ → Except ε σ) (k : σ → Prog σ C A ε α)
  /-- One call to the environment; the rest sees the answer. -/
  | call (c : C) (k : A c → Prog σ C A ε α)

/-- An environment: in state `w` the call `c` may answer `a` and leave `w'`. -/
abbrev Env (σ C : Type) (A : C → Type) : Type := σ → (c : C) → A c → σ → Prop

/-- A deterministic environment: the one answer it gives, and the state after. -/
abbrev Responder (σ C : Type) (A : C → Type) : Type := σ → (c : C) → A c × σ

/-- An environment with a state of its own, which the program does not share; `none` where
a call does not come back. -/
abbrev Server (W C : Type) (A : C → Type) : Type := W → (c : C) → Option (A c × W)

namespace Prog

variable {σ C : Type} {A : C → Type} {ε α β : Type}

/-- Sequential composition; a fault ends the whole. -/
def bind : Prog σ C A ε α → (α → Prog σ C A ε β) → Prog σ C A ε β
  | .ret a, g => g a
  | .fault e, _ => .fault e
  | .atomic f k, g => .atomic f fun w => (k w).bind g
  | .call c k, g => .call c fun a => (k a).bind g

instance : Monad (Prog σ C A ε) where
  pure := .ret
  bind := bind

@[simp] theorem pure_eq_ret (a : α) : (pure a : Prog σ C A ε α) = .ret a := rfl

@[simp] theorem bind_eq_bind (p : Prog σ C A ε α) (g : α → Prog σ C A ε β) :
    p >>= g = p.bind g := rfl

@[simp] theorem ret_bind (a : α) (g : α → Prog σ C A ε β) :
    (Prog.ret a : Prog σ C A ε α).bind g = g a := rfl

@[simp] theorem fault_bind (e : ε) (g : α → Prog σ C A ε β) :
    (Prog.fault e : Prog σ C A ε α).bind g = .fault e := rfl

theorem bind_assoc {γ : Type} (p : Prog σ C A ε α) (g : α → Prog σ C A ε β)
    (h : β → Prog σ C A ε γ) : (p.bind g).bind h = p.bind fun a => (g a).bind h := by
  induction p with
  | ret a => rfl
  | fault e => rfl
  | atomic f k ih => exact congrArg (Prog.atomic f) (funext ih)
  | call c k ih => exact congrArg (Prog.call c) (funext ih)

/-- Read the shared state. -/
def load : Prog σ C A ε σ := .atomic .ok .ret

/-- Change the shared state, or fault. -/
def update (f : σ → Except ε σ) : Prog σ C A ε Unit := .atomic f fun _ => .ret ()

/-! ## Small steps -/

/-- One step of a program in a state. -/
inductive Step (env : Env σ C A) : Prog σ C A ε α × σ → Prog σ C A ε α × σ → Prop where
  | atomic {f : σ → Except ε σ} {k : σ → Prog σ C A ε α} {w w' : σ} (h : f w = .ok w') :
      Step env (.atomic f k, w) (k w', w')
  | abort {f : σ → Except ε σ} {k : σ → Prog σ C A ε α} {w : σ} {e : ε} (h : f w = .error e) :
      Step env (.atomic f k, w) (.fault e, w)
  | call {c : C} {k : A c → Prog σ C A ε α} {w w' : σ} {a : A c} (h : env w c a w') :
      Step env (.call c k, w) (k a, w')

/-- Any number of steps. -/
abbrev Reaches (env : Env σ C A) : Prog σ C A ε α × σ → Prog σ C A ε α × σ → Prop :=
  Relation.ReflTransGen (Step env)

/-- A step of the first part is a step of the whole. -/
theorem Step.bind {env : Env σ C A} {p p' : Prog σ C A ε α} {w w' : σ}
    (h : Step env (p, w) (p', w')) (g : α → Prog σ C A ε β) :
    Step env (p.bind g, w) (p'.bind g, w') := by
  cases h with
  | atomic h => exact .atomic h
  | abort h => exact .abort h
  | call h => exact .call h

theorem Reaches.bind {env : Env σ C A} {c c' : Prog σ C A ε α × σ} (h : Reaches env c c')
    (g : α → Prog σ C A ε β) : Reaches env (c.1.bind g, c.2) (c'.1.bind g, c'.2) := by
  induction h with
  | refl => exact .refl
  | tail _ hs ih => exact ih.tail (hs.bind g)

section

variable {env : Env σ C A} {c' : Prog σ C A ε β × σ} {w w' : σ}

/-- A run that begins by reading the shared state. -/
theorem reaches_load_bind {k : σ → Prog σ C A ε β} (h : Reaches env (k w, w) c') :
    Reaches env (load.bind k, w) c' := .head (.atomic rfl) h

/-- A run that begins by changing the shared state. -/
theorem reaches_update_bind {f : σ → Except ε σ} {k : Unit → Prog σ C A ε β} (hf : f w = .ok w')
    (h : Reaches env (k (), w') c') : Reaches env ((update f).bind k, w) c' := .head (.atomic hf) h

/-- A run that begins with a call. -/
theorem reaches_call_bind {c : C} {a : A c} {k : A c → Prog σ C A ε β} (he : env w c a w')
    (h : Reaches env (k a, w') c') :
    Reaches env ((Prog.call c .ret : Prog σ C A ε (A c)).bind k, w) c' := .head (.call he) h

end

/-! ## The program logic -/

/-- Every run of the program from `w` has `I` in each state it passes, ends in
`Q` when it returns and in `F` when it stops at a fault. -/
def Sat (env : Env σ C A) (I : σ → Prop) (Q : α → σ → Prop) (F : ε → σ → Prop) :
    Prog σ C A ε α → σ → Prop
  | .ret a, w => I w ∧ Q a w
  | .fault e, w => I w ∧ F e w
  | .atomic f k, w =>
      I w ∧ (∀ w', f w = .ok w' → Sat env I Q F (k w') w') ∧ ∀ e, f w = .error e → F e w
  | .call c k, w => I w ∧ ∀ a w', env w c a w' → Sat env I Q F (k a) w'

variable {env : Env σ C A} {I I' : σ → Prop} {Q Q' : α → σ → Prop} {F F' : ε → σ → Prop}

/-- The assertion holds in the state the program stands in. -/
theorem Sat.holds {p : Prog σ C A ε α} {w : σ} (h : Sat env I Q F p w) : I w := by
  cases p with
  | ret a => exact h.1
  | fault e => exact h.1
  | atomic f k => exact h.1
  | call c k => exact h.1

theorem sat_ret {a : α} {w : σ} (hI : I w) (hQ : Q a w) :
    Sat env I Q F (.ret a) w := ⟨hI, hQ⟩

theorem sat_fault {e : ε} {w : σ} (hI : I w) (hF : F e w) :
    Sat env I Q F (.fault e : Prog σ C A ε α) w := ⟨hI, hF⟩

/-- The rule for reading the shared state. -/
theorem sat_load {Q : σ → σ → Prop} {w : σ} (hI : I w) (hQ : Q w w) :
    Sat env I Q F (load : Prog σ C A ε σ) w := by
  refine ⟨hI, fun w' hw => ?_, fun e he => by cases he⟩
  cases hw
  exact ⟨hI, hQ⟩

/-- The rule for an access that succeeds. -/
theorem sat_update {Q : Unit → σ → Prop} {f : σ → Except ε σ} {w w' : σ}
    (hf : f w = .ok w') (hI : I w) (hI' : I w') (hQ : Q () w') :
    Sat env I Q F (update f : Prog σ C A ε Unit) w := by
  refine ⟨hI, fun v hv => ?_, fun e he => ?_⟩
  · rw [hf] at hv
    cases hv
    exact ⟨hI', hQ⟩
  · rw [hf] at he
    cases he

/-- The rule for an access that faults. -/
theorem sat_update_fault {Q : Unit → σ → Prop} {f : σ → Except ε σ} {w : σ} {e : ε}
    (hf : f w = .error e) (hI : I w) (hF : F e w) :
    Sat env I Q F (update f : Prog σ C A ε Unit) w := by
  refine ⟨hI, fun v hv => ?_, fun e' he => ?_⟩
  · rw [hf] at hv
    cases hv
  · rw [hf] at he
    cases he
    exact hF

/-- The rule for sequential composition. -/
theorem sat_bind {p : Prog σ C A ε α} {g : α → Prog σ C A ε β} {Q : β → σ → Prop} {w : σ}
    (h : Sat env I (fun a w' => Sat env I Q F (g a) w') F p w) :
    Sat env I Q F (p.bind g) w := by
  induction p generalizing w with
  | ret a => exact h.2
  | fault e => exact h
  | atomic f k ih => exact ⟨h.1, fun w' hw => ih w' (h.2.1 w' hw), h.2.2⟩
  | call c k ih => exact ⟨h.1, fun a w' hw => ih a (h.2 a w' hw)⟩

/-- The rule of consequence. -/
theorem Sat.mono {p : Prog σ C A ε α} {w : σ} (h : Sat env I Q F p w)
    (hI : ∀ w, I w → I' w) (hQ : ∀ a w, I w → Q a w → Q' a w)
    (hF : ∀ e w, I w → F e w → F' e w) :
    Sat env I' Q' F' p w := by
  induction p generalizing w with
  | ret a => exact ⟨hI w h.1, hQ a w h.1 h.2⟩
  | fault e => exact ⟨hI w h.1, hF e w h.1 h.2⟩
  | atomic f k ih =>
      exact ⟨hI w h.1, fun w' hw => ih w' (h.2.1 w' hw), fun e he => hF e w h.1 (h.2.2 e he)⟩
  | call c k ih => exact ⟨hI w h.1, fun a w' hw => ih a (h.2 a w' hw)⟩

theorem Sat.post {p : Prog σ C A ε α} {w : σ} (h : Sat env I Q F p w)
    (hQ : ∀ a w, Q a w → Q' a w) : Sat env I Q' F p w :=
  h.mono (fun _ hI => hI) (fun a w _ => hQ a w) (fun _ _ _ hF => hF)

/-- The rule of conjunction. -/
theorem Sat.and {p : Prog σ C A ε α} {w : σ} (h : Sat env I Q F p w)
    (h' : Sat env I' Q' F' p w) :
    Sat env (fun w => I w ∧ I' w) (fun a w => Q a w ∧ Q' a w) (fun e w => F e w ∧ F' e w) p w := by
  induction p generalizing w with
  | ret a => exact ⟨⟨h.1, h'.1⟩, h.2, h'.2⟩
  | fault e => exact ⟨⟨h.1, h'.1⟩, h.2, h'.2⟩
  | atomic f k ih =>
      exact ⟨⟨h.1, h'.1⟩, fun w' hw => ih w' (h.2.1 w' hw) (h'.2.1 w' hw),
        fun e he => ⟨h.2.2 e he, h'.2.2 e he⟩⟩
  | call c k ih => exact ⟨⟨h.1, h'.1⟩, fun a w' hw => ih a (h.2 a w' hw) (h'.2 a w' hw)⟩

/-- The rule for sequential composition, the first part by its specification. -/
theorem sat_seq {p : Prog σ C A ε α} {g : α → Prog σ C A ε β} {Q' : β → σ → Prop} {w : σ}
    (h : Sat env I Q F p w) (hg : ∀ a w', Q a w' → Sat env I Q' F (g a) w') :
    Sat env I Q' F (p.bind g) w := sat_bind (h.post hg)

/-- A step keeps what every run satisfies. -/
theorem Sat.step {p p' : Prog σ C A ε α} {w w' : σ} (h : Sat env I Q F p w)
    (hs : Step env (p, w) (p', w')) : Sat env I Q F p' w' := by
  cases hs with
  | atomic hf => exact h.2.1 _ hf
  | abort hf => exact ⟨h.1, h.2.2 _ hf⟩
  | call he => exact h.2 _ _ he

/-- Whatever part of a run has been made, the rest still satisfies it. -/
theorem Sat.reaches {c c' : Prog σ C A ε α × σ} (h : Sat env I Q F c.1 c.2)
    (hr : Reaches env c c') : Sat env I Q F c'.1 c'.2 := by
  induction hr with
  | refl => exact h
  | tail _ hs ih => exact ih.step hs

/-- In an environment that always answers, a program that stops at no fault returns. -/
theorem Sat.returns {p : Prog σ C A ε α} {w : σ} (h : Sat env I Q (fun _ _ => False) p w)
    (htotal : ∀ w c, ∃ a w', env w c a w') : ∃ a w', Reaches env (p, w) (.ret a, w') ∧ Q a w' := by
  induction p generalizing w with
  | ret a => exact ⟨a, w, .refl, h.2⟩
  | fault e => exact h.2.elim
  | atomic f k ih =>
      cases hf : f w with
      | ok v =>
          obtain ⟨a, w', hr, hq⟩ := ih v (h.2.1 v hf)
          exact ⟨a, w', .head (.atomic hf) hr, hq⟩
      | error e => exact (h.2.2 e hf).elim
  | call c k ih =>
      obtain ⟨a, v, he⟩ := htotal w c
      obtain ⟨b, w', hr, hq⟩ := ih a (h.2 a v he)
      exact ⟨b, w', .head (.call he) hr, hq⟩

/-! ## The accesses of a program -/

/-- Every access the program makes to the shared state is one of `P`. -/
def Accesses (P : (σ → Except ε σ) → Prop) : Prog σ C A ε α → Prop
  | .ret _ => True
  | .fault _ => True
  | .atomic f k => P f ∧ ∀ w, Accesses P (k w)
  | .call _ k => ∀ a, Accesses P (k a)

theorem Accesses.bind {P : (σ → Except ε σ) → Prop} {p : Prog σ C A ε α}
    {g : α → Prog σ C A ε β} (hp : Accesses P p) (hg : ∀ a, Accesses P (g a)) :
    Accesses P (p.bind g) := by
  induction p with
  | ret a => exact hg a
  | fault e => trivial
  | atomic f k ih => exact ⟨hp.1, fun w => ih w (hp.2 w)⟩
  | call c k ih => exact fun a => ih a (hp a)

/-- What one step of such a program can do to the shared state. -/
theorem Accesses.step {P : (σ → Except ε σ) → Prop} {p p' : Prog σ C A ε α} {w w' : σ}
    (hp : Accesses P p) (hs : Step env (p, w) (p', w')) :
    Accesses P p' ∧ (w' = w ∨ (∃ f, P f ∧ f w = .ok w') ∨ ∃ c a, env w c a w') := by
  cases hs with
  | atomic h => exact ⟨hp.2 _, .inr (.inl ⟨_, hp.1, h⟩)⟩
  | abort h => exact ⟨trivial, .inl rfl⟩
  | call h => exact ⟨hp _, .inr (.inr ⟨_, _, h⟩)⟩

/-- Every call the program makes is one of `R`. -/
def Makes (R : C → Prop) : Prog σ C A ε α → Prop
  | .ret _ => True
  | .fault _ => True
  | .atomic _ k => ∀ w, Makes R (k w)
  | .call c k => R c ∧ ∀ a, Makes R (k a)

theorem Makes.bind {R : C → Prop} {p : Prog σ C A ε α} {g : α → Prog σ C A ε β}
    (hp : Makes R p) (hg : ∀ a, Makes R (g a)) : Makes R (p.bind g) := by
  induction p with
  | ret a => exact hg a
  | fault e => trivial
  | atomic f k ih => exact fun w => ih w (hp w)
  | call c k ih => exact ⟨hp.1, fun a => ih a (hp.2 a)⟩

/-- The accesses of the program are of `P`, and its calls of `R`. -/
def Uses (P : (σ → Except ε σ) → Prop) (R : C → Prop) (p : Prog σ C A ε α) : Prop :=
  Accesses P p ∧ Makes R p

section

variable {P P' : (σ → Except ε σ) → Prop} {R R' : C → Prop}

theorem uses_ret (a : α) : Uses P R (.ret a : Prog σ C A ε α) := ⟨trivial, trivial⟩

theorem uses_update {f : σ → Except ε σ} (hf : P f) :
    Uses P R (update f : Prog σ C A ε Unit) := ⟨⟨hf, fun _ => trivial⟩, fun _ => trivial⟩

theorem uses_load (hf : P .ok) : Uses P R (load : Prog σ C A ε σ) :=
  ⟨⟨hf, fun _ => trivial⟩, fun _ => trivial⟩

theorem uses_call {c : C} (hc : R c) : Uses P R (.call c .ret : Prog σ C A ε (A c)) :=
  ⟨fun _ => trivial, hc, fun _ => trivial⟩

theorem Uses.bind {p : Prog σ C A ε α} {g : α → Prog σ C A ε β} (hp : Uses P R p)
    (hg : ∀ a, Uses P R (g a)) : Uses P R (p.bind g) :=
  ⟨hp.1.bind fun a => (hg a).1, hp.2.bind fun a => (hg a).2⟩

/-- An early return. -/
theorem Uses.unless {c : Prop} [Decidable c] {a : α} {p : Prog σ C A ε α} (hp : Uses P R p) :
    Uses P R (if c then .ret a else p) := by
  split
  · exact uses_ret a
  · exact hp

theorem Uses.mono {p : Prog σ C A ε α} (hp : Uses P R p) (hP : ∀ f, P f → P' f)
    (hR : ∀ c, R c → R' c) : Uses P' R' p := by
  induction p with
  | ret a => exact uses_ret a
  | fault e => exact ⟨trivial, trivial⟩
  | atomic f k ih =>
      have hk : ∀ w, Uses P' R' (k w) := fun w => ih w ⟨hp.1.2 w, hp.2 w⟩
      exact ⟨⟨hP f hp.1.1, fun w => (hk w).1⟩, fun w => (hk w).2⟩
  | call c k ih =>
      have hk : ∀ a, Uses P' R' (k a) := fun a => ih a ⟨hp.1 a, hp.2.2 a⟩
      exact ⟨fun a => (hk a).1, hR c hp.2.1, fun a => (hk a).2⟩

end

/-- What every access and every call of a program keeps, every run of it keeps. -/
theorem sat_of_kept {P : (σ → Except ε σ) → Prop} {R : C → Prop} {p : Prog σ C A ε α} {w : σ}
    (huses : Uses P R p)
    (hP : ∀ f, P f → ∀ w w', I w → f w = .ok w' → I w')
    (hR : ∀ c, R c → ∀ w a w', I w → env w c a w' → I w') (hw : I w) :
    Sat env I (fun _ => I) (fun _ _ => True) p w := by
  obtain ⟨haccess, hmakes⟩ := huses
  induction p generalizing w with
  | ret a => exact ⟨hw, hw⟩
  | fault e => exact ⟨hw, trivial⟩
  | atomic f k ih =>
      refine ⟨hw, fun w' hf => ?_, fun _ _ => trivial⟩
      exact ih w' (hP f haccess.1 w w' hw hf) (haccess.2 w') (hmakes w')
  | call c k ih =>
      exact ⟨hw, fun a w' he => ih a (hR c hmakes.1 w a w' hw he) (haccess a) (hmakes.2 a)⟩

/-! ## The calls that are made -/

/-- Some run of the program from `w` makes the call. -/
def Asks (env : Env σ C A) (p : Prog σ C A ε α) (w : σ) (c : C) : Prop :=
  ∃ (k : A c → Prog σ C A ε α) (w' : σ), Reaches env (p, w) (.call c k, w')

section

variable {c c₀ : C} {w : σ}

/-- A program asks only for calls it makes. -/
theorem Makes.asks {env : Env σ C A} {R : C → Prop} {p : Prog σ C A ε α} (hp : Makes R p)
    (h : Asks env p w c) : R c := by
  obtain ⟨k, w', hr⟩ := h
  have hkept : ∀ q : Prog σ C A ε α × σ, Reaches env (p, w) q → Makes R q.1 := by
    intro q hq
    induction hq with
    | refl => exact hp
    | tail _ hs ih =>
        cases hs with
        | atomic hf => exact ih _
        | abort hf => trivial
        | call he => exact ih.2 _
  exact (hkept _ hr).1

/-- A call is made by the first step or after it. -/
theorem asks_iff_step {env : Env σ C A} {p : Prog σ C A ε α} :
    Asks env p w c ↔
      (∃ k, p = .call c k) ∨ ∃ p' w', Step env (p, w) (p', w') ∧ Asks env p' w' c := by
  constructor
  · rintro ⟨k, w', hr⟩
    rcases Relation.ReflTransGen.cases_head hr with heq | ⟨⟨p', v⟩, hs, hr'⟩
    · cases heq
      exact .inl ⟨k, rfl⟩
    · exact .inr ⟨p', v, hs, k, w', hr'⟩
  · rintro (⟨k, rfl⟩ | ⟨p', v, hs, k, w', hr'⟩)
    · exact ⟨k, w, .refl⟩
    · exact ⟨k, w', .head hs hr'⟩

theorem asks_ret {env : Env σ C A} {a : α} : ¬ Asks env (.ret a : Prog σ C A ε α) w c := by
  rw [asks_iff_step]
  rintro (⟨k, hk⟩ | ⟨p', w', hs, -⟩)
  · cases hk
  · cases hs

/-- Reading the shared state makes no call. -/
theorem asks_load_bind {env : Env σ C A} {k : σ → Prog σ C A ε α} :
    Asks env (load.bind k) w c ↔ Asks env (k w) w c := by
  rw [asks_iff_step]
  constructor
  · rintro (⟨k, hk⟩ | ⟨p', w', hs, h⟩)
    · cases hk
    · cases hs with
      | atomic hf =>
          cases hf
          exact h
      | abort hf => cases hf
  · intro h
    exact .inr ⟨_, w, .atomic rfl, h⟩

/-- A call, and what its answer leads to. -/
theorem asks_call {env : Env σ C A} {k : A c₀ → Prog σ C A ε α} :
    Asks env (.call c₀ k) w c ↔ c = c₀ ∨ ∃ a w', env w c₀ a w' ∧ Asks env (k a) w' c := by
  rw [asks_iff_step]
  constructor
  · rintro (⟨k', hk⟩ | ⟨p', w', hs, h⟩)
    · cases hk
      exact .inl rfl
    · cases hs with
      | call he => exact .inr ⟨_, w', he, h⟩
  · rintro (rfl | ⟨a, w', he, h⟩)
    · exact .inl ⟨k, rfl⟩
    · exact .inr ⟨k a, w', .call he, h⟩

end

/-- Every run of the program returns, and its result is one of `Y`. -/
def Yields (Y : α → Prop) : Prog σ C A ε α → Prop
  | .ret a => Y a
  | .fault _ => False
  | .atomic f k => (∀ w e, f w ≠ .error e) ∧ ∀ w, Yields Y (k w)
  | .call _ k => ∀ a, Yields Y (k a)

theorem Yields.bind {Y : α → Prop} {Z : β → Prop} {p : Prog σ C A ε α} {g : α → Prog σ C A ε β}
    (hp : Yields Y p) (hg : ∀ a, Y a → Yields Z (g a)) : Yields Z (p.bind g) := by
  induction p with
  | ret a => exact hg a hp
  | fault e => exact hp.elim
  | atomic f k ih => exact ⟨hp.1, fun w => ih w (hp.2 w)⟩
  | call c k ih => exact fun a => ih a (hp a)

/-- What every result is may be added to a postcondition; there is no fault. -/
theorem Sat.yields {Y : α → Prop} {p : Prog σ C A ε α} {w : σ} (h : Sat env I Q F p w)
    (hY : Yields Y p) : Sat env I (fun a w' => Y a ∧ Q a w') F' p w := by
  induction p generalizing w with
  | ret a => exact ⟨h.1, hY, h.2⟩
  | fault e => exact hY.elim
  | atomic f k ih =>
      exact ⟨h.1, fun w' hw => ih w' (h.2.1 w' hw) (hY.2 w'),
        fun e he => absurd he (hY.1 w e)⟩
  | call c k ih => exact ⟨h.1, fun a w' hw => ih a (h.2 a w' hw) (hY a)⟩

/-- Nothing is promised. -/
theorem sat_trivial (p : Prog σ C A ε α) (w : σ) :
    Sat env (fun _ => True) (fun _ _ => True) (fun _ _ => True) p w := by
  induction p generalizing w with
  | ret a => exact ⟨trivial, trivial⟩
  | fault e => exact ⟨trivial, trivial⟩
  | atomic f k ih => exact ⟨trivial, fun w' _ => ih w' w', fun _ _ => trivial⟩
  | call c k ih => exact ⟨trivial, fun a w' _ => ih a w'⟩

/-! ## The executable reading -/

/-- Run the program against one deterministic environment. -/
def run (respond : Responder σ C A) : Prog σ C A ε α → σ → Except ε α × σ
  | .ret a, w => (.ok a, w)
  | .fault e, w => (.error e, w)
  | .atomic f k, w =>
      match f w with
      | .ok w' => (k w').run respond w'
      | .error e => (.error e, w)
  | .call c k, w => (k (respond w c).1).run respond (respond w c).2

/-- The run of the second part begins where that of the first ends. -/
theorem run_bind {respond : Responder σ C A} {p : Prog σ C A ε α} {g : α → Prog σ C A ε β}
    {w w' : σ} {a : α} (h : p.run respond w = (.ok a, w')) :
    (p.bind g).run respond w = (g a).run respond w' := by
  induction p generalizing w with
  | ret b =>
      cases h
      rfl
  | fault e => cases h
  | atomic f k ih =>
      simp only [Prog.bind, Prog.run] at h ⊢
      cases hw : f w with
      | ok v =>
          rw [hw] at h
          exact ih v h
      | error e =>
          rw [hw] at h
          cases h
  | call c k ih => exact ih _ h

/-- The answers of a deterministic environment are answers `env` allows. -/
def Follows (respond : Responder σ C A) (env : Env σ C A) : Prop :=
  ∀ w c, env w c (respond w c).1 (respond w c).2

/-- What every run satisfies, the run against one environment satisfies. -/
theorem Sat.run {respond : Responder σ C A} (hf : Follows respond env)
    {p : Prog σ C A ε α} {w : σ} (h : Sat env I Q F p w) :
    match p.run respond w with
    | (.ok a, w') => Q a w'
    | (.error e, w') => F e w' := by
  induction p generalizing w with
  | ret a => exact h.2
  | fault e => exact h.2
  | atomic f k ih =>
      simp only [Prog.run]
      cases hw : f w with
      | ok w' => exact ih w' (h.2.1 w' hw)
      | error e => exact h.2.2 e hw
  | call c k ih => exact ih _ (h.2 _ _ (hf w c))

/-- The run against one environment is a sequence of steps. -/
theorem reaches_run {respond : Responder σ C A} (hf : Follows respond env)
    {p : Prog σ C A ε α} {w w' : σ} {a : α} (h : p.run respond w = (.ok a, w')) :
    Reaches env (p, w) (.ret a, w') := by
  induction p generalizing w with
  | ret b =>
      cases h
      exact .refl
  | fault e => cases h
  | atomic f k ih =>
      simp only [Prog.run] at h
      cases hw : f w with
      | ok v =>
          rw [hw] at h
          exact .head (.atomic hw) (ih v h)
      | error e =>
          rw [hw] at h
          cases h
  | call c k ih => exact .head (.call (hf w c)) (ih _ h)

/-! ## Two that run together -/

section

variable {W : Type} {serve : Server W C A}

/-- Run the program, and the server on what the program calls. -/
def runAgainst (serve : Server W C A) : Prog σ C A ε α → σ → W → Option (Except ε α × σ × W)
  | .ret a, s, w => some (.ok a, s, w)
  | .fault e, s, w => some (.error e, s, w)
  | .atomic f k, s, w =>
      match f s with
      | .ok s' => (k s').runAgainst serve s' w
      | .error e => some (.error e, s, w)
  | .call c k, s, w => (serve w c).bind fun answer => (k answer.1).runAgainst serve s answer.2

theorem runAgainst_call {c : C} {k : A c → Prog σ C A ε α} {s : σ} {w w' : W} {a : A c}
    (h : serve w c = some (a, w')) :
    (Prog.call c k).runAgainst serve s w = (k a).runAgainst serve s w' := by
  rw [runAgainst, h, Option.bind_some]

/-- The second part goes on from where the first has left both. -/
theorem runAgainst_bind {p : Prog σ C A ε α} {g : α → Prog σ C A ε β} {s s' : σ} {w w' : W} {a : α}
    (h : p.runAgainst serve s w = some (.ok a, s', w')) :
    (p.bind g).runAgainst serve s w = (g a).runAgainst serve s' w' := by
  induction p generalizing s w with
  | ret b =>
      cases h
      rfl
  | fault e => cases h
  | atomic f k ih =>
      simp only [Prog.bind, runAgainst] at h ⊢
      cases hs : f s with
      | ok v =>
          rw [hs] at h
          exact ih v h
      | error e =>
          rw [hs] at h
          cases h
  | call c k ih =>
      obtain ⟨answer, hserve, hrest⟩ := Option.bind_eq_some_iff.mp h
      rw [Prog.bind, runAgainst_call hserve]
      exact ih answer.1 hrest

/-- A program that makes no call runs the same against a server as in an environment, and
leaves the server as it is. -/
theorem runAgainst_of_makes {p : Prog σ C A ε α} (h : Makes (fun _ => False) p)
    (respond : Responder σ C A) (s : σ) (w : W) :
    p.runAgainst serve s w = some ((p.run respond s).1, (p.run respond s).2, w) := by
  induction p generalizing s with
  | ret a => rfl
  | fault e => rfl
  | atomic f k ih =>
      rw [runAgainst, Prog.run]
      cases f s with
      | ok s' => exact ih s' (h s') s'
      | error e => rfl
  | call c k ih => exact h.1.elim

end

end Prog

end TapCfg.Foundation
