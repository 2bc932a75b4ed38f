/-
  TapWin32/Mutex.lean --- the lock of the Windows driver.

  Source: drivers/windows/tap-win32/lock.h, lines 26-75.

  A caller counts itself in and holds the lock when it was the first; else it
  counts itself out again, and sleeps and tries anew where it may sleep.  Only
  the two interlocked accesses are indivisible, so that callers that are not
  going to hold the lock are counted too.
-/
import TapCfg.Foundation.Interleaving
import TapCfg.Foundation.Runs

set_option autoImplicit false

namespace TapCfg.TapWin32

open TapCfg.Foundation

/-- `MUTEX` -/
structure Mutex where
  count : Int
  deriving DecidableEq, Repr

/-- `INIT_MUTEX` -/
def initMutex : Mutex := ⟨0⟩

/-- What a caller does when it does not get the lock: `ACQUIRE_MUTEX_BLOCKING`,
`ACQUIRE_MUTEX_NONBLOCKING`, and `ACQUIRE_MUTEX_ADAPTIVE` by the level it runs at. -/
inductive Acquire where
  | blocking
  | nonblocking
  | adaptive (dispatchLevel : Bool)
  deriving DecidableEq, Repr

/-- The caller tries until it gets the lock. -/
def Acquire.insists : Acquire → Bool
  | .blocking => true
  | .nonblocking => false
  | .adaptive dispatchLevel => !dispatchLevel

/-- Where a caller is, before its next access. -/
inductive Locker where
  /-- before `NdisInterlockedIncrement` -/
  | trying (how : Acquire)
  /-- counted in, but not as the first: before `NdisInterlockedDecrement` -/
  | late (how : Acquire)
  /-- before `RELEASE_MUTEX` -/
  | holding
  deriving DecidableEq, Repr

/-- The next access of a caller. -/
def Locker.run : Locker → Mutex → Mutex × Option Locker
  | .trying how, m =>
      let m : Mutex := ⟨m.count + 1⟩
      if m.count ≠ 1 then (m, some (.late how)) else (m, some .holding)
  | .late how, m => (⟨m.count - 1⟩, if how.insists then some (.trying how) else none)
  | .holding, m => (⟨m.count - 1⟩, none)

/-- Somebody calls. -/
def LockBegins (m m' : Mutex) (k : Option Locker) : Prop :=
  m' = m ∧ ∃ how, k = some (.trying how)

def LockGoes (k : Locker) (m m' : Mutex) (k' : Option Locker) : Prop := k.run m = (m', k')

/-- One access. -/
abbrev LockStep : Pool Mutex Locker → Pool Mutex Locker → Prop := Section LockBegins LockGoes

/-- The lock was initialised, and nobody calls. -/
def Free (p : Pool Mutex Locker) : Prop := p.shared = initMutex ∧ p.active = 0

/-- What a caller is counted for: `true` if it holds the lock. -/
def Locker.counted : Locker → Multiset Bool
  | .trying _ => 0
  | .late _ => {false}
  | .holding => {true}

/-- The count is of those who are counted, and one of them at most holds the lock. -/
structure Guarded (m : Mutex) (counted : Multiset Bool) : Prop where
  count : m.count = counted.card
  one : counted.count true ≤ 1

theorem Guarded.goes {k : Locker} {m m' : Mutex} {k' : Option Locker} {R : Multiset Bool}
    (h : Guarded m (k.counted + R)) (hg : LockGoes k m m' k') :
    Guarded m' (holdings Locker.counted (started k') + R) := by
  obtain ⟨hcount, hone⟩ := h
  cases k with
  | trying how =>
      simp only [Locker.counted, zero_add] at hcount hone
      simp only [LockGoes, Locker.run] at hg
      split at hg
      · cases hg
        refine ⟨?_, ?_⟩
        · simp [Locker.counted, hcount]
        · simpa [Locker.counted] using hone
      · -- the first one is alone
        rename_i hfirst
        cases hg
        have hnone : R = 0 := by
          apply Multiset.card_eq_zero.mp
          omega
        subst hnone
        refine ⟨?_, ?_⟩
        · simp [Locker.counted, hcount]
        · simp [Locker.counted]
  | late how =>
      cases hg
      have hrest : Guarded ⟨m.count - 1⟩ R := by
        refine ⟨?_, ?_⟩
        · simp [hcount, Locker.counted]
        · simpa [Locker.counted] using hone
      cases how.insists with
      | true => simpa [Locker.counted] using hrest
      | false => simpa using hrest
  | holding =>
      cases hg
      refine ⟨?_, ?_⟩
      · simp [hcount, Locker.counted]
      · simp only [Locker.counted, Multiset.count_add, Multiset.count_singleton_self] at hone
        simp only [started_none, holdings_zero, zero_add]
        omega

theorem guarded {p : Pool Mutex Locker} (h : Runs Free LockStep p) :
    Guarded p.shared (holdings Locker.counted p.active) := by
  refine h.invariant (I := fun p => Guarded p.shared (holdings Locker.counted p.active)) ?_ ?_
  · rintro ⟨m, A⟩ ⟨rfl, rfl⟩
    exact ⟨rfl, Nat.zero_le 1⟩
  · intro p p' hp hs
    refine hs.accounts (P := Guarded) ?_ (fun _ _ _ _ _ h hg => h.goes hg) hp
    rintro m m' k R hR ⟨rfl, how, rfl⟩
    simpa [Locker.counted] using hR

theorem count_holdings_counted (A : Multiset Locker) :
    (holdings Locker.counted A).count true = A.count .holding := by
  induction A using Multiset.induction with
  | empty => rfl
  | cons k A ih =>
      rw [holdings_cons, Multiset.count_add, ih, Multiset.count_cons]
      cases k <;> simp [Locker.counted, Nat.add_comm]

theorem card_holdings_counted (A : Multiset Locker) :
    (holdings Locker.counted A).card = 0 ↔ ∀ k ∈ A, ∃ how, k = .trying how := by
  induction A using Multiset.induction with
  | empty => simp
  | cons k A ih =>
      rw [holdings_cons, Multiset.card_add, Nat.add_eq_zero_iff, ih, Multiset.forall_mem_cons]
      cases k <;> simp [Locker.counted]

/-- A caller that tries gets the lock when nobody is counted in, and not otherwise. -/
theorem trying_gets_iff (how : Acquire) (m : Mutex) :
    ((Locker.trying how).run m).2 = some .holding ↔ m.count = 0 := by
  simp only [Locker.run]
  split
  · simp only [Option.some.injEq, reduceCtorEq, false_iff]
    omega
  · simp only [true_iff]
    omega

section

variable {m m' : Mutex} {R : Multiset Locker}

theorem runs_call (h : Runs Free LockStep ⟨m, R⟩) (how : Acquire) :
    Runs Free LockStep ⟨m, .trying how ::ₘ R⟩ := by
  have hcall : LockStep ⟨m, R⟩ ⟨m, started (some (.trying how)) + R⟩ := .spawn ⟨rfl, how, rfl⟩
  rw [started_some, Multiset.singleton_add] at hcall
  exact h.next hcall

theorem runs_goOn {k j : Locker} (h : Runs Free LockStep ⟨m, k ::ₘ R⟩)
    (hg : k.run m = (m', some j)) : Runs Free LockStep ⟨m', j ::ₘ R⟩ := by
  have hstep : LockStep ⟨m, k ::ₘ R⟩ ⟨m', started (some j) + R⟩ := .advance hg
  rw [started_some, Multiset.singleton_add] at hstep
  exact h.next hstep

theorem runs_leave {k : Locker} (h : Runs Free LockStep ⟨m, k ::ₘ R⟩)
    (hg : k.run m = (m', none)) : Runs Free LockStep ⟨m', R⟩ := by
  have hstep : LockStep ⟨m, k ::ₘ R⟩ ⟨m', started none + R⟩ := .advance hg
  rw [started_none, zero_add] at hstep
  exact h.next hstep

end

/-- Three callers that do not insist: the first holds the lock, the second is late, the first
releases the lock, and the third comes. -/
theorem third_runs : Runs Free LockStep
    ⟨⟨1⟩, .trying .nonblocking ::ₘ .late .nonblocking ::ₘ 0⟩ := by
  have hfree : Runs Free LockStep ⟨initMutex, 0⟩ := .start ⟨rfl, rfl⟩
  have hfirst : Runs Free LockStep ⟨⟨1⟩, .holding ::ₘ 0⟩ :=
    runs_goOn (runs_call hfree .nonblocking) rfl
  have hsecond : Runs Free LockStep ⟨⟨2⟩, .late .nonblocking ::ₘ .holding ::ₘ 0⟩ :=
    runs_goOn (runs_call hfirst .nonblocking) rfl
  rw [Multiset.cons_swap] at hsecond
  have hreleased : Runs Free LockStep ⟨⟨1⟩, .late .nonblocking ::ₘ 0⟩ := runs_leave hsecond rfl
  exact runs_call hreleased .nonblocking

/-- However the accesses interleave, at most one caller holds the lock, and a caller that tries
gets it exactly when no other is counted in; but it may be refused when nobody holds the lock. -/
theorem mutex_exclusive :
    (∀ p, Runs Free LockStep p → p.active.count .holding ≤ 1 ∧
      ∀ how, ((Locker.trying how).run p.shared).2 = some .holding ↔
        ∀ k ∈ p.active, ∃ how', k = .trying how') ∧
    ∃ p, Runs Free LockStep p ∧ .trying .nonblocking ∈ p.active ∧ .holding ∉ p.active ∧
      ((Locker.trying .nonblocking).run p.shared).2 = some (.late .nonblocking) := by
  constructor
  · intro p h
    obtain ⟨hcount, hone⟩ := guarded h
    rw [count_holdings_counted] at hone
    refine ⟨hone, fun how => ?_⟩
    rw [trying_gets_iff, hcount, ← card_holdings_counted]
    exact Int.natCast_eq_zero
  · exact ⟨_, third_runs, by simp, by simp, rfl⟩

end TapCfg.TapWin32
