/-
  Foundation/Ledger.lean --- what is acquired and released.

  A ledger is the list of the acquisitions and releases of some resource, oldest
  first.  `held` is what has been acquired and not been released since.  Whether
  a release finds what it releases is not asked here: a ledger may record one
  that does not (`Settles` says that none does).
-/
import TapCfg.Foundation.History
import Mathlib.Data.List.Nodup

set_option autoImplicit false

namespace TapCfg.Foundation

/-- One entry of a ledger. -/
inductive Entry (R : Type) where
  | acquire (a : R)
  | release (a : R)
  deriving DecidableEq, Repr

variable {R : Type} [DecidableEq R]

/-- What is held after the entries. -/
def held (l : List (Entry R)) : List R :=
  l.foldl (fun acc e => match e with
    | .acquire a => acc ++ [a]
    | .release a => acc.erase a) []

/-- Only what is not held is acquired. -/
def Fresh (l : List (Entry R)) : Entry R → Prop
  | .acquire a => a ∉ held l
  | .release _ => True

/-- Only what is held is released. -/
def Settles (l : List (Entry R)) : Entry R → Prop
  | .acquire _ => True
  | .release a => a ∈ held l

/-- The entries until `a` is acquired again. -/
def life (a : R) (l : List (Entry R)) : List (Entry R) := l.takeWhile fun e => e != .acquire a

@[simp] theorem held_nil : held ([] : List (Entry R)) = [] := rfl

@[simp] theorem held_acquire (l : List (Entry R)) (a : R) :
    held (l ++ [.acquire a]) = held l ++ [a] := by simp [held]

@[simp] theorem held_release (l : List (Entry R)) (a : R) :
    held (l ++ [.release a]) = (held l).erase a := by simp [held]

/-- Nothing is held twice, when only what is not held is acquired. -/
theorem held_nodup {l : List (Entry R)} (h : Along Fresh [] l) : (held l).Nodup := by
  induction l using List.reverseRecOn with
  | nil => exact List.nodup_nil
  | append_singleton l e ih =>
      obtain ⟨hbefore, he⟩ := along_append.mp h
      have hl := ih hbefore
      cases e with
      | acquire a =>
          have hnew : a ∉ held l := along_singleton.mp he
          rw [held_acquire, List.nodup_append]
          refine ⟨hl, List.nodup_singleton a, ?_⟩
          rintro b hb c hc rfl
          exact hnew (List.mem_singleton.mp hc ▸ hb)
      | release a =>
          rw [held_release]
          exact hl.erase a

/-- What is held stays held until it is released. -/
theorem mem_held_append {l τ : List (Entry R)} {a : R} (h : a ∈ held l) (hτ : .release a ∉ τ) :
    a ∈ held (l ++ τ) := by
  induction τ using List.reverseRecOn with
  | nil => rwa [List.append_nil]
  | append_singleton τ e ih =>
      have hbefore := ih fun hmem => hτ (List.mem_append_left _ hmem)
      rw [← List.append_assoc]
      cases e with
      | acquire b =>
          rw [held_acquire]
          exact List.mem_append_left _ hbefore
      | release b =>
          have hne : a ≠ b := by
            rintro rfl
            exact hτ (by simp)
          rw [held_release]
          exact (List.mem_erase_of_ne hne).mpr hbefore

/-- Entries that release only what they have acquired leave alone what was held before. -/
theorem held_append {l τ : List (Entry R)} (h : Along Settles [] τ) :
    (held (l ++ τ)).Perm (held l ++ held τ) := by
  induction τ using List.reverseRecOn with
  | nil => simp
  | append_singleton τ e ih =>
      obtain ⟨hτ, he⟩ := along_append.mp h
      have hbefore := ih hτ
      rw [← List.append_assoc]
      cases e with
      | acquire a =>
          rw [held_acquire, held_acquire, ← List.append_assoc]
          exact hbefore.append_right [a]
      | release a =>
          have hmem : a ∈ held τ := along_singleton.mp he
          rw [held_release, held_release]
          refine (hbefore.erase a).trans ?_
          -- either list may hold it, and one of them loses it
          have hfront : (held l ++ held τ).Perm (held τ ++ held l) := List.perm_append_comm
          refine (hfront.erase a).trans ?_
          rw [List.erase_append_left _ hmem]
          exact List.perm_append_comm

theorem held_acquire_perm {l : List (Entry R)} {rs : List R} (h : (held l).Perm rs) (a : R) :
    (held (l ++ [.acquire a])).Perm (a :: rs) := by
  rw [held_acquire]
  exact List.perm_append_comm.trans (h.cons a)

theorem held_release_perm {l : List (Entry R)} {rs : List R} {a : R}
    (h : (held l).Perm (a :: rs)) : (held (l ++ [.release a])).Perm rs := by
  have herase := h.erase a
  rwa [List.erase_cons_head, ← held_release] at herase

/-- Just these are held, and nothing has been released that was not held. -/
structure Owns (rs : List R) (l : List (Entry R)) : Prop where
  settles : Along Settles [] l
  fresh : Along Fresh [] l
  exact : (held l).Perm rs

namespace Owns

variable {rs : List R} {l : List (Entry R)} {a : R}

theorem nil : Owns ([] : List R) [] := ⟨trivial, trivial, .refl _⟩

theorem acquire (h : Owns rs l) (ha : a ∉ held l) : Owns (a :: rs) (l ++ [.acquire a]) := by
  refine ⟨along_append.mpr ⟨h.settles, along_singleton.mpr trivial⟩,
    along_append.mpr ⟨h.fresh, along_singleton.mpr ha⟩, ?_⟩
  exact held_acquire_perm h.exact a

theorem release (h : Owns (a :: rs) l) : Owns rs (l ++ [.release a]) := by
  have hmem : a ∈ held l := h.exact.mem_iff.mpr List.mem_cons_self
  refine ⟨along_append.mpr ⟨h.settles, along_singleton.mpr hmem⟩,
    along_append.mpr ⟨h.fresh, along_singleton.mpr trivial⟩, ?_⟩
  exact held_release_perm h.exact

theorem of_perm {rs' : List R} (h : Owns rs l) (hp : rs.Perm rs') : Owns rs' l :=
  ⟨h.settles, h.fresh, h.exact.trans hp⟩

end Owns

end TapCfg.Foundation
