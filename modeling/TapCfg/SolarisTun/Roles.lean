/-
  SolarisTun/Roles.lean --- who holds which unit of the Solaris driver.

  Three functions say it: what decides where a stream belongs, the number and the
  control stream of a unit, and the entries of `tun_ppa`.  Nothing is said here of
  how the driver keeps them.

  A stream that has a unit is not given another: each of the moves below asks for
  a stream that is free, or leaves one so.
-/
import Mathlib.Data.Option.Basic
import Mathlib.Logic.Function.Basic

set_option autoImplicit false

namespace TapCfg.SolarisTun

/-- What decides where a stream belongs. -/
structure Core where
  ppa : Option Nat
  control : Bool
  attached : Bool
  deriving DecidableEq, Repr

def Core.free : Core := ⟨none, false, false⟩

/-- Who holds which unit. -/
structure Roles (core : Nat → Option Core) (unit : Nat → Option (Nat × Nat))
    (entry : Nat → Option Nat) : Prop where
  alloc : ∀ {b c a}, core b = some c → c.ppa = some a → ∃ u, unit a = some u
  entries : ∀ {i a}, entry i = some a → ∃ r, unit a = some (i, r)
  units : ∀ {a i r}, unit a = some (i, r) →
    entry i = some a ∧ ∃ c, core r = some c ∧ c.ppa = some a ∧ c.control = true
  alone : ∀ {b c}, core b = some c → c.control = true → ∃ a i, c.ppa = some a ∧ unit a = some (i, b)
  attached : ∀ {b c}, core b = some c → c.attached = true → c.ppa ≠ none ∧ c.control = false

namespace Roles

open Function (update update_self update_of_ne)

variable {core : Nat → Option Core} {unit : Nat → Option (Nat × Nat)} {entry : Nat → Option Nat}
  {a b i : Nat} {c c' : Core}

/-- The control stream of a unit is not another stream. -/
theorem control_ne (h : Roles core unit entry) (hb : core b = some c) (hc : c.control = false)
    {r : Nat} (hu : unit a = some (i, r)) : r ≠ b := by
  rintro rfl
  obtain ⟨-, cr, hcr, -, hcontrol⟩ := h.units hu
  rw [hb] at hcr
  cases hcr
  rw [hc] at hcontrol
  cases hcontrol

theorem control_of_free (h : Roles core unit entry) (hb : core b = some c) (hc : c.ppa = none) :
    c = Core.free := by
  obtain ⟨ppa, control, attached⟩ := c
  obtain rfl : ppa = none := hc
  have hcontrol : control = false := by
    cases control with
    | false => rfl
    | true =>
        obtain ⟨a, _, ha, -⟩ := h.alone hb rfl
        cases ha
  have hattached : attached = false := by
    cases attached with
    | false => rfl
    | true => exact absurd rfl (h.attached hb rfl).1
  rw [hcontrol, hattached]
  rfl

/-- A stream that controls nothing gets another place, or none. -/
theorem move (h : Roles core unit entry) (hb : core b = some c) (hc : c.control = false)
    (hcontrol : c'.control = false) (halloc : ∀ a, c'.ppa = some a → ∃ u, unit a = some u)
    (hattached : c'.attached = true → c'.ppa ≠ none) :
    Roles (update core b (some c')) unit entry := by
  refine ⟨?_, h.entries, ?_, ?_, ?_⟩
  · intro x cx a hx ha
    rcases eq_or_ne x b with rfl | hne
    · rw [update_self] at hx
      cases hx
      exact halloc a ha
    · rw [update_of_ne hne] at hx
      exact h.alloc hx ha
  · intro a i r hu
    obtain ⟨hentry, cr, hcr, hrest⟩ := h.units hu
    exact ⟨hentry, cr, by rw [update_of_ne (h.control_ne hb hc hu), hcr], hrest⟩
  · intro x cx hx hcx
    rcases eq_or_ne x b with rfl | hne
    · rw [update_self] at hx
      cases hx
      rw [hcontrol] at hcx
      cases hcx
    · rw [update_of_ne hne] at hx
      exact h.alone hx hcx
  · intro x cx hx hcx
    rcases eq_or_ne x b with rfl | hne
    · rw [update_self] at hx
      cases hx
      exact ⟨hattached hcx, hcontrol⟩
    · rw [update_of_ne hne] at hx
      exact h.attached hx hcx

/-- A new stream has no place. -/
theorem enter (h : Roles core unit entry) (hb : core b = none) :
    Roles (update core b (some Core.free)) unit entry := by
  have hold : ∀ {x cx}, update core b (some Core.free) x = some cx →
      cx = Core.free ∨ core x = some cx := by
    intro x cx hx
    rcases eq_or_ne x b with rfl | hne
    · rw [update_self] at hx
      exact .inl (Option.some.inj hx).symm
    · rw [update_of_ne hne] at hx
      exact .inr hx
  refine ⟨?_, h.entries, ?_, ?_, ?_⟩
  · intro x cx a hx ha
    rcases hold hx with rfl | hx
    · cases ha
    · exact h.alloc hx ha
  · intro a i r hu
    obtain ⟨hentry, cr, hcr, hrest⟩ := h.units hu
    have hne : r ≠ b := by
      rintro rfl
      rw [hb] at hcr
      cases hcr
    exact ⟨hentry, cr, by rw [update_of_ne hne, hcr], hrest⟩
  · intro x cx hx hcx
    rcases hold hx with rfl | hx
    · cases hcx
    · exact h.alone hx hcx
  · intro x cx hx hcx
    rcases hold hx with rfl | hx
    · cases hcx
    · exact h.attached hx hcx

/-- A stream that controls nothing goes. -/
theorem leave (h : Roles core unit entry) (hb : core b = some c) (hc : c.control = false) :
    Roles (update core b none) unit entry := by
  have hold : ∀ {x cx}, update core b none x = some cx → core x = some cx := by
    intro x cx hx
    rcases eq_or_ne x b with rfl | hne
    · rw [update_self] at hx
      cases hx
    · rwa [update_of_ne hne] at hx
  refine ⟨fun hx => h.alloc (hold hx), h.entries, ?_, fun hx => h.alone (hold hx),
    fun hx => h.attached (hold hx)⟩
  intro a i r hu
  obtain ⟨hentry, cr, hcr, hrest⟩ := h.units hu
  exact ⟨hentry, cr, by rw [update_of_ne (h.control_ne hb hc hu), hcr], hrest⟩

/-- A stream without a place becomes the control stream of a new unit. -/
theorem create (h : Roles core unit entry) (hb : core b = some c) (hc : c.ppa = none)
    (ha : unit a = none) (hi : entry i = none) :
    Roles (update core b (some ⟨some a, true, false⟩)) (update unit a (some (i, b)))
      (update entry i (some a)) := by
  have hfree := h.control_of_free hb hc
  subst hfree
  have hunit : ∀ {x u}, unit x = some u → update unit a (some (i, b)) x = some u := by
    intro x u hx
    rw [update_of_ne, hx]
    rintro rfl
    rw [ha] at hx
    cases hx
  refine ⟨?_, ?_, ?_, ?_, ?_⟩
  · intro x cx y hx hy
    rcases eq_or_ne x b with rfl | hne
    · rw [update_self] at hx
      cases hx
      cases hy
      exact ⟨_, update_self ..⟩
    · rw [update_of_ne hne] at hx
      obtain ⟨u, hu⟩ := h.alloc hx hy
      exact ⟨u, hunit hu⟩
  · intro j x hj
    rcases eq_or_ne j i with rfl | hne
    · rw [update_self] at hj
      cases hj
      exact ⟨b, update_self ..⟩
    · rw [update_of_ne hne] at hj
      obtain ⟨r, hr⟩ := h.entries hj
      exact ⟨r, hunit hr⟩
  · intro x j r hu
    rcases eq_or_ne x a with rfl | hne
    · rw [update_self] at hu
      cases hu
      exact ⟨update_self .., _, update_self .., rfl, rfl⟩
    · rw [update_of_ne hne] at hu
      obtain ⟨hentry, cr, hcr, hrest⟩ := h.units hu
      refine ⟨?_, cr, by rw [update_of_ne (h.control_ne hb rfl hu), hcr], hrest⟩
      rw [update_of_ne, hentry]
      rintro rfl
      rw [hi] at hentry
      cases hentry
  · intro x cx hx hcx
    rcases eq_or_ne x b with rfl | hne
    · rw [update_self] at hx
      cases hx
      exact ⟨a, i, rfl, update_self ..⟩
    · rw [update_of_ne hne] at hx
      obtain ⟨y, j, hy, hu⟩ := h.alone hx hcx
      exact ⟨y, j, hy, hunit hu⟩
  · intro x cx hx hcx
    rcases eq_or_ne x b with rfl | hne
    · rw [update_self] at hx
      cases hx
      cases hcx
    · rw [update_of_ne hne] at hx
      exact h.attached hx hcx

/-- The place of a stream when the unit at `a` is gone. -/
def cut (a : Nat) (c : Core) : Core := if c.ppa = some a then Core.free else c

/-- A control stream goes, and takes its unit along. -/
theorem destroy (h : Roles core unit entry) (hu : unit a = some (i, b)) :
    Roles (update (fun x => (core x).map (cut a)) b none) (update unit a none)
      (update entry i none) := by
  obtain ⟨hentry, cb, hcb, hppa, hcontrol⟩ := h.units hu
  -- a stream that is left is free, or as before and elsewhere
  have hold : ∀ {x cx}, update (fun x => (core x).map (cut a)) b none x = some cx →
      cx = Core.free ∨ core x = some cx ∧ cx.ppa ≠ some a := by
    intro x cx hx
    rcases eq_or_ne x b with rfl | hne
    · rw [update_self] at hx
      cases hx
    rw [update_of_ne hne] at hx
    obtain ⟨cx', hcx', rfl⟩ := Option.map_eq_some_iff.mp hx
    by_cases hat : cx'.ppa = some a
    · exact .inl (if_pos hat)
    · rw [cut, if_neg hat]
      exact .inr ⟨hcx', hat⟩
  refine ⟨?_, ?_, ?_, ?_, ?_⟩
  · intro x cx y hx hy
    rcases hold hx with rfl | ⟨hx, hat⟩
    · cases hy
    · obtain ⟨u, hu'⟩ := h.alloc hx hy
      exact ⟨u, by rw [update_of_ne (fun hya => hat (by rw [hy, hya])), hu']⟩
  · intro j y hj
    rcases eq_or_ne j i with rfl | hne
    · rw [update_self] at hj
      cases hj
    · rw [update_of_ne hne] at hj
      obtain ⟨r, hr⟩ := h.entries hj
      refine ⟨r, ?_⟩
      rw [update_of_ne, hr]
      rintro rfl
      rw [hu] at hr
      cases hr
      exact hne rfl
  · intro y j r hy
    rcases eq_or_ne y a with rfl | hya
    · rw [update_self] at hy
      cases hy
    rw [update_of_ne hya] at hy
    obtain ⟨hentry', cr, hcr, hpr, hctl⟩ := h.units hy
    refine ⟨?_, cr, ?_, hpr, hctl⟩
    · rw [update_of_ne, hentry']
      rintro rfl
      rw [hentry] at hentry'
      cases hentry'
      exact hya rfl
    · have hne : r ≠ b := by
        rintro rfl
        rw [hcb] at hcr
        cases hcr
        rw [hppa] at hpr
        cases hpr
        exact hya rfl
      have hat : cr.ppa ≠ some a := by
        rw [hpr]
        exact fun hya' => hya (Option.some.inj hya')
      rw [update_of_ne hne, hcr, Option.map_some, cut, if_neg hat]
  · intro x cx hx hcx
    rcases hold hx with rfl | ⟨hx, hat⟩
    · cases hcx
    · obtain ⟨y, j, hy, huy⟩ := h.alone hx hcx
      exact ⟨y, j, hy, by rw [update_of_ne (fun hya => hat (by rw [hy, hya])), huy]⟩
  · intro x cx hx hcx
    rcases hold hx with rfl | ⟨hx, -⟩
    · cases hcx
    · exact h.attached hx hcx

end Roles

end TapCfg.SolarisTun
