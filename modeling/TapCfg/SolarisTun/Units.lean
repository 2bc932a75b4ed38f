/-
  SolarisTun/Units.lean --- the numbers that the Solaris driver gives out.

  Source: drivers/solaris/tuntap/tun.c, lines 299-456.

  A number is taken as long as a stream controls its unit, and no longer.  `TUNNEWPPA`
  gives out the numbers that are not taken, and `tunclose` of the control stream is
  all it needs to have one back.
-/
import TapCfg.SolarisTun.Careful

set_option autoImplicit false

namespace TapCfg.SolarisTun

open TapCfg.Foundation
open Function (update update_self update_of_ne)

/-- The stream at `r` is the control stream of unit `i`. -/
def Controls (d : Driver) (r i : Nat) : Prop :=
  ∃ s a ppa, d.streams.lookup r = some s ∧ s.flags.control = true ∧ s.ppa = some a ∧
    d.ppas.lookup a = some ppa ∧ ppa.id = i

variable {order : Endian} {d d' : Driver} {k : Kernel} {strs strs' : List Nat}
  {members members' : Nat → List Nat} {rq r r' i i' : Nat} {str : Tunstr}

theorem Controls.unique (h : Controls d r i) (h' : Controls d r i') : i = i' := by
  obtain ⟨s, a, ppa, hs, -, hat, hppa, rfl⟩ := h
  obtain ⟨s', a', ppa', hs', -, hat', hppa', rfl⟩ := h'
  obtain rfl : s = s' := Option.some.inj (hs.symm.trans hs')
  obtain rfl : a = a' := Option.some.inj (hat.symm.trans hat')
  obtain rfl : ppa = ppa' := Option.some.inj (hppa.symm.trans hppa')
  rfl

theorem Linked.controls_iff (h : Linked d strs members) :
    Controls d r i ↔ ∃ a, unitOf d a = some (i, r) := by
  constructor
  · rintro ⟨s, a, ppa, hs, hcontrol, hat, hppa, rfl⟩
    obtain ⟨a', j, ha', hu⟩ := h.roles.alone (coreOf_eq hs) hcontrol
    obtain rfl : a' = a := Option.some.inj (ha'.symm.trans hat)
    rw [unitOf_eq hppa] at hu
    obtain ⟨-, rfl⟩ := Prod.mk.inj (Option.some.inj hu)
    exact ⟨a', unitOf_eq hppa⟩
  · rintro ⟨a, hu⟩
    obtain ⟨-, c, hc, hat, hcontrol⟩ := h.roles.units hu
    obtain ⟨s, hs, rfl⟩ := Option.map_eq_some_iff.mp hc
    obtain ⟨ppa, hppa, hid⟩ := Option.map_eq_some_iff.mp hu
    exact ⟨s, a, ppa, hs, hcontrol, hat, hppa, (Prod.mk.inj hid).1⟩

/-- A number is taken as long as a stream controls its unit. -/
theorem Linked.taken_iff (h : Linked d strs members) :
    entryOf d i ≠ none ↔ ∃ r, Controls d r i := by
  constructor
  · intro hne
    obtain ⟨a, ha⟩ := Option.ne_none_iff_exists'.mp hne
    obtain ⟨r, hu⟩ := h.roles.entries ha
    exact ⟨r, h.controls_iff.mpr ⟨a, hu⟩⟩
  · rintro ⟨r, hr⟩
    obtain ⟨a, hu⟩ := h.controls_iff.mp hr
    rw [(h.roles.units hu).1]
    exact Option.some_ne_none a

theorem Linked.controls_alone (h : Linked d strs members) (hr : Controls d r i)
    (hr' : Controls d r' i) : r = r' := by
  obtain ⟨a, hu⟩ := h.controls_iff.mp hr
  obtain ⟨a', hu'⟩ := h.controls_iff.mp hr'
  obtain rfl : a = a' := Option.some.inj ((h.roles.units hu).1.symm.trans (h.roles.units hu').1)
  rw [hu] at hu'
  exact (Prod.mk.inj (Option.some.inj hu')).2

theorem Linked.controls_lt (h : Linked d strs members) (hr : Controls d r i) : i < tunMaxPpa := by
  obtain ⟨a, hu⟩ := h.controls_iff.mp hr
  exact lt_of_entryOf (h.roles.units hu).1

/-! ## Giving out -/

theorem entryOf_of_lt (hi : i < tunMaxPpa) : entryOf d i = d.tunPpa[i] := by
  rw [entryOf, Vector.getElem?_eq_getElem hi]
  rfl

/-- `tun_alloc_ppa` finds no number when all are taken. -/
theorem taken_of_findIdx (h : d.tunPpa.toList.findIdx? (fun entry => entry.isNone) = none)
    (hi : i < tunMaxPpa) : entryOf d i ≠ none := by
  have hmem : d.tunPpa[i] ∈ d.tunPpa.toList :=
    Vector.mem_toList_iff.mpr (Vector.getElem_mem hi)
  have hsome := List.findIdx?_eq_none_iff.mp h _ hmem
  rw [entryOf_of_lt hi, ← Option.isSome_iff_ne_none]
  simpa using hsome

/-- The numbers below the one that it finds are taken. -/
theorem taken_below_findIdx (h : d.tunPpa.toList.findIdx? (fun entry => entry.isNone) = some i)
    {j : Nat} (hj : j < i) : entryOf d j ≠ none := by
  obtain ⟨hlt, -, hbelow⟩ := List.findIdx?_eq_some_iff_getElem.mp h
  rw [Vector.length_toList] at hlt
  have hsome := hbelow j hj
  rw [entryOf_of_lt (hj.trans hlt)]
  simpa using hsome

/-- A new unit has one control stream, and leaves the others theirs. -/
theorem Linked.controls_create (h : Linked d strs members) (h' : Linked d' strs' members')
    {page : Nat} (hpage : unitOf d page = none)
    (hunit : unitOf d' = update (unitOf d) page (some (i, rq))) {j : Nat} :
    Controls d' r j ↔ Controls d r j ∨ r = rq ∧ i = j := by
  rw [h'.controls_iff, h.controls_iff, hunit]
  constructor
  · rintro ⟨a, ha⟩
    rcases eq_or_ne a page with rfl | hne
    · rw [update_self] at ha
      obtain ⟨hi, hr⟩ := Prod.mk.inj (Option.some.inj ha)
      exact .inr ⟨hr.symm, hi⟩
    · rw [update_of_ne hne] at ha
      exact .inl ⟨a, ha⟩
  · rintro (⟨a, ha⟩ | ⟨rfl, rfl⟩)
    · refine ⟨a, ?_⟩
      rw [update_of_ne, ha]
      rintro rfl
      rw [hpage] at ha
      cases ha
    · exact ⟨page, update_self ..⟩

theorem unitOf_create (page : Nat) (ppa : Tunppa) (streams : Cells Tunstr)
    (tunPpa : Vector (Option Nat) tunMaxPpa) :
    unitOf { d with
      streams := streams
      tunPpa := tunPpa
      ppas := d.ppas.insert page ppa } = update (unitOf d) page (some (ppa.id, ppa.rq)) := by
  funext x
  unfold unitOf
  rcases eq_or_ne x page with rfl | hne
  · rw [update_self, AList.lookup_insert]
    rfl
  · rw [update_of_ne hne, AList.lookup_insert_ne hne]

/-- What `TUNNEWPPA` with this number may answer. -/
def Answers (d : Driver) (p : Int) (up : Up) : Prop :=
  (∃ i, up = .iocack i ∧ i < tunMaxPpa ∧ (∀ r, ¬ Controls d r i) ∧
    (p = i ∨ p = -1 ∧ ∀ j < i, ∃ r, Controls d r j)) ∨
  up = .iocnak .eexist ∧ (∃ i : Nat, p = i ∧ ∃ r, Controls d r i) ∨
  up = .iocnak .enomem ∧ p = -1 ∧ (∀ j < tunMaxPpa, ∃ r, Controls d r j) ∨
  up = .iocnak .einval ∧ (p < -1 ∨ p > tunMaxPpa)

/-- What becomes of the units then. -/
def Given (d d' : Driver) (page rq : Nat) (up : Up) : Prop :=
  d' = d ∧ (∀ i, up ≠ .iocack i) ∨
  ∃ i strs members, up = .iocack i ∧ Linked d' strs members ∧
    unitOf d' = update (unitOf d) page (some (i, rq))

theorem Linked.newPpa_answers (h : Linked d strs members)
    (hstr : d.streams.lookup rq = some str) (hnone : str.ppa = none) (hpage : k.page ∉ d.ppas)
    {p : Int} (hp : p ≠ tunMaxPpa) :
    ∃ d' up, tunIoctl d k rq (.tunnewppa (some p)) = some (d', [(rq, up)]) ∧
      Answers d p up ∧ Given d d' k.page rq up := by
  have hrefused : ∀ err, Given d d k.page rq (.iocnak err) :=
    fun err => .inl ⟨rfl, fun i hi => by cases hi⟩
  have hnobody : ∀ {i}, entryOf d i = none → ∀ r, ¬ Controls d r i :=
    fun hfree r hr => h.taken_iff.mpr ⟨r, hr⟩ hfree
  simp only [tunIoctl, hstr, Option.bind_eq_bind, Option.bind_some]
  split
  · rename_i hrange
    exact ⟨_, _, rfl, .inr (.inr (.inr ⟨rfl, hrange⟩)), hrefused _⟩
  rename_i hrange
  obtain ⟨hlow, hhigh⟩ := not_or.mp hrange
  by_cases hany : p = -1
  · subst hany
    simp only [if_true, tunAllocPpa]
    cases hfind : d.tunPpa.toList.findIdx? (fun entry => entry.isNone) with
    | none =>
        have hall : ∀ j < tunMaxPpa, ∃ r, Controls d r j :=
          fun j hj => h.taken_iff.mp (taken_of_findIdx hfind hj)
        exact ⟨_, _, rfl, .inr (.inr (.inl ⟨rfl, rfl, hall⟩)), hrefused _⟩
    | some i =>
        obtain ⟨hi, hfree⟩ := free_of_findIdx hfind
        have hbelow : ∀ j < i, ∃ r, Controls d r j :=
          fun j hj => h.taken_iff.mp (taken_below_findIdx hfind hj)
        have hnew := h.create hstr hnone hpage hi hfree d.localmacaddr
        simp only [if_pos hi]
        exact ⟨_, _, rfl, .inl ⟨i, rfl, hi, hnobody hfree, .inr ⟨rfl, hbelow⟩⟩,
          .inr ⟨i, _, _, rfl, hnew, unitOf_create ..⟩⟩
  · obtain ⟨entry, hentry, hi⟩ := exists_entry d (show (0 : Int) ≤ p by omega) hhigh hp
    have hp' : p = p.toNat := (Int.toNat_of_nonneg (by omega)).symm
    have hof : entryOf d p.toNat = entry := by
      rw [entryOf, hentry]
      rfl
    simp only [if_neg hany, hentry, Option.bind_some]
    cases entry with
    | some a =>
        have htaken : ∃ r, Controls d r p.toNat := by
          rw [← h.taken_iff, hof]
          exact Option.some_ne_none a
        exact ⟨_, _, rfl, .inr (.inl ⟨rfl, p.toNat, hp', htaken⟩), hrefused _⟩
    | none =>
        have hnew := h.create hstr hnone hpage hi hof d.localmacaddr
        simp only [tunAllocPpa, if_neg hany, if_pos hi, Option.bind_some]
        exact ⟨_, _, rfl, .inl ⟨p.toNat, rfl, hi, hnobody hof, .inl hp'⟩,
          .inr ⟨p.toNat, _, _, rfl, hnew, unitOf_create ..⟩⟩

/-! ## Giving back -/

theorem unitOf_leavePpa {a : Nat} (hrun : leavePpa d rq str a = some d') :
    unitOf d' = if str.flags.control then update (unitOf d) a none else unitOf d := by
  obtain ⟨ppa, hppa, hrun⟩ := Option.bind_eq_some_iff.mp hrun
  split at hrun
  · obtain ⟨nodes, -, hrun⟩ := Option.bind_eq_some_iff.mp hrun
    cases hrun
    rw [if_pos ‹_›]
    funext x
    unfold unitOf
    rcases eq_or_ne x a with rfl | hne
    · rw [update_self, AList.lookup_erase]
      rfl
    · rw [update_of_ne hne, AList.lookup_erase_ne hne]
  · obtain ⟨⟨pStr, streams⟩, -, hrun⟩ := Option.bind_eq_some_iff.mp hrun
    cases hrun
    rw [if_neg ‹_›]
    exact unitOf_insert hppa { ppa with pStr := pStr } rfl rfl streams

/-- Of the units, `tunclose` changes what `leave` does. -/
theorem tunclose_leave (hrun : tunclose d rq = some d') :
    ∃ str d₁, d.streams.lookup rq = some str ∧ leave d rq str = some d₁ ∧
      unitOf d' = unitOf d₁ := by
  obtain ⟨str, hstr, hrun⟩ := Option.bind_eq_some_iff.mp hrun
  obtain ⟨d₁, hleave, hrun⟩ := Option.bind_eq_some_iff.mp hrun
  obtain ⟨⟨tunStr, streams⟩, -, hrun⟩ := Option.bind_eq_some_iff.mp hrun
  cases hrun
  exact ⟨str, d₁, hstr, hleave, rfl⟩

/-- A stream that is closed controls nothing, and the others control what they did. -/
theorem Linked.controls_close (h : Linked d strs members) (h' : Linked d' strs' members')
    (hrun : tunclose d rq = some d') {j : Nat} : Controls d' r j ↔ r ≠ rq ∧ Controls d r j := by
  obtain ⟨str, d₁, hstr, hleave, hunit⟩ := tunclose_leave hrun
  rw [h'.controls_iff, hunit]
  by_cases hcontrol : str.flags.control = true
  · obtain ⟨a, i, hat, hu⟩ := h.roles.alone (coreOf_eq hstr) hcontrol
    replace hat : str.ppa = some a := hat
    rw [leave, hat] at hleave
    rw [unitOf_leavePpa hleave, if_pos hcontrol, h.controls_iff]
    constructor
    · rintro ⟨x, hx⟩
      rcases eq_or_ne x a with rfl | hne
      · rw [update_self] at hx
        cases hx
      rw [update_of_ne hne] at hx
      refine ⟨?_, x, hx⟩
      rintro rfl
      obtain ⟨-, c, hc, hcx, -⟩ := h.roles.units hx
      rw [coreOf_eq hstr] at hc
      cases hc
      exact hne (Option.some.inj (hcx.symm.trans hat))
    · rintro ⟨hne, x, hx⟩
      refine ⟨x, ?_⟩
      rw [update_of_ne, hx]
      rintro rfl
      rw [hu] at hx
      cases hx
      exact hne rfl
  · have hsame : unitOf d₁ = unitOf d := by
      cases hat : str.ppa with
      | none =>
          rw [leave, hat] at hleave
          cases hleave
          rfl
      | some a =>
          rw [leave, hat] at hleave
          rw [unitOf_leavePpa hleave, if_neg hcontrol]
    rw [hsame, ← h.controls_iff]
    refine ⟨fun hr => ⟨?_, hr⟩, fun hr => hr.2⟩
    rintro rfl
    obtain ⟨s, -, -, hs, hs', -⟩ := hr
    rw [hstr] at hs
    cases hs
    exact hcontrol hs'

/-! ## Keeping -/

section Keeping

variable {rq : Nat} {mp : List Byte} {ups : Ups}

theorem unitOf_tunFrame {m : Msg} {queue : Bool}
    (hrun : tunFrame d k rq m queue = some (d', ups)) : unitOf d' = unitOf d := by
  obtain ⟨str, -, hrun⟩ := Option.bind_eq_some_iff.mp hrun
  split at hrun
  · cases hrun
    rfl
  obtain ⟨ppa, -, hrun⟩ := Option.bind_eq_some_iff.mp hrun
  obtain ⟨nodes, -, hrun⟩ := Option.bind_eq_some_iff.mp hrun
  obtain ⟨sniffed, -, hrun⟩ := Option.bind_eq_some_iff.mp hrun
  split at hrun
  · obtain ⟨routed, -, hrun⟩ := Option.bind_eq_some_iff.mp hrun
    cases hrun
    rfl
  split at hrun
  · cases hrun
  split at hrun
  · cases hrun
    rfl
  split at hrun
  · cases hrun
    rfl
  · cases hrun
    rfl

theorem unitOf_tunUnitdataReq {cont : Option Msg}
    (hrun : tunUnitdataReq order d k rq mp cont = some (d', ups)) : unitOf d' = unitOf d := by
  obtain ⟨str, -, hrun⟩ := Option.bind_eq_some_iff.mp hrun
  split at hrun
  · cases hrun
    rfl
  split at hrun
  · cases hrun
    rfl
  obtain ⟨offset, -, hrun⟩ := Option.bind_eq_some_iff.mp hrun
  obtain ⟨dest, -, hrun⟩ := Option.bind_eq_some_iff.mp hrun
  obtain ⟨a, -, hrun⟩ := Option.bind_eq_some_iff.mp hrun
  obtain ⟨ppa, -, hrun⟩ := Option.bind_eq_some_iff.mp hrun
  dsimp only at hrun
  split at hrun
  · exact unitOf_tunFrame hrun
  · cases hrun
    rfl

theorem unitOf_attachTo {a : Nat} {state : DlState} (hrun : attachTo d rq a state = some d') :
    unitOf d' = unitOf d := by
  obtain ⟨ppa, hppa, hrun⟩ := Option.bind_eq_some_iff.mp hrun
  obtain ⟨⟨pStr, streams⟩, -, hrun⟩ := Option.bind_eq_some_iff.mp hrun
  cases hrun
  exact unitOf_insert hppa { ppa with pStr := pStr } rfl rfl _

theorem unitOf_tunAttachReq (hrun : tunAttachReq order d k rq mp = some (d', ups)) :
    unitOf d' = unitOf d := by
  obtain ⟨str, -, hrun⟩ := Option.bind_eq_some_iff.mp hrun
  split at hrun
  · cases hrun
    rfl
  split at hrun
  · cases hrun
    rfl
  dsimp only at hrun
  split at hrun
  · cases hrun
    rfl
  obtain ⟨entry, -, hrun⟩ := Option.bind_eq_some_iff.mp hrun
  split at hrun
  · cases hrun
    rfl
  obtain ⟨d₁, hattach, hrun⟩ := Option.bind_eq_some_iff.mp hrun
  cases hrun
  exact unitOf_attachTo hattach

theorem unitOf_tunDetachReq (hrun : tunDetachReq d k rq mp = some (d', ups)) :
    unitOf d' = unitOf d := by
  obtain ⟨str, -, hrun⟩ := Option.bind_eq_some_iff.mp hrun
  split at hrun
  · cases hrun
    rfl
  split at hrun
  · cases hrun
    rfl
  obtain ⟨a, -, hrun⟩ := Option.bind_eq_some_iff.mp hrun
  obtain ⟨ppa, hppa, hrun⟩ := Option.bind_eq_some_iff.mp hrun
  obtain ⟨⟨pStr, streams⟩, -, hrun⟩ := Option.bind_eq_some_iff.mp hrun
  cases hrun
  exact unitOf_insert hppa { ppa with pStr := pStr } rfl rfl _

theorem unitOf_tunInfoReq (hrun : tunInfoReq d k rq mp = some (d', ups)) :
    unitOf d' = unitOf d := by
  obtain ⟨str, -, hrun⟩ := Option.bind_eq_some_iff.mp hrun
  split at hrun
  · cases hrun
    rfl
  dsimp only at hrun
  split at hrun
  · cases hrun
    rfl
  · obtain ⟨addr, -, hrun⟩ := Option.bind_eq_some_iff.mp hrun
    cases hrun
    rfl

theorem unitOf_tunBindReq (hrun : tunBindReq order d k rq mp = some (d', ups)) :
    unitOf d' = unitOf d := by
  obtain ⟨str, -, hrun⟩ := Option.bind_eq_some_iff.mp hrun
  split at hrun
  · cases hrun
    rfl
  split at hrun
  · cases hrun
    rfl
  split at hrun
  · cases hrun
    rfl
  dsimp only at hrun
  split at hrun
  · cases hrun
    rfl
  split at hrun
  · cases hrun
    rfl
  obtain ⟨ppa, -, hrun⟩ := Option.bind_eq_some_iff.mp hrun
  cases hrun
  rfl

theorem unitOf_tunUnbindReq (hrun : tunUnbindReq d k rq mp = some (d', ups)) :
    unitOf d' = unitOf d := by
  obtain ⟨str, -, hrun⟩ := Option.bind_eq_some_iff.mp hrun
  split at hrun
  · cases hrun
    rfl
  split at hrun
  · cases hrun
    rfl
  · cases hrun
    rfl

theorem unitOf_promiscReq {prim : Nat} {on : Bool}
    (hrun : promiscReq order d k rq mp prim on = some (d', ups)) : unitOf d' = unitOf d := by
  obtain ⟨str, -, hrun⟩ := Option.bind_eq_some_iff.mp hrun
  split at hrun
  · cases hrun
    rfl
  split at hrun
  · cases hrun
    rfl
  · cases hrun
    rfl

theorem unitOf_tunPhysaddrReq (hrun : tunPhysaddrReq d k rq mp = some (d', ups)) :
    unitOf d' = unitOf d := by
  obtain ⟨str, -, hrun⟩ := Option.bind_eq_some_iff.mp hrun
  split at hrun
  · cases hrun
    rfl
  split at hrun
  · cases hrun
    rfl
  obtain ⟨ppa, -, hrun⟩ := Option.bind_eq_some_iff.mp hrun
  cases hrun
  rfl

theorem unitOf_tunSetPhysaddrReq (hrun : tunSetPhysaddrReq d k rq mp = some (d', ups)) :
    unitOf d' = unitOf d := by
  obtain ⟨str, -, hrun⟩ := Option.bind_eq_some_iff.mp hrun
  obtain ⟨a, -, hrun⟩ := Option.bind_eq_some_iff.mp hrun
  obtain ⟨ppa, hppa, hrun⟩ := Option.bind_eq_some_iff.mp hrun
  obtain ⟨addr, -, hrun⟩ := Option.bind_eq_some_iff.mp hrun
  cases hrun
  exact unitOf_insert hppa { ppa with etheraddr := addr } rfl rfl d.streams

/-- No request makes a unit or ends one. -/
theorem unitOf_tunDlpi (hrun : tunDlpi order d k rq mp = some (d', ups)) :
    unitOf d' = unitOf d := by
  obtain ⟨prim, -, hrun⟩ := Option.bind_eq_some_iff.mp hrun
  let Kept (r : Option (Driver × Ups)) : Prop := r = some (d', ups) → unitOf d' = unitOf d
  have hkept : ∀ ups', Kept (some (d, ups')) := by
    intro ups' heq
    cases heq
    rfl
  revert hrun
  refine iteInduction (motive := Kept) (fun _ => unitOf_tunInfoReq) fun _ => ?_
  refine iteInduction (motive := Kept) (fun _ => unitOf_tunAttachReq) fun _ => ?_
  refine iteInduction (motive := Kept) (fun _ => unitOf_tunDetachReq) fun _ => ?_
  refine iteInduction (motive := Kept) (fun _ => unitOf_tunBindReq) fun _ => ?_
  refine iteInduction (motive := Kept) (fun _ => unitOf_tunUnbindReq) fun _ => ?_
  refine iteInduction (motive := Kept) (fun _ => unitOf_promiscReq) fun _ => ?_
  refine iteInduction (motive := Kept) (fun _ => unitOf_promiscReq) fun _ => ?_
  refine iteInduction (motive := Kept) (fun _ => unitOf_tunPhysaddrReq) fun _ => ?_
  refine iteInduction (motive := Kept) (fun _ => unitOf_tunSetPhysaddrReq) fun _ => ?_
  exact iteInduction (motive := Kept) (fun _ => hkept _) fun _ => hkept _

theorem unitOf_tunIoctl {ioc : Ioctl} (hioc : ∀ arg, ioc ≠ .tunnewppa arg)
    (hrun : tunIoctl d k rq ioc = some (d', ups)) : unitOf d' = unitOf d := by
  obtain ⟨str, -, hrun⟩ := Option.bind_eq_some_iff.mp hrun
  cases ioc with
  | tunnewppa arg => exact absurd rfl (hioc arg)
  | tunsetppa arg =>
      obtain ⟨p, -, hrun⟩ := Option.bind_eq_some_iff.mp hrun
      split at hrun
      · cases hrun
        rfl
      obtain ⟨entry, -, hrun⟩ := Option.bind_eq_some_iff.mp hrun
      split at hrun
      · cases hrun
        rfl
      obtain ⟨d₁, hattach, hrun⟩ := Option.bind_eq_some_iff.mp hrun
      cases hrun
      exact unitOf_attachTo hattach
  | dliocraw =>
      cases hrun
      rfl
  | other =>
      cases hrun
      rfl

theorem unitOf_tunwput {put : Put} (hput : ∀ arg, put ≠ .ioctl (.tunnewppa arg))
    (hrun : tunwput order d k rq put = some (d', ups)) : unitOf d' = unitOf d := by
  cases put with
  | data m => exact unitOf_tunFrame hrun
  | proto high mp cont =>
      obtain ⟨prim, -, hrun⟩ := Option.bind_eq_some_iff.mp hrun
      split at hrun
      · exact unitOf_tunUnitdataReq hrun
      · cases hrun
        rfl
  | ioctl ioc => exact unitOf_tunIoctl (fun arg hioc => hput arg (congrArg Put.ioctl hioc)) hrun
  | flush write read =>
      cases hrun
      rfl
  | other =>
      cases hrun
      rfl

theorem unitOf_tunwsrv (hrun : tunwsrv order d k rq = some (d', ups)) :
    unitOf d' = unitOf d := by
  obtain ⟨str, -, hrun⟩ := Option.bind_eq_some_iff.mp hrun
  split at hrun
  · cases hrun
    rfl
  dsimp only at hrun
  split at hrun
  · have hunit := unitOf_tunFrame hrun
    exact hunit
  · have hunit := unitOf_tunDlpi hrun
    exact hunit

theorem unitOf_tunopen {clone : Bool} {minor n : Nat}
    (hrun : tunopen d rq clone minor = some (d', n)) : unitOf d' = unitOf d := by
  unfold tunopen at hrun
  dsimp only at hrun
  split at hrun
  · obtain ⟨⟨i, prev, next⟩, -, hrun⟩ := Option.bind_eq_some_iff.mp hrun
    obtain ⟨found, -, hrun⟩ := Option.bind_eq_some_iff.mp hrun
    split at hrun
    · cases hrun
      rfl
    obtain ⟨⟨tunStr, streams⟩, -, hrun⟩ := Option.bind_eq_some_iff.mp hrun
    cases hrun
    rfl
  · obtain ⟨found, -, hrun⟩ := Option.bind_eq_some_iff.mp hrun
    split at hrun
    · cases hrun
      rfl
    obtain ⟨⟨tunStr, streams⟩, -, hrun⟩ := Option.bind_eq_some_iff.mp hrun
    cases hrun
    rfl

/-- Units are made by `TUNNEWPPA`, and end when a stream is closed. -/
theorem unitOf_perform {call : Call} (hclose : ∀ rq, call ≠ .close rq)
    (hnew : ∀ rq arg, call ≠ .put rq (.ioctl (.tunnewppa arg)))
    (hrun : perform order d k call = some (d', ups)) : unitOf d' = unitOf d := by
  cases call with
  | openStream rq clone minor =>
      obtain ⟨⟨d₁, n⟩, hopen, heq⟩ := Option.map_eq_some_iff.mp hrun
      cases heq
      exact unitOf_tunopen hopen
  | close rq => exact absurd rfl (hclose rq)
  | put rq put =>
      exact unitOf_tunwput (fun arg hput => hnew rq arg (congrArg (Call.put rq) hput)) hrun
  | serve rq => exact unitOf_tunwsrv hrun

end Keeping

/-! ## Runs -/

/-- Each unit has a control stream, and each control stream a unit.  The number that a stream
is given is one that nobody has, the one it has asked for or the first; and it keeps it from the
others until it is closed. -/
theorem numbers_given_once (order : Endian) : ∀ d, Runs Loaded (CarefulStep order) d →
    (∀ a ppa, d.ppas.lookup a = some ppa → Controls d ppa.rq ppa.id) ∧
    (∀ r r' i, Controls d r i → Controls d r' i → r = r' ∧ i < tunMaxPpa) ∧
    (∀ r i i', Controls d r i → Controls d r i' → i = i') ∧
    (∀ k rq str (p : Int), d.streams.lookup rq = some str → str.ppa = none →
      k.page ∉ d.ppas → p ≠ tunMaxPpa →
      ∃ d' up, tunIoctl d k rq (.tunnewppa (some p)) = some (d', [(rq, up)]) ∧
        Answers d p up ∧
        ∀ r j, Controls d' r j ↔ Controls d r j ∨ r = rq ∧ up = .iocack j) ∧
    (∀ rq, rq ∈ d.streams →
      ∃ d', tunclose d rq = some d' ∧ ∀ r j, Controls d' r j ↔ r ≠ rq ∧ Controls d r j) ∧
    ∀ k call d' ups, Careful order d k call → perform order d k call = some (d', ups) →
      (∀ rq, call ≠ .close rq) → (∀ rq arg, call ≠ .put rq (.ioctl (.tunnewppa arg))) →
      ∀ r j, Controls d' r j ↔ Controls d r j := by
  intro d h
  obtain ⟨strs, members, hL⟩ := linked_of_runs h
  refine ⟨fun a ppa hppa => hL.controls_iff.mpr ⟨a, unitOf_eq hppa⟩,
    fun r r' i hr hr' => ⟨hL.controls_alone hr hr', hL.controls_lt hr⟩,
    fun r i i' hr hr' => hr.unique hr', fun k rq str p hstr hnone hpage hp => ?_,
    fun rq hrq => ?_, fun k call d' ups hc hrun hclose hnew r j => ?_⟩
  · obtain ⟨d', up, hrun, hanswers, hgiven⟩ := hL.newPpa_answers hstr hnone hpage hp
    refine ⟨d', up, hrun, hanswers, fun r j => ?_⟩
    rcases hgiven with ⟨rfl, hnot⟩ | ⟨i, strs', members', rfl, hL', hunit⟩
    · exact ⟨.inl, fun hr => hr.resolve_right fun hack => hnot j hack.2⟩
    · have hfresh : unitOf d k.page = none := by
        rw [unitOf, AList.lookup_eq_none.mpr hpage]
        rfl
      rw [hL.controls_create hL' hfresh hunit, Up.iocack.injEq]
  · obtain ⟨d', strs', members', hrun, hL'⟩ := hL.close hrq
    exact ⟨d', hrun, fun r j => hL.controls_close hL' hrun⟩
  · obtain ⟨d₁, ups₁, strs', members', hrun₁, hL'⟩ := hL.perform hc
    obtain ⟨rfl, -⟩ := Prod.mk.inj (Option.some.inj (hrun₁.symm.trans hrun))
    rw [hL'.controls_iff, hL.controls_iff, unitOf_perform hclose hnew hrun]

/-- Stream 1 becomes the control stream of unit 0, and stream 2 is free. -/
def claimantCalls : List Call :=
  [.openStream 1 true 0, .put 1 (.ioctl (.tunnewppa (some 0))), .openStream 2 true 0]

def claimant (addr : EtherAddr) : Driver :=
  (carefully .little (loadedWith addr) claimantCalls).getD (loadedWith addr)

theorem claimant_runs (addr : EtherAddr) :
    Runs Loaded (CarefulStep .little) (claimant addr) := by
  have hrun : carefully .little (loadedWith addr) claimantCalls = some (claimant addr) := rfl
  exact runs_carefully (.start ⟨rfl, rfl, rfl, rfl⟩) hrun

/-- Unit 0 is refused to the second stream, and nobody's when the first is closed. -/
theorem numbers_given_once_two : ∃ d₁ d₂,
    tunIoctl (claimant broadcastaddr) (roomy 9) 2 (.tunnewppa (some 0)) =
      some (d₁, [(2, .iocnak .eexist)]) ∧
    tunclose (claimant broadcastaddr) 1 = some d₂ ∧ ∀ r, ¬ Controls d₂ r 0 := by
  have hcontrols : Controls (claimant broadcastaddr) 1 0 :=
    ⟨_, 1, _, rfl, rfl, rfl, rfl, rfl⟩
  obtain ⟨-, honly, -, hnew, hclose, -⟩ :=
    numbers_given_once .little _ (claimant_runs broadcastaddr)
  obtain ⟨d₁, up, hrun, hanswers, -⟩ := hnew (roomy 9) 2 _ 0 rfl rfl (by decide) (by decide)
  obtain ⟨d₂, hrun', hfreed⟩ := hclose 1 (by decide)
  refine ⟨d₁, d₂, ?_, hrun', fun r hr => ?_⟩
  swap
  · obtain ⟨hne, hold⟩ := (hfreed r 0).mp hr
    exact hne (honly r 1 0 hold hcontrols).1
  rcases hanswers with ⟨i, -, -, hfree, hi⟩ | ⟨rfl, -⟩ | ⟨-, hany, -⟩ | ⟨-, hout⟩
  · obtain rfl : i = 0 := by omega
    exact absurd hcontrols (hfree 1)
  · exact hrun
  · cases hany
  · rcases hout with hlow | hhigh
    · exact absurd hlow (by decide)
    · exact absurd hhigh (by decide)

end TapCfg.SolarisTun
