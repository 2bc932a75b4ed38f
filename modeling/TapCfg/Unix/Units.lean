/-
  Unix/Units.lean --- the unit a Solaris device name asks for.

  Source: src/lib/tapcfg_unix_solaris.h, lines 25-305.

  The unit is what `strtol` makes of the text after `tap`, narrowed to an `int`.
  `strtol` takes blanks, a sign, leading zeros and no digit at all, and the check
  of `*endptr` finds nothing wrong with any of them.  `TUNNEWPPA` with -1 grants
  any free unit; the name of the interface is then that of the unit granted, but
  `lifr_ppa` is still -1.

  A driver that grants what it is asked for starts every such text, so the
  condition for a text to be served by its own unit is exact.
-/
import TapCfg.Unix.Fallback
import Mathlib.Data.List.TakeWhile

set_option autoImplicit false

namespace TapCfg.Unix.Solaris

open TapCfg.Foundation
open Prog

/-! ## Numbers and their texts -/

theorem toList_natCast (n : Nat) : (toString (n : Int)).toList = Nat.toDigits 10 n :=
  Nat.toList_repr

theorem toDigits_injective {m n : Nat} (h : Nat.toDigits 10 m = Nat.toDigits 10 n) : m = n := by
  have hof := congrArg (Nat.ofDigitChars 10 · 0) h
  rwa [Nat.ofDigitChars_ten_toDigits, Nat.ofDigitChars_ten_toDigits] at hof

/-- Only `n` itself has the text of a number that is not negative. -/
theorem toList_eq_natCast {z : Int} {n : Nat}
    (h : (toString z).toList = (toString (n : Int)).toList) : z = n := by
  rw [toList_natCast] at h
  cases z with
  | ofNat m => exact congrArg Int.ofNat (toDigits_injective ((toList_natCast m).symm.trans h))
  | negSucc m =>
      have hminus : '-' ∈ Nat.toDigits 10 n := by
        rw [← h]
        show '-' ∈ ("-" ++ (m + 1).repr).toList
        simp
      exact absurd (Nat.isDigit_of_mem_toDigits (by decide) (by decide) hminus) (by decide)

theorem digit_of_mem {n : Nat} {d : Char} (h : d ∈ Nat.toDigits 10 n) : d.isDigit = true :=
  Nat.isDigit_of_mem_toDigits (by decide) (by decide) h

theorem ofDigits_toDigits (n : Nat) : ofDigits (Nat.toDigits 10 n) = n := by
  have hcast : ∀ (ds : List Char) (m : Nat), (∀ d ∈ ds, d.isDigit = true) →
      ds.foldl (fun (k : Int) d => 10 * k + (d.toNat - '0'.toNat)) (m : Int) =
        (Nat.ofDigitChars 10 ds m : Int) := by
    intro ds
    induction ds with
    | nil => intro m _; rfl
    | cons d ds ih =>
        intro m hds
        have hd : '0'.toNat ≤ d.toNat := (Char.isDigit_iff_toNat.mp (hds d List.mem_cons_self)).1
        have hstep : 10 * (m : Int) + ((d.toNat : Int) - ('0'.toNat : Int)) =
            ((10 * m + (d.toNat - '0'.toNat) : Nat) : Int) := by omega
        rw [List.foldl_cons, hstep, Nat.ofDigitChars_cons]
        exact ih _ fun d' hd' => hds d' (List.mem_cons_of_mem d hd')
  have hzero := hcast (Nat.toDigits 10 n) 0 fun _ => digit_of_mem
  rw [Nat.ofDigitChars_ten_toDigits] at hzero
  exact hzero

/-- No digit is a blank or a sign. -/
theorem not_isSpace_of_isDigit {d : Char} (hd : d.isDigit = true) : isSpace d = false := by
  have hblanks : [' ', '\t', '\n', '\x0b', '\x0c', '\r'].all (fun c => !c.isDigit) = true := rfl
  refine decide_eq_false fun hmem => ?_
  have hblank := List.all_eq_true.mp hblanks d hmem
  rw [hd] at hblank
  cases hblank

/-- `strtol` reads the text of a number that is an `int` to its end. -/
theorem strtol_natCast {n : Nat} (hint : n ≤ 0x7fffffff) :
    strtol (toString (n : Int)).toList = ((n : Int), []) := by
  rw [toList_natCast]
  have hdigit : ∀ d ∈ Nat.toDigits 10 n, d.isDigit = true := fun _ => digit_of_mem
  have hvalue := ofDigits_toDigits n
  cases hds : Nat.toDigits 10 n with
  | nil => exact absurd hds Nat.toDigits_ne_nil
  | cons d ds =>
      rw [hds] at hdigit hvalue
      have hd : d.isDigit = true := hdigit d List.mem_cons_self
      have hminus : d ≠ '-' := by
        rintro rfl
        exact absurd hd (by decide)
      have hplus : d ≠ '+' := by
        rintro rfl
        exact absurd hd (by decide)
      have hbody : (d :: ds).dropWhile isSpace = d :: ds :=
        List.dropWhile_cons_of_neg (by simp [not_isSpace_of_isDigit hd])
      have hall : (d :: ds).takeWhile Char.isDigit = d :: ds :=
        List.takeWhile_eq_self_iff.mpr hdigit
      have hend : (d :: ds).dropWhile Char.isDigit = [] := List.dropWhile_eq_nil_iff.mpr hdigit
      have hclamp : clampLong n = n := by
        unfold clampLong
        omega
      have hsign : ¬ some d = some '-' := fun h => hminus (Option.some.inj h)
      unfold strtol
      simp only [hbody, List.head?_cons, if_neg hsign]
      split
      · exact absurd (List.cons.inj ‹_›).1 hminus
      · exact absurd (List.cons.inj ‹_›).1 hplus
      · rw [hall, hend, hvalue, hclamp, if_neg (List.cons_ne_nil d ds)]

theorem toInt_natCast {n : Nat} (hint : n ≤ 0x7fffffff) : toInt n = n :=
  Int.bmod_eq_of_le (by omega) (by omega)

theorem toInt_le (n : Int) : toInt n ≤ 0x7fffffff := by
  have hlt : toInt n < (0x100000000 + 1) / 2 := Int.bmod_lt (by decide)
  omega

/-- Without the fallback flag the text after `tap` is read to its end, or refused. -/
theorem namedPpa_tap (text : CStr) : namedPpa ("tap".toList ++ text) false =
    if (strtol text).2 ≠ [] then none else some (toInt (strtol text).1) := rfl

/-! ## The units of a run -/

/-- The unit a call names. -/
def eventUnit : Event → Option Int
  | ⟨.ioctl _ req, _⟩ => unitOf req
  | _ => none

/-- The units named between two worlds. -/
def unitsAsked (w w' : World) : List Int := (w.since w').filterMap eventUnit

/-- A unit that is asked for by its number is granted or refused; with -1 any may be granted. -/
def PpaGranted : Allows
  | ⟨.ioctl _ (.tunnewppa ppa), reply⟩ =>
      0 ≤ ppa → Reply.ret reply = -1 ∨ Reply.ret reply = ppa
  | _ => True

/-- The text is that of the number `n`, which `TUNNEWPPA` and both `SIOCSLIFNAME` name, and so
does the interface. -/
structure Named (text : CStr) (n : Int) (w w' : World) : Prop where
  text : text = (toString n).toList
  units : unitsAsked w w' = [n, n, n]
  ifname : w'.cfg.ifname = tapName n

/-- Every start on `tap` and this text that succeeds is for the unit of this number. -/
def OwnUnit (text : CStr) : Prop :=
  ∀ (w w' : World) (fd : Int), fd ≠ -1 →
    Reaches (osEnv PpaGranted) (tapcfgStartDev ("tap".toList ++ text) false, w) (.ret fd, w') →
      ∃ n : Int, Named text n w w'

section

variable {ppa : Int} {w₀ w : World} {e : Event} {us : List Int}

/-- These units have been named since. -/
structure Asked (us : List Int) (w₀ w : World) : Prop where
  grows : w₀.hist <+: w.hist
  units : unitsAsked w₀ w = us

theorem Asked.refl (w : World) : Asked [] w w := by
  refine ⟨List.prefix_rfl, ?_⟩
  rw [unitsAsked, World.since, List.drop_length]
  rfl

theorem Asked.log (h : Asked us w₀ w) : Asked (us ++ (eventUnit e).toList) w₀ (w.log e) := by
  refine ⟨grows_log h.grows, ?_⟩
  rw [unitsAsked, since_log h.grows, List.filterMap_append, ← h.units]
  cases he : eventUnit e <;> simp [unitsAsked, he]

theorem Asked.quiet (h : Asked us w₀ w) (he : eventUnit e = none) : Asked us w₀ (w.log e) := by
  have hlog := h.log (e := e)
  rwa [he, Option.toList_none, List.append_nil] at hlog

/-- A unit that is not negative is the only one `tapcfg_plumb_device` names and gets. -/
theorem plumbInv_units (hppa : 0 ≤ ppa) (w₀ : World) :
    PlumbInv (osEnv PpaGranted) ppa (· = ppa)
      (fun plumbed w => plumbed.newppa = -1 ∨ (plumbed.newppa = ppa ∧ Asked [ppa, ppa, ppa] w₀ w))
      (fun _ _ => False) (fun us _ w => Asked us w₀ w) (fun _ _ => True) where
  opened {_ v w s path w' fd} hv _ := by
    rintro ⟨hcred, -, rfl⟩
    have hnew : NewFd w.hist fd := hcred
    exact hnew.imp (fun h => ⟨h, trivial⟩) fun h => ⟨h.1, hv.quiet rfl⟩
  asked {us v w s req w' reply} hv _ _ he := by
    obtain ⟨hret, rfl⟩ := osEnv_ioctl he
    have hlog := hv.log (e := ⟨.ioctl (v.fd s) req, reply⟩)
    exact ⟨hlog, hret.imp_left fun h => ⟨h, trivial⟩⟩
  named {_ v w s w' reply} _ _ := by
    rintro ⟨-, hgranted, rfl⟩ hret
    have hown : reply.ret = -1 ∨ reply.ret = ppa := hgranted hppa
    exact hown.resolve_left (by omega)
  linked {_ v w m w' reply} hv _ _ _ he := by
    obtain ⟨hret, rfl⟩ := osEnv_ioctl he
    exact hret.imp (fun h => ⟨h, trivial⟩) fun h => ⟨h, hv.quiet rfl⟩
  closed hv _ := by
    rintro ⟨-, -, rfl⟩
    exact hv.quiet rfl
  failed _ := by
    refine ((sat_trivial _ _).yields (rest_plumbError (Y := (· = {})) rfl).yields).post ?_
    rintro plumbed w ⟨rfl, -⟩
    exact .inl rfl
  done hv _ hnewppa := .inr ⟨hnewppa, hv⟩

/-- A number that is an `int` starts the unit of this number. -/
theorem startDev_named {n : Nat} (hint : n ≤ 0x7fffffff) (w : World) :
    Sat (osEnv PpaGranted) (fun _ => True)
      (fun fd w' => fd ≠ -1 → Named (toString (n : Int)).toList n w w') (fun _ _ => False)
      (tapcfgStartDev ("tap".toList ++ (toString (n : Int)).toList) false) w := by
  have hnamed : namedPpa ("tap".toList ++ (toString (n : Int)).toList) false = some (n : Int) := by
    rw [namedPpa_tap, strtol_natCast hint, if_neg (not_not_intro rfl), toInt_natCast hint]
  have hifname : (tapName n).take (maxIfname - 1) = tapName n :=
    tapName_take (Int.natCast_nonneg n) (by omega)
  unfold tapcfgStartDev plumbNamed
  rw [hnamed]
  refine sat_bind (sat_seq ((plumbInv_units (Int.natCast_nonneg n) w).sat (.refl w))
    fun plumbed w₁ hplumbed => ?_)
  rcases hplumbed with hfailed | ⟨hnewppa, h₁⟩
  · rw [if_pos ⟨hfailed, rfl⟩]
    exact sat_ret trivial (sat_ret trivial fun h => absurd rfl h)
  have hplumbed : plumbed.newppa ≠ -1 := by omega
  rw [if_neg fun h => hplumbed h.1, if_neg hplumbed]
  refine sat_ret trivial (sat_bind (sat_modify (sat_bind ?_)))
  rw [hnewppa, hifname]
  refine ⟨trivial, fun addr w₂ => ?_⟩
  rintro ⟨-, -, rfl⟩
  have hquery : Asked [n, n, n] w (w₁.log ⟨.getPhysaddr plumbed.tapFd, addr⟩) := h₁.quiet rfl
  refine ⟨trivial, ?_⟩
  cases addr with
  | none =>
      refine sat_bind (sat_modify (sat_ret trivial fun _ => ?_))
      exact ⟨rfl, hquery.units, rfl⟩
  | some addr =>
      refine sat_bind (sat_modify (sat_bind (sat_modify (sat_ret trivial fun _ => ?_))))
      exact ⟨rfl, hquery.units, rfl⟩

end

/-! ## A driver that grants every unit -/

/-- Its answers. -/
def unitAnswer (h : List Event) : (c : Call) → c.Ans
  | .ioctl fd (.tunnewppa ppa) => if IsOpen h fd then { ret := max ppa 0 } else { ret := -1 }
  | c => answer (fun _ => false) h c

/-- That driver. -/
def grantingUnits : Responder World Call Call.Ans := fun w c =>
  (unitAnswer w.hist c, w.log ⟨c, unitAnswer w.hist c⟩)

/-- Its answers and no others. -/
def unitEnv : Env World Call Call.Ans := fun w c a w' =>
  a = unitAnswer w.hist c ∧ w' = w.log ⟨c, a⟩

theorem grantingUnits_unitEnv : Follows grantingUnits unitEnv := fun _ _ => ⟨rfl, rfl⟩

theorem unitAnswer_ioctl {h : List Event} {fd : Int} (req : Request) (hopen : IsOpen h fd) :
    0 ≤ Reply.ret (unitAnswer h (.ioctl fd req)) := by
  have hother : 0 ≤ Reply.ret (grantReply (decide (IsOpen h fd) && !false)) := by
    rw [decide_eq_true hopen]
    decide
  cases req with
  | tunnewppa ppa =>
      show 0 ≤ Reply.ret (if IsOpen h fd then _ else _)
      rw [if_pos hopen]
      exact Int.le_max_right _ _
  | _ => exact hother

theorem grantingUnits_follows : Follows grantingUnits (osEnv PpaGranted) := by
  intro w c
  have hfollows : Follows (granting fun _ => false) (osEnv anyAnswer) :=
    granting_follows fun _ _ => trivial
  have hother : Credible w.hist ⟨c, answer (fun _ => false) w.hist c⟩ := (hfollows w c).1
  cases c with
  | ioctl fd req =>
      cases req with
      | tunnewppa ppa =>
          have hgranted : 0 ≤ ppa → max ppa 0 = ppa := fun h => by omega
          refine ⟨?_, fun hppa => ?_, rfl⟩
          · show Reply.ret (if IsOpen w.hist fd then _ else _) = -1 ∨
              (0 ≤ Reply.ret (if IsOpen w.hist fd then _ else _) ∧ IsOpen w.hist fd)
            split
            · exact .inr ⟨Int.le_max_right _ _, ‹_›⟩
            · exact .inl rfl
          · show Reply.ret (if IsOpen w.hist fd then _ else _) = -1 ∨
              Reply.ret (if IsOpen w.hist fd then _ else _) = ppa
            split
            · exact .inr (hgranted hppa)
            · exact .inl rfl
      | _ => exact ⟨hother, trivial, rfl⟩
  | _ => exact ⟨hother, trivial, rfl⟩

/-- Every unit is plumbed, -1 and other negative ones as unit 0. -/
theorem plumbInv_granted (ppa : Int) :
    PlumbInv unitEnv ppa (· = max ppa 0)
      (fun plumbed _ => plumbed.newppa = max ppa 0 ∧ 0 ≤ plumbed.tapFd) (fun _ _ => False)
      (fun _ v w => Holds v.fds w.hist) (fun _ _ => False) where
  opened {_ v w s path w' fd} hv hempty := by
    rintro ⟨hfd, rfl⟩
    have hnext : fd = (nextFd w.hist : Int) := hfd
    have hnew : 0 ≤ fd := by omega
    refine .inr ⟨hnew, Locals.holds_opened hv hempty (.inr ⟨hnew, ?_⟩)⟩
    rw [hnext]
    exact nextFd_fresh w.hist
  asked {_ v w s req w' reply} hv hs _ := by
    rintro ⟨rfl, rfl⟩
    exact ⟨hv.quiet rfl, .inr (unitAnswer_ioctl req (Locals.isOpen hv s hs))⟩
  named {_ v w s w' reply} hv hs := by
    rintro ⟨rfl, -⟩ _
    show Reply.ret (if IsOpen w.hist (v.fd s) then _ else _) = _
    rw [if_pos (Locals.isOpen hv s hs)]
  linked {_ v w m w' reply} hv hupper _ _ := by
    rintro ⟨rfl, rfl⟩
    refine .inr ⟨unitAnswer_ioctl _ (Locals.isOpen hv m.upper hupper), ?_⟩
    rw [Locals.link_fds]
    exact hv.quiet rfl
  closed hv _ := by
    rintro ⟨-, rfl⟩
    exact Locals.holds_closed hv
  failed h := h.elim
  done hv hdone hnewppa := ⟨hnewppa, hdone.tapFd⟩

/-- Whatever is read to its end is started there. -/
theorem startDev_granted {text : CStr} (hend : (strtol text).2 = []) (w : World)
    (hw : Holds [] w.hist) :
    Sat unitEnv (fun _ => True)
      (fun fd w' => fd ≠ -1 ∧ w'.cfg.ifname = tapName (max (toInt (strtol text).1) 0))
      (fun _ _ => False) (tapcfgStartDev ("tap".toList ++ text) false) w := by
  have hnamed : namedPpa ("tap".toList ++ text) false = some (toInt (strtol text).1) := by
    rw [namedPpa_tap, if_neg (not_not_intro hend)]
  have hbound := toInt_le (strtol text).1
  have hifname := tapName_take (n := max (toInt (strtol text).1) 0) (Int.le_max_right _ _)
    (by omega)
  unfold tapcfgStartDev plumbNamed
  rw [hnamed]
  refine sat_bind (sat_seq ((plumbInv_granted (toInt (strtol text).1)).sat (hw.of_slots rfl))
    fun plumbed w₁ ⟨hnewppa, htap⟩ => ?_)
  have hfailed : plumbed.newppa ≠ -1 := by omega
  have hfd : plumbed.tapFd ≠ -1 := by omega
  rw [if_neg fun h => hfailed h.1, if_neg hfailed]
  refine sat_ret trivial (sat_bind (sat_modify (sat_bind ?_)))
  rw [hnewppa, hifname]
  refine ⟨trivial, fun addr w₂ => ?_⟩
  rintro ⟨rfl, rfl⟩
  exact ⟨trivial, sat_bind (sat_modify (sat_ret trivial ⟨hfd, rfl⟩))⟩

/-- The first start there. -/
def grantedStart (text : CStr) : Except Fault Int × World :=
  (tapcfgStartDev ("tap".toList ++ text) false).run grantingUnits ⟨tapcfgInit, []⟩

theorem grantedStart_succeeds {text : CStr} (hend : (strtol text).2 = []) :
    ∃ fd : Int, fd ≠ -1 ∧
      Reaches (osEnv PpaGranted) (tapcfgStartDev ("tap".toList ++ text) false, ⟨tapcfgInit, []⟩)
        (.ret fd, (grantedStart text).2) ∧
      (grantedStart text).2.cfg.ifname = tapName (max (toInt (strtol text).1) 0) := by
  have hrun := (startDev_granted hend ⟨tapcfgInit, []⟩ ⟨trivial, trivial, .refl _⟩).run
    grantingUnits_unitEnv
  cases hresult : (grantedStart text).1 with
  | ok fd =>
      have heq : (tapcfgStartDev ("tap".toList ++ text) false).run grantingUnits
          ⟨tapcfgInit, []⟩ = (.ok fd, (grantedStart text).2) := Prod.ext hresult rfl
      rw [heq] at hrun
      exact ⟨fd, hrun.1, reaches_run grantingUnits_follows heq, hrun.2⟩
  | error e =>
      have heq : (tapcfgStartDev ("tap".toList ++ text) false).run grantingUnits
          ⟨tapcfgInit, []⟩ = (.error e, (grantedStart text).2) := Prod.ext hresult rfl
      rw [heq] at hrun
      exact hrun.elim

/-- A text that is read to its end, and is served by its own unit, is that of the unit. -/
theorem OwnUnit.text {text : CStr} (hown : OwnUnit text) (hend : (strtol text).2 = []) {m : Nat}
    (hm : max (toInt (strtol text).1) 0 = m) : text = (toString (m : Int)).toList := by
  obtain ⟨fd, hfd, hr, hifname⟩ := grantedStart_succeeds hend
  obtain ⟨n, hnamed⟩ := hown _ _ fd hfd hr
  -- the name is that of the unit granted, which is not negative
  have hname : tapName n = tapName m := hnamed.ifname.symm.trans (hm ▸ hifname)
  have hn : n = m := toList_eq_natCast (List.append_cancel_left hname)
  exact hn ▸ hnamed.text

/-- A start on `tap` and some text succeeds only with the unit of this number, when the driver
grants what it is asked for: exactly when the text is refused, or is that of a number which is
an `int`. -/
theorem ownUnit_iff (text : CStr) : OwnUnit text ↔
    (strtol text).2 ≠ [] ∨ ∃ n : Nat, n ≤ 0x7fffffff ∧ text = (toString n).toList := by
  constructor
  · intro hown
    by_cases hend : (strtol text).2 = []
    · obtain ⟨m, hm⟩ := Int.eq_ofNat_of_zero_le (Int.le_max_right (toInt (strtol text).1) 0)
      have hbound := toInt_le (strtol text).1
      exact .inr ⟨m, by omega, hown.text hend hm⟩
    · exact .inl hend
  · rintro (hend | ⟨n, hint, rfl⟩) w w' fd hfd hr
    · have hrefused : namedPpa ("tap".toList ++ text) false = none := by
        rw [namedPpa_tap, if_pos hend]
      have hsat : Sat (osEnv PpaGranted) (fun _ => True) (fun fd _ => fd = -1) (fun _ _ => False)
          (tapcfgStartDev ("tap".toList ++ text) false) w := by
        unfold tapcfgStartDev
        rw [hrefused]
        exact sat_ret trivial rfl
      exact absurd (hsat.reaches hr).2 hfd
    · exact ⟨n, ((startDev_named hint w).reaches hr).2 hfd⟩

/-- The units the first start asks for. -/
def grantedUnits (text : CStr) : List Int :=
  unitsAsked ⟨tapcfgInit, []⟩ (grantedStart text).2

/-- `tap4294967296` starts unit 0, and `tap-1` a free one whose `lifr_ppa` is -1. -/
theorem startDev_other_unit :
    ((grantedStart "4294967296".toList).1 = .ok 5 ∧
      grantedUnits "4294967296".toList = [0, 0, 0] ∧
      (grantedStart "4294967296".toList).2.cfg.ifname = "tap0".toList ∧
      ¬ OwnUnit "4294967296".toList) ∧
    ((grantedStart "-1".toList).1 = .ok 5 ∧ grantedUnits "-1".toList = [-1, -1, -1] ∧
      (grantedStart "-1".toList).2.cfg.ifname = "tap0".toList ∧ ¬ OwnUnit "-1".toList) := by
  refine ⟨⟨by decide +kernel, by decide +kernel, by decide +kernel, ?_⟩,
    ⟨by decide +kernel, by decide +kernel, by decide +kernel, ?_⟩⟩
  · intro hown
    exact absurd (hown.text (m := 0) (by decide +kernel) (by decide +kernel)) (by decide)
  · intro hown
    exact absurd (hown.text (m := 0) (by decide +kernel) (by decide +kernel)) (by decide)

end TapCfg.Unix.Solaris
