/-
  Unix/Fields.lean --- the fields a start and a stop write, whatever the system
  answers.

  Source: src/lib/tapcfg_unix.c, lines 94-161, and the functions
  `tapcfg_start_dev` and `tapcfg_stop_dev` of the backends.

  The backends write the name, the address and the descriptors of their own;
  `started`, `status`, `tap_fd` and `ctrl_fd` are written by the generic part
  alone.  A device is started exactly when the control socket, which is opened
  last, has been granted.
-/
import TapCfg.Unix.Hwaddr

set_option autoImplicit false

namespace TapCfg.Unix

open TapCfg.Foundation
open Prog

/-! ## Environments that keep a history -/

/-- Every call is put into the history, and changes nothing else. -/
def Logs (E : Env World Call Call.Ans) : Prop :=
  ∀ w c a w', E w c a w' → w' = w.log ⟨c, a⟩

theorem logs_osEnv (L : Allows) : Logs (osEnv L) := fun _ _ _ _ h => h.2.2

/-- The access leaves `started`, `status`, `tap_fd` and `ctrl_fd`. -/
def KeepsSlots (f : World → Except Fault World) : Prop :=
  ∀ w w', f w = .ok w' → Kept w.cfg w'.cfg

/-- Every access of the program does. -/
abbrev Slots {α : Type} (p : Io α) : Prop := Uses KeepsSlots (fun _ => True) p

section

variable {E : Env World Call Call.Ans} {F : Fault → World → Prop} {w : World}

/-- The rule for a call. -/
theorem sat_logged (hE : Logs E) {c : Call} {Q : c.Ans → World → Prop}
    (hQ : ∀ a, Q a (w.log ⟨c, a⟩)) : Sat E (fun _ => True) Q F (.call c .ret) w := by
  refine ⟨trivial, fun a w' henv => ⟨trivial, ?_⟩⟩
  rw [hE w c a w' henv]
  exact hQ a

theorem slots_modify {f : Tapcfg → Tapcfg} (hf : ∀ cfg, Kept cfg (f cfg)) : Slots (modify f) := by
  refine uses_update fun w w' h => ?_
  cases h
  exact hf w.cfg

theorem slots_load : Slots (load : Io World) := by
  refine uses_load fun w w' h => ?_
  cases h
  exact .refl _

theorem slots_call (c : Call) : Slots (.call c .ret : Io c.Ans) := uses_call trivial

theorem slots_assert (c : Prop) [Decidable c] : Slots (assert c) := by
  unfold assert
  split
  · exact uses_ret ()
  · exact ⟨trivial, trivial⟩

theorem slots_calls {α : Type} {p : Io α} (hp : Uses (· = .ok) (fun _ => True) p) : Slots p := by
  refine hp.mono ?_ fun _ h => h
  rintro f rfl w w' h
  cases h
  exact .refl _

/-- A program that leaves the fields leaves them in every run. -/
theorem Slots.sat {α : Type} {p : Io α} (hE : Logs E) (hp : Slots p) :
    Sat E (fun _ => True) (fun _ w' => Kept w.cfg w'.cfg) (fun _ _ => True) p w := by
  have hkept : Sat E (fun w' => Kept w.cfg w'.cfg) (fun _ w' => Kept w.cfg w'.cfg)
      (fun _ _ => True) p w := by
    refine sat_of_kept hp (fun f hf w₁ w₂ h₁ h => h₁.trans (hf w₁ w₂ h)) ?_ (.refl _)
    intro c _ w₁ a w₂ h₁ henv
    rw [hE w₁ c a w₂ henv]
    exact h₁
  exact hkept.mono (fun _ _ => trivial) (fun _ _ _ h => h) (fun _ _ _ h => h)

end

/-! ## The backends -/

theorem Linux.slots_startDev (ifname : CStr) (fallback : Bool) :
    Slots (Linux.tapcfgStartDev ifname fallback) := by
  unfold Linux.tapcfgStartDev
  refine (slots_call _).bind fun (tapFd : Int) => Uses.unless ?_
  refine (slots_call _).bind fun (first : Reply) => ?_
  have hreply : ∀ {c : Prop} [Decidable c] {fd : Int} {req : Request},
      Slots (if c then ioctl fd req else .ret first) := by
    intro c _ fd req
    split
    · exact slots_call _
    · exact uses_ret _
  refine hreply.bind fun reply => ?_
  split
  · exact (slots_call _).bind fun _ => uses_ret _
  refine (slots_modify fun _ => by exact ⟨rfl, rfl, rfl, rfl⟩).bind fun _ => ?_
  refine (slots_call _).bind fun (s : Int) => ?_
  split
  · exact (slots_call _).bind fun _ => uses_ret _
  refine slots_load.bind fun w => (slots_call _).bind fun (hw : Reply) => ?_
  split
  · exact (slots_call _).bind fun _ => (slots_call _).bind fun _ => uses_ret _
  · refine (slots_modify fun _ => by exact ⟨rfl, rfl, rfl, rfl⟩).bind fun _ => ?_
    exact (slots_call _).bind fun _ => uses_ret _

theorem Bsd.slots_startDev (netbsd : Bool) (ifname : CStr) (fallback : Bool) :
    Slots (Bsd.tapcfgStartDev netbsd ifname fallback) := by
  unfold Bsd.tapcfgStartDev
  refine (slots_calls (callsOnly_openConfigured ifname)).bind fun first => ?_
  have hfound : CallsOnly (if first.1 < 0 ∧ fallback = true then findOther netbsd
      else .ret (some first)) := by
    split
    · exact callsOnly_findOther netbsd
    · exact uses_ret _
  refine (slots_calls hfound).bind fun found => ?_
  cases found with
  | none => exact uses_ret _
  | some found =>
      refine Uses.unless ?_
      refine (slots_modify fun _ => by exact ⟨rfl, rfl, rfl, rfl⟩).bind fun _ => ?_
      refine (slots_call _).bind fun (ifa : Option (List Ifaddr)) => ?_
      cases ifa with
      | none => exact uses_ret _
      | some ifa =>
          exact (slots_modify fun _ => by exact ⟨rfl, rfl, rfl, rfl⟩).bind fun _ => uses_ret _

namespace Solaris

/-- Calls only. -/
abbrev CallsOnly {α : Type} (p : Io α) : Prop := Uses (· = .ok) (fun _ => True) p

theorem callsOnly_call (c : Call) : CallsOnly (.call c .ret : Io c.Ans) := uses_call trivial

/-- A check that goes to the `error:` exit. -/
theorem callsOnly_orError {c : Prop} [Decidable c] {v : Locals} {rest : Io Plumbed}
    (hrest : CallsOnly rest) : CallsOnly (if c then plumbError v else rest) := by
  split
  · exact (rest_plumbError (Y := fun _ => True) trivial).uses.mono (fun _ h => h) fun _ _ => trivial
  · exact hrest

theorem callsOnly_plumbDevice (ppa : Int) : CallsOnly (tapcfgPlumbDevice ppa) := by
  obtain ⟨rest, heq, hrest⟩ := plumbDevice_eq ppa
  rw [heq]
  refine (callsOnly_call _).bind fun (ip : Int) => callsOnly_orError ?_
  refine (callsOnly_call _).bind fun (ip6 : Int) => callsOnly_orError ?_
  refine (callsOnly_call _).bind fun (tap : Int) => callsOnly_orError ?_
  refine (callsOnly_call _).bind fun (newppa : Reply) => callsOnly_orError ?_
  exact (hrest ip ip6 tap newppa).uses.mono (fun _ h => h) fun _ _ => trivial

theorem callsOnly_plumbOther (ppa : Int) (n i : Nat) : CallsOnly (plumbOther ppa n i) := by
  induction n generalizing i with
  | zero => exact uses_ret _
  | succ n ih =>
      unfold plumbOther
      split
      · exact ih (i + 1)
      · refine (callsOnly_plumbDevice i).bind fun plumbed => ?_
        split
        · exact uses_ret _
        · exact ih (i + 1)

theorem callsOnly_plumbNamed (ppa : Int) (fallback : Bool) :
    CallsOnly (plumbNamed ppa fallback) := by
  unfold plumbNamed
  refine (callsOnly_plumbDevice ppa).bind fun plumbed => ?_
  split
  · exact uses_ret _
  split
  · exact callsOnly_plumbOther ppa 16 0
  · exact uses_ret _

theorem slots_startDev (ifname : CStr) (fallback : Bool) :
    Slots (tapcfgStartDev ifname fallback) := by
  unfold tapcfgStartDev
  cases namedPpa ifname fallback with
  | none => exact uses_ret _
  | some ppa =>
      refine (slots_calls (callsOnly_plumbNamed ppa fallback)).bind fun found => ?_
      cases found with
      | none => exact uses_ret _
      | some plumbed =>
          refine (slots_modify fun _ => by exact ⟨rfl, rfl, rfl, rfl⟩).bind fun _ => ?_
          refine (slots_call _).bind fun (addr : Option (List Byte)) => ?_
          have hstore : Slots (modify fun cfg =>
              { cfg with ipFd := plumbed.ipFd, ip6Fd := plumbed.ip6Fd }) :=
            slots_modify fun _ => ⟨rfl, rfl, rfl, rfl⟩
          cases addr with
          | none => exact hstore.bind fun _ => uses_ret _
          | some addr =>
              refine (slots_modify fun _ => by exact ⟨rfl, rfl, rfl, rfl⟩).bind fun _ => ?_
              exact hstore.bind fun _ => uses_ret _

/-- A request that ends the stop when it fails. -/
theorem slots_ioctlOr {fd : Int} {req : Request} {rest : Reply → Io Unit}
    (hrest : ∀ reply, Slots (rest reply)) :
    Slots ((ioctl fd req).bind fun reply => if reply.ret < 0 then .ret () else rest reply) :=
  (slots_call _).bind fun (reply : Reply) => (hrest reply).unless

theorem slots_stopDev : Slots tapcfgStopDev := by
  unfold tapcfgStopDev
  refine slots_load.bind fun w => ?_
  refine (slots_assert _).bind fun _ => (slots_assert _).bind fun _ => ?_
  refine slots_ioctlOr fun _ => ?_
  refine slots_ioctlOr fun _ => ?_
  refine slots_ioctlOr fun _ => ?_
  refine slots_ioctlOr fun _ => ?_
  refine slots_ioctlOr fun _ => ?_
  refine slots_ioctlOr fun _ => ?_
  refine slots_ioctlOr fun _ => ?_
  refine (slots_call _).bind fun _ => ?_
  refine (slots_modify fun _ => by exact ⟨rfl, rfl, rfl, rfl⟩).bind fun _ => ?_
  refine (slots_call _).bind fun _ => ?_
  exact slots_modify fun _ => ⟨rfl, rfl, rfl, rfl⟩

end Solaris

theorem slots_startDev (b : Backend) (ifname : CStr) (fallback : Bool) :
    Slots (tapcfgStartDev b ifname fallback) := by
  cases b with
  | linux => exact Linux.slots_startDev ifname fallback
  | bsd => exact Bsd.slots_startDev false ifname fallback
  | netbsd => exact Bsd.slots_startDev true ifname fallback
  | solaris => exact Solaris.slots_startDev ifname fallback

theorem slots_stopDev (b : Backend) : Slots (tapcfgStopDev b) := by
  cases b with
  | linux => exact uses_ret ()
  | bsd => exact uses_ret ()
  | netbsd => exact uses_ret ()
  | solaris => exact Solaris.slots_stopDev

/-! ## A start and a stop -/

/-- What a start leaves in the fields. -/
inductive Starts (w : World) : Int → World → Prop where
  /-- the device is started already -/
  | already (hup : w.cfg.started = true) : Starts w 0 w
  | failed {w' : World} (hidle : w.cfg.started = false) (hidle' : w'.cfg.started = false)
      (hstatus : w'.cfg.status = w.cfg.status)
      (htap : w'.cfg.tapFd = -1 ∨ w'.cfg.tapFd = w.cfg.tapFd) : Starts w (-1) w'
  /-- the control socket is opened last -/
  | done {w₁ w' : World} {fd ctrlFd : Int} (hidle : w.cfg.started = false) (hfd : 0 ≤ fd)
      (hctrl : ctrlFd ≠ -1) (hhist : w'.hist = w₁.hist ++ [⟨.socket .control, ctrlFd⟩])
      (hcfg : w'.cfg = { w₁.cfg with
        tapFd := fd, ctrlFd := ctrlFd, started := true, status := statusAllDown }) : Starts w 0 w'

section

variable {E : Env World Call Call.Ans} {b : Backend} {w : World}

theorem sat_starts (hE : Logs E) (ifname : Option CStr) (fallback : Bool) :
    Sat E (fun _ => True) (Starts w) (fun _ _ => True) (tapcfgStart b ifname fallback) w := by
  unfold tapcfgStart
  refine sat_bind (sat_load trivial ?_)
  by_cases hup : w.cfg.started = true
  · rw [if_pos hup]
    exact sat_ret trivial (.already hup)
  rw [if_neg hup]
  have hidle : w.cfg.started = false := eq_false_of_ne_true hup
  refine sat_seq ((slots_startDev b _ _).sat hE) fun fd w₁ h₁ => ?_
  have hidle₁ : w₁.cfg.started = false := h₁.started.trans hidle
  split
  · have hfailed : ∀ {w'}, Kept w₁.cfg { w'.cfg with tapFd := w₁.cfg.tapFd } →
        w'.cfg.tapFd = -1 → Starts w (-1) w' := by
      intro w' h htap
      exact .failed hidle (h.started.trans hidle₁) (h.status.trans h₁.status) (.inl htap)
    unfold startError
    refine sat_bind (sat_modify ?_)
    split
    · refine sat_bind (sat_logged hE fun _ => sat_bind (sat_modify (sat_ret trivial ?_)))
      exact hfailed ⟨rfl, rfl, rfl, rfl⟩ rfl
    · refine sat_bind (sat_modify (sat_ret trivial ?_))
      exact hfailed ⟨rfl, rfl, rfl, rfl⟩ rfl
  · refine sat_bind (sat_logged hE fun (ctrlFd : Int) => ?_)
    split
    · exact sat_ret trivial (.failed hidle hidle₁ h₁.status (.inr h₁.tapFd))
    · refine sat_bind (sat_modify (sat_ret trivial ?_))
      exact .done hidle (by omega) ‹_› rfl rfl

/-- What a stop leaves in the fields. -/
inductive Stops (w : World) : World → Prop where
  | idle (hidle : w.cfg.started = false) : Stops w w
  | done {w' : World} (hup : w.cfg.started = true) (hidle : w'.cfg.started = false)
      (htap : w'.cfg.tapFd = -1) (hstatus : w'.cfg.status = statusAllDown) : Stops w w'

/-- What the closing of a field leaves. -/
theorem sat_closes (hE : Logs E) {fd : Tapcfg → Int} {clear : Tapcfg → Tapcfg} :
    Sat E (fun _ => True)
      (fun _ w' => (fd w.cfg = -1 ∧ w'.cfg = w.cfg) ∨ w'.cfg = clear w.cfg) (fun _ _ => True)
      (closeField fd clear) w := by
  unfold closeField
  refine sat_bind (sat_load trivial ?_)
  split
  · exact sat_bind (sat_logged hE fun _ => sat_modify (.inr rfl))
  · exact sat_ret trivial (.inl ⟨not_not.mp ‹_›, rfl⟩)

theorem sat_stops (hE : Logs E) :
    Sat E (fun _ => True) (fun _ => Stops w) (fun _ _ => True) (tapcfgStop b) w := by
  unfold tapcfgStop
  refine sat_bind (sat_load trivial ?_)
  by_cases hup : w.cfg.started = true
  · rw [if_pos hup]
    refine sat_seq ((slots_stopDev b).sat hE) fun _ w₁ _ => ?_
    refine sat_seq (sat_closes hE) fun _ w₂ h₂ => ?_
    refine sat_seq (sat_closes hE) fun _ w₃ h₃ => ?_
    refine sat_modify (.done hup rfl ?_ rfl)
    -- neither way of closing the other field touches `tap_fd`
    have htap₂ : w₂.cfg.tapFd = -1 := by
      rcases h₂ with ⟨hnone, hcfg⟩ | hcfg
      · rw [hcfg, hnone]
      · rw [hcfg]
    show w₃.cfg.tapFd = -1
    rcases h₃ with ⟨-, hcfg⟩ | hcfg
    · rw [hcfg, htap₂]
    · rw [hcfg, htap₂]
  · rw [if_neg hup]
    exact sat_ret trivial (.idle (eq_false_of_ne_true hup))

end

end TapCfg.Unix
