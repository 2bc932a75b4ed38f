/-
  Unix/Naming.lean --- the name a Linux device is started under.

  Source: src/lib/tapcfg_unix_linux.h, lines 26-64, and src/lib/tapcfg_unix.c,
  lines 94-141.

  A name of `IFNAMSIZ` bytes or more is not copied into the request, and the
  request is made all the same: without a name it creates another interface.
  The fallback flag is not looked at there.
-/
import TapCfg.Unix.Hwaddr
import TapCfg.Unix.Fallback

set_option autoImplicit false

namespace TapCfg.Unix.Linux

open TapCfg.Foundation
open Prog

/-- What `TUNSETIFF` does with a name: one of at most 15 bytes is that of the interface
it attaches, and without a name it creates an interface `tapN`. -/
def TunNames : Event → Prop
  | ⟨.ioctl _ (.tunsetiff ifr), reply⟩ => Reply.ret reply ≠ -1 →
      (ifr.name = [] → ∃ n : Nat, (Reply.ifr reply).name = "tap".toList ++ Nat.toDigits 10 n) ∧
      (ifr.name ≠ [] → ifr.name.length ≤ maxIfname → '%' ∉ ifr.name →
        (Reply.ifr reply).name = ifr.name)
  | _ => True

/-- `TUNSETIFF` attaches the interface of this name. -/
def Attaching (K : Kernel .linux) (L : World → Event → Prop) (ifname : CStr) : Prop :=
  ∃ (w : World) (fd : Int) (ifr : Ifreq) (reply : Reply),
    K.Truthful w.hist ⟨.ioctl fd (.tunsetiff ifr), reply⟩ ∧
      L w ⟨.ioctl fd (.tunsetiff ifr), reply⟩ ∧ reply.ret ≠ -1 ∧ reply.ifr.name = ifname

/-- A start that has succeeded has opened just the interface it was asked for; when there is
no way to attach it, the start has failed. -/
structure Opened (K : Kernel .linux) (L : World → Event → Prop) (ifname : CStr) (r : Int)
    (w : World) : Prop where
  named : 0 ≤ r → tapcfgGetIfname w.cfg = some ifname
  behind : 0 ≤ r → K.behind w.hist w.cfg.tapFd = ifname
  withheld : ¬ Attaching K L ifname → r < 0

/-- The name in the first request. -/
def requested (ifname : CStr) : CStr :=
  if ifname.length < ifnamsiz then ifname.take (ifnamsiz - 1) else []

theorem requested_of_le {ifname : CStr} (h : ifname.length ≤ maxIfname) :
    requested ifname = ifname := by
  have hlt : ifname.length < ifnamsiz := Nat.lt_succ_of_le h
  rw [requested, if_pos hlt]
  exact List.take_of_length_le h

section

variable {K : Kernel .linux} {L : World → Event → Prop} {F : Fault → World → Prop} {w : World}

/-- A request for the name has been answered. -/
structure Answered (K : Kernel .linux) (L : World → Event → Prop) (name : CStr) (cfg : Tapcfg) :
    Prop where
  asked : ∃ (w : World) (fd : Int) (ifr : Ifreq) (reply : Reply), ifr.name = name ∧
    K.Truthful w.hist ⟨.ioctl fd (.tunsetiff ifr), reply⟩ ∧
      L w ⟨.ioctl fd (.tunsetiff ifr), reply⟩ ∧ reply.ret ≠ -1 ∧ cfg.ifname = reply.ifr.name

/-- Without the fallback flag the name stored is the one the first request is answered. -/
theorem startDev_answered (ifname : CStr) (w : World) :
    Sat (sysEnv K L) (fun _ => True) (fun fd w' => 0 ≤ fd → Answered K L (requested ifname) w'.cfg)
      F (tapcfgStartDev ifname false) w := by
  unfold tapcfgStartDev
  refine sat_bind (sat_ask fun (tapFd : Int) _ _ _ => ?_)
  split
  · exact sat_ret trivial fun h => absurd h (by decide)
  refine sat_bind (sat_ask fun (first : Reply) _ htrue hL => ?_)
  rw [if_neg (by simp)]
  refine sat_bind (sat_ret trivial ?_)
  split
  · exact sat_bind (sat_ask fun _ _ _ _ => sat_ret trivial fun h => absurd h (by decide))
  have hanswered : ∀ {cfg : Tapcfg}, cfg.ifname = first.ifr.name.take ifnamsiz →
      Answered K L (requested ifname) cfg := by
    intro cfg hcfg
    have hlt : first.ifr.name.length < ifnamsiz := htrue ‹_›
    rw [List.take_of_length_le (Nat.le_of_lt hlt)] at hcfg
    exact ⟨_, _, _, first, rfl, htrue, hL, ‹_›, hcfg⟩
  refine sat_bind (sat_modify (sat_bind (sat_ask fun (s : Int) _ _ _ => ?_)))
  split
  · exact sat_bind (sat_ask fun _ _ _ _ => sat_ret trivial fun h => absurd h (by decide))
  refine sat_bind (sat_load trivial (sat_bind (sat_ask fun (hw : Reply) _ _ _ => ?_)))
  split
  · refine sat_bind (sat_ask fun _ _ _ _ => sat_bind (sat_ask fun _ _ _ _ => ?_))
    exact sat_ret trivial fun h => absurd h (by decide)
  · refine sat_bind (sat_modify (sat_bind (sat_ask fun _ _ _ _ => sat_ret trivial fun _ => ?_)))
    exact hanswered rfl

/-- What a start leaves: it has failed, or the device that `tapcfg_start_dev` has opened. -/
theorem start_opens {Q : Int → World → Prop} {ifname : CStr} (hidle : w.cfg.started = false)
    (hdev : Sat (sysEnv K L) (fun _ => True) Q F (tapcfgStartDev ifname false) w) :
    Sat (sysEnv K L) (fun _ => True)
      (fun r w' => r = -1 ∨ ∃ fd ctrlFd w₁, 0 ≤ fd ∧ Q fd w₁ ∧
        w'.cfg = { w₁.cfg with
          tapFd := fd, ctrlFd := ctrlFd, started := true, status := statusAllDown } ∧
        w'.hist = w₁.hist ++ [⟨.socket .control, ctrlFd⟩])
      F (tapcfgStart .linux (some ifname) false) w := by
  unfold tapcfgStart
  refine sat_bind (sat_load trivial ?_)
  rw [if_neg (by simp [hidle])]
  refine sat_seq hdev fun fd w₁ h₁ => ?_
  split
  · unfold startError
    refine sat_bind (sat_modify ?_)
    split
    · exact sat_bind (sat_ask fun _ _ _ _ =>
        sat_bind (sat_modify (sat_ret trivial (.inl rfl))))
    · exact sat_bind (sat_modify (sat_ret trivial (.inl rfl)))
  · refine sat_bind (sat_ask fun (ctrlFd : Int) _ _ _ => ?_)
    split
    · exact sat_ret trivial (.inl rfl)
    · refine sat_bind (sat_modify (sat_ret trivial (.inr ?_)))
      exact ⟨fd, ctrlFd, w₁, by omega, h₁, rfl, rfl⟩

/-- A name of at most 15 bytes is that of the interface that is opened. -/
theorem start_opened {ifname : CStr} (hL : ∀ w e, L w e → TunNames e) (hne : ifname ≠ [])
    (hformat : '%' ∉ ifname) (hlen : ifname.length ≤ maxIfname) (hidle : w.cfg.started = false) :
    Sat (sysEnv K L) (fun _ => True) (Opened K L ifname) (fun _ _ => True)
      (tapcfgStart .linux (some ifname) false) w := by
  have hdev := (startDev_answered (K := K) (L := L) (F := fun _ _ => True) ifname w).and
    (startDev_named (K := K) (L := L) (F := fun _ _ => True) ifname false w)
  have hboth : Sat (sysEnv K L) (fun _ => True) _ (fun _ _ => True) _ w :=
    hdev.mono (fun _ _ => trivial) (fun _ _ _ h => h) fun _ _ _ _ => trivial
  refine (start_opens hidle hboth).post fun r w' h => ?_
  rcases h with rfl | ⟨fd, ctrlFd, w₁, hfd, ⟨hanswered, hbehind⟩, hcfg, hhist⟩
  · exact ⟨fun h => absurd h (by decide), fun h => absurd h (by decide), fun _ => by decide⟩
  obtain ⟨v, fd', ifr, reply, hifr, htrue, hallowed, hret, hname⟩ := (hanswered hfd).asked
  rw [requested_of_le hlen] at hifr
  -- the name in the request is not empty, so the reply has it
  have hreply : reply.ifr.name = ifname := by
    have hnames := (hL v _ hallowed hret).2
    rw [hifr] at hnames
    exact hnames hne hlen hformat
  have hifname : w₁.cfg.ifname = ifname := hname.trans hreply
  have hkept : K.behind w'.hist fd = K.behind w₁.hist fd := by
    rw [hhist]
    exact K.behind_kept _ _ _ fun h => h
  refine ⟨fun _ => ?_, fun _ => ?_, fun hnone => absurd ⟨v, fd', ifr, reply, htrue, hallowed, hret,
    hreply⟩ hnone⟩
  · rw [hcfg]
    exact congrArg some hifname
  · rw [hcfg]
    exact hkept.trans ((hbehind hfd).trans hifname)

end

/-- A longer name makes no difference to a start. -/
theorem start_long {ifname : CStr} (hlen : maxIfname < ifname.length) :
    tapcfgStart .linux (some ifname) false = tapcfgStart .linux (some []) false := by
  have hdev : tapcfgStartDev ifname false = tapcfgStartDev [] false := by
    have hlong : ¬ ifname.length < ifnamsiz := Nat.not_lt.mpr hlen
    unfold tapcfgStartDev
    rw [if_neg hlong, if_pos (by decide), List.take_nil]
  unfold tapcfgStart
  show (load.bind fun w => if w.cfg.started = true then .ret 0 else
    (tapcfgStartDev ifname false).bind _) = _
  rw [hdev]
  rfl

/-! ## A system that attaches what is asked for -/

/-- The interface a request attaches. -/
def echoName (name : CStr) : CStr := if name = [] then "tap0".toList else name.take maxIfname

def echoReply (h : List Event) (fd : Int) (ifr : Ifreq) : Reply :=
  if IsOpen h fd then { ret := 0, ifr := { name := echoName ifr.name } } else { ret := -1 }

/-- Its answers. -/
def echo (w : World) : (c : Call) → c.Ans
  | .ioctl fd (.tunsetiff ifr) => echoReply w.hist fd ifr
  | c => tell (plainKernel .linux) false w c

/-- That system. -/
def echoing : Responder World Call Call.Ans := fun w c => (echo w c, w.log ⟨c, echo w c⟩)

/-- Its answers are what `TUNSETIFF` is to do. -/
abbrev Names : World → Event → Prop := fun _ e => TunNames e

theorem echoName_length (name : CStr) : (echoName name).length < ifnamsiz := by
  unfold echoName
  split
  · decide
  · exact Nat.lt_succ_of_le (List.length_take_le _ _)

theorem echoReply_name {h : List Event} {fd : Int} {ifr : Ifreq}
    (hret : (echoReply h fd ifr).ret ≠ -1) : (echoReply h fd ifr).ifr.name = echoName ifr.name := by
  unfold echoReply at hret ⊢
  split at hret
  · rw [if_pos ‹_›]
  · exact absurd rfl hret

theorem echo_names (w : World) (c : Call) : Names w ⟨c, echo w c⟩ := by
  cases c with
  | ioctl fd req =>
      cases req with
      | tunsetiff ifr =>
          intro hret
          have hname : (echoReply w.hist fd ifr).ifr.name = echoName ifr.name :=
            echoReply_name hret
          refine ⟨fun hnone => ⟨0, ?_⟩, fun hsome hlen _ => ?_⟩
          · exact hname.trans (if_pos hnone)
          · exact hname.trans ((if_neg hsome).trans (List.take_of_length_le hlen))
      | _ => trivial
  | _ => trivial

theorem echoing_follows : Follows echoing (sysEnv (plainKernel .linux) Names) := by
  intro w c
  have htold : Credible w.hist ⟨c, tell (plainKernel .linux) false w c⟩ ∧
      (plainKernel .linux).Truthful w.hist ⟨c, tell (plainKernel .linux) false w c⟩ :=
    have hfollows := telling_follows (K := plainKernel .linux) (L := fun _ _ => True)
      (fun _ _ => trivial) w c
    ⟨hfollows.1, hfollows.2.1⟩
  have hboth : Credible w.hist ⟨c, echo w c⟩ ∧
      (plainKernel .linux).Truthful w.hist ⟨c, echo w c⟩ := by
    cases c with
    | ioctl fd req =>
        cases req with
        | tunsetiff ifr =>
            refine ⟨?_, fun hret => ?_⟩
            · show (echoReply w.hist fd ifr).ret = -1 ∨
                (0 ≤ (echoReply w.hist fd ifr).ret ∧ IsOpen w.hist fd)
              unfold echoReply
              split
              · exact .inr ⟨Int.le_refl 0, ‹_›⟩
              · exact .inl rfl
            · exact (congrArg List.length (echoReply_name hret)).trans_lt (echoName_length _)
        | _ => exact htold
    | _ => exact htold
  exact ⟨hboth.1, hboth.2, echo_names w c, rfl⟩

/-- A start of a new object on that system. -/
def echoStart (ifname : CStr) : Except Fault Int × World :=
  (tapcfgStart .linux (some ifname) false).run echoing initialWorld

theorem echoStart_reaches {ifname : CStr} (h : (echoStart ifname).1 = .ok 0) :
    Reaches (sysEnv (plainKernel .linux) Names)
      (tapcfgStart .linux (some ifname) false, initialWorld) (.ret 0, (echoStart ifname).2) :=
  reaches_run echoing_follows (Prod.ext h rfl)

/-- A start on a longer name succeeds there, with `tap0`. -/
theorem echoStart_long {ifname : CStr} (hlen : maxIfname < ifname.length) :
    (echoStart ifname).1 = .ok 0 ∧
      tapcfgGetIfname (echoStart ifname).2.cfg = some "tap0".toList := by
  unfold echoStart
  rw [start_long hlen]
  decide +kernel

/-! ## The name asked for -/

/-- Every start without the fallback flag opens just the interface of this name. -/
def OpensOnly (ifname : CStr) : Prop :=
  ∀ (K : Kernel .linux) (L : World → Event → Prop), (∀ w e, L w e → TunNames e) →
    ∀ w : World, w.cfg.started = false → ∀ r w',
      Reaches (sysEnv K L) (tapcfgStart .linux (some ifname) false, w) (.ret r, w') →
        Opened K L ifname r w'

theorem not_opensOnly {ifname : CStr} (hlen : maxIfname < ifname.length) : ¬ OpensOnly ifname := by
  intro h
  obtain ⟨hzero, htap0⟩ := echoStart_long hlen
  have hopened := h _ _ (fun _ _ hL => hL) initialWorld rfl 0 _ (echoStart_reaches hzero)
  cases htap0.symm.trans (hopened.named (Int.le_refl 0))
  exact absurd hlen (by decide)

/-- Without the fallback flag a start opens just the interface it is asked for, or fails,
whatever the system has and answers: exactly when the name has at most 15 bytes. -/
theorem name_kept (ifname : CStr) (hne : ifname ≠ []) (hformat : '%' ∉ ifname) :
    OpensOnly ifname ↔ ifname.length ≤ maxIfname := by
  constructor
  · intro h
    by_contra hlong
    exact not_opensOnly (Nat.not_le.mp hlong) h
  · intro hlen K L hL w hidle r w' hr
    exact ((start_opened hL hne hformat hlen hidle).reaches hr).2

/-- A start on `tap5`. -/
theorem name_kept_tap5 :
    OpensOnly "tap5".toList ∧
      tapcfgGetIfname (echoStart "tap5".toList).2.cfg = some "tap5".toList := by
  have hopens : OpensOnly "tap5".toList :=
    (name_kept "tap5".toList (by decide) (by decide)).mpr (by decide)
  have hzero : (echoStart "tap5".toList).1 = .ok 0 := by decide +kernel
  have hr := echoStart_reaches hzero
  exact ⟨hopens, (hopens _ _ (fun _ _ hL => hL) initialWorld rfl 0 _ hr).named (Int.le_refl 0)⟩

/-- A name of 16 bytes, which no interface has, and the start succeeds with `tap0`. -/
theorem name_dropped :
    (echoStart "officelan-bridge".toList).1 = .ok 0 ∧
      tapcfgGetIfname (echoStart "officelan-bridge".toList).2.cfg = some "tap0".toList ∧
      ¬ OpensOnly "officelan-bridge".toList :=
  ⟨(echoStart_long (by decide)).1, (echoStart_long (by decide)).2, not_opensOnly (by decide)⟩

end TapCfg.Unix.Linux
