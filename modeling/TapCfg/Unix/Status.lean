/-
  Unix/Status.lean --- the status in the object, and the interface in the system.

  Source: src/lib/tapcfg_unix.c, lines 345-398, and the functions
  `tapcfg_iface_prepare_ipv6` of the backends.

  A new status is two requests on the interface flags, before which the backend
  does what IPv6 needs.  That part tells nobody that it has failed, and nobody
  takes it back when the flags are refused.  `ifaceAfter` is what the system has
  after a history; the interface is down when the device is started.  `Heeded`
  are the calls after which the object and the system agree again.
-/
import TapCfg.Foundation.Runs
import TapCfg.Unix.Fallback
import TapCfg.Unix.Fields

set_option autoImplicit false

namespace TapCfg.Unix

open TapCfg.Foundation
open Prog hiding ret

/-! ## The interface in the system -/

/-- What the system has of the interface, and the `sysctl` variables. -/
structure Iface where
  ipv4Up : Bool
  /-- on Solaris; elsewhere the interface has one set of flags -/
  ipv6Up : Bool
  /-- link-local addresses are acquired on it -/
  attached : Bool
  sysctl : Inet6Code → Int

/-- A device has been started. -/
def Iface.down (k : Iface) : Iface :=
  { k with ipv4Up := false, ipv6Up := false, attached := false }

/-- What a request that succeeds changes. -/
def Iface.requested (k : Iface) : Request → Iface
  | .siocsifflags ifr => { k with ipv4Up := decide (ifr.flags &&& iffUp ≠ 0) }
  | .siocslifflags lifr => { k with ipv6Up := decide (lifr.flags &&& iffUp ≠ 0) }
  | .siocllStart _ => { k with attached := true }
  | _ => k

/-- The control socket, the last thing a start opens. -/
def Iface.opened (k : Iface) (fd : Int) : Iface := if fd = -1 then k else k.down

def Iface.answered (k : Iface) (req : Request) (reply : Reply) : Iface :=
  if reply.ret = -1 then k else k.requested req

def Iface.adjusted (k : Iface) (code : Inet6Code) (newval answer : Int) : Iface :=
  if answer = -1 then k else { k with sysctl := Function.update k.sysctl code newval }

/-- What one event changes. -/
def Iface.after (k : Iface) : Event → Iface
  | ⟨.socket .control, fd⟩ => k.opened fd
  | ⟨.ioctl _ req, reply⟩ => k.answered req reply
  | ⟨.setInet6 code newval, answer⟩ => k.adjusted code newval answer
  | _ => k

/-- What the system has after a history, when the variables were `sysctl` at first. -/
def ifaceAfter (sysctl : Inet6Code → Int) (h : List Event) : Iface :=
  h.foldl Iface.after ⟨false, false, false, sysctl⟩

/-- The value of a variable that IPv6 cannot do with. -/
def Inet6Code.unready : Inet6Code → Int
  | .autoLinklocal => 0
  | .forwarding => 1
  | .acceptRtadv => 0

/-- What IPv6 may need on the BSDs. -/
inductive Feature where
  | var (code : Inet6Code)
  | link
  deriving DecidableEq, Repr

def Feature.Ready : Feature → Iface → Prop
  | .var code, k => k.sysctl code ≠ code.unready
  | .link, k => k.attached = true

/-- What a status with IPv6 needs there. -/
def features (defines : BsdDefines) (flags : Nat) : List Feature :=
  (if defines.autoLinklocal then [.var .autoLinklocal] else []) ++
    (if defines.protoattach then [.link] else []) ++
    if flags &&& statusIpv6Radv ≠ 0 ∧ defines.acceptRtadv = true then
      [.var .forwarding, .var .acceptRtadv]
    else []

/-- IPv6 is prepared. -/
def Prepared (defines : BsdDefines) (flags : Nat) (k : Iface) : Prop :=
  ∀ f ∈ features defines flags, f.Ready k

/-- The interface is what the status asks for. -/
def Agrees (b : Backend) (defines : BsdDefines) (flags : Nat) (k : Iface) : Prop :=
  match b with
  | .linux => k.ipv4Up = decide (flags ≠ 0)
  | .bsd => k.ipv4Up = decide (flags ≠ 0) ∧
      (flags &&& statusIpv6Up ≠ 0 → Prepared defines flags k)
  | .netbsd => k.ipv4Up = decide (flags ≠ 0) ∧
      (flags &&& statusIpv6Up ≠ 0 → Prepared defines flags k)
  | .solaris => k.ipv4Up = decide (flags &&& statusIpv4Up ≠ 0) ∧
      k.ipv6Up = decide (flags &&& statusIpv6Up ≠ 0)

/-! ## What fails -/

/-- A request on the interface flags has failed. -/
def FlagsFail : Event → Prop
  | ⟨.ioctl _ (.siocgifflags _), reply⟩ => Reply.ret reply = -1
  | ⟨.ioctl _ (.siocsifflags _), reply⟩ => Reply.ret reply = -1
  | _ => False

/-- On Solaris a call for the IPv6 flags has failed. -/
def Ipv6Fails : Event → Prop
  | ⟨.socket .inet6, fd⟩ => fd = (-1 : Int)
  | ⟨.ioctl _ (.siocglifflags _), reply⟩ => Reply.ret reply = -1
  | ⟨.ioctl _ (.siocslifflags _), reply⟩ => Reply.ret reply = -1
  | _ => False

/-- On the BSDs a call for the feature has failed. -/
def Fails (f : Feature) : Event → Prop
  | ⟨.getInet6 code, value⟩ => f = .var code ∧ value = (-1 : Int)
  | ⟨.setInet6 code _, answer⟩ => f = .var code ∧ answer = (-1 : Int)
  | ⟨.socket .inet6, fd⟩ => f = .link ∧ fd = (-1 : Int)
  | ⟨.ioctl _ (.siocprotoattachIn6 _), reply⟩ => f = .link ∧ Reply.ret reply ≠ 0
  | ⟨.ioctl _ (.siocllStart _), reply⟩ => f = .link ∧ Reply.ret reply = -1
  | _ => False

/-- The failure of a call for a feature that was not there. -/
def Missed (k : Iface) (e : Event) : Prop := ∃ f, Fails f e ∧ ¬ f.Ready k

/-- The calls `es` of a change of the status, from the interface `k`.  On the BSDs nothing is
missed, or the flags are refused as well.  On Solaris the flags of IPv6 are refused exactly when
those of IPv4 are, unless IPv6 is what is asked for already. -/
def Heeded (b : Backend) (k : Iface) (flags : Nat) (es : List Event) : Prop :=
  match b with
  | .linux => True
  | .bsd => (∃ e ∈ es, FlagsFail e) ∨ ∀ e ∈ es, ¬ Missed k e
  | .netbsd => (∃ e ∈ es, FlagsFail e) ∨ ∀ e ∈ es, ¬ Missed k e
  | .solaris => k.ipv6Up = decide (flags &&& statusIpv6Up ≠ 0) ∨
      ((∃ e ∈ es, Ipv6Fails e) ↔ ∃ e ∈ es, FlagsFail e)

/-- A variable is told as it is, if at all. -/
def TellsInet6 (sysctl : Inet6Code → Int) (w : World) : Event → Prop
  | ⟨.getInet6 code, value⟩ =>
      value = (-1 : Int) ∨ value = (ifaceAfter sysctl w.hist).sysctl code
  | _ => True

/-- The system: it may answer anything credible, and tells its variables. -/
def ifaceEnv (sysctl : Inet6Code → Int) : Env World Call Call.Ans := fun w c a w' =>
  Credible w.hist ⟨c, a⟩ ∧ TellsInet6 sysctl w ⟨c, a⟩ ∧ w' = w.log ⟨c, a⟩

/-! ## The preparation on the BSDs -/

section

variable {k k' k'' : Iface} {es es' : List Event} {fs fs' : List Feature}

/-- What some calls do for the features `fs`: each of them is there if it was, or if no call
for it has failed. -/
structure Prepares (fs : List Feature) (k k' : Iface) (es : List Event) : Prop where
  up : k'.ipv4Up = k.ipv4Up ∧ k'.ipv6Up = k.ipv6Up
  quiet : ∀ e ∈ es, ¬ FlagsFail e
  own : ∀ e ∈ es, ∀ f, Fails f e → f ∈ fs
  ready : ∀ f : Feature, f.Ready k' ↔ f.Ready k ∨ (f ∈ fs ∧ ∀ e ∈ es, ¬ Fails f e)

theorem Prepares.nil (k : Iface) : Prepares [] k k [] where
  up := ⟨rfl, rfl⟩
  quiet _ he := by cases he
  own _ he := by cases he
  ready _ := by simp

/-- One part after the other, for other features. -/
theorem Prepares.append (h : Prepares fs k k' es) (h' : Prepares fs' k' k'' es')
    (hdisj : fs.Disjoint fs') : Prepares (fs ++ fs') k k'' (es ++ es') where
  up := ⟨h'.up.1.trans h.up.1, h'.up.2.trans h.up.2⟩
  quiet e he := by
    rcases List.mem_append.mp he with he | he
    · exact h.quiet e he
    · exact h'.quiet e he
  own e he f hf := by
    rcases List.mem_append.mp he with he | he
    · exact List.mem_append_left _ (h.own e he f hf)
    · exact List.mem_append_right _ (h'.own e he f hf)
  ready f := by
    rw [h'.ready, h.ready]
    constructor
    · rintro ((hready | ⟨hmem, hnone⟩) | ⟨hmem, hnone⟩)
      · exact .inl hready
      · refine .inr ⟨List.mem_append_left _ hmem, fun e he hf => ?_⟩
        rcases List.mem_append.mp he with he | he
        · exact hnone e he hf
        · exact hdisj hmem (h'.own e he f hf)
      · refine .inr ⟨List.mem_append_right _ hmem, fun e he hf => ?_⟩
        rcases List.mem_append.mp he with he | he
        · exact hdisj (h.own e he f hf) hmem
        · exact hnone e he hf
    · rintro (hready | ⟨hmem, hnone⟩)
      · exact .inl (.inl hready)
      · rcases List.mem_append.mp hmem with hmem | hmem
        · exact .inl (.inr ⟨hmem, fun e he => hnone e (List.mem_append_left _ he)⟩)
        · exact .inr ⟨hmem, fun e he => hnone e (List.mem_append_right _ he)⟩

/-- All features are there exactly when none was missed. -/
theorem Prepares.all_ready (h : Prepares fs k k' es) :
    (∀ f ∈ fs, f.Ready k') ↔ ∀ e ∈ es, ¬ Missed k e := by
  constructor
  · rintro hall e he ⟨f, hf, hnot⟩
    rcases (h.ready f).mp (hall f (h.own e he f hf)) with hready | ⟨-, hnone⟩
    · exact hnot hready
    · exact hnone e he hf
  · intro hnone f hf
    refine (h.ready f).mpr ?_
    by_cases hready : f.Ready k
    · exact .inl hready
    · exact .inr ⟨hf, fun e he hfail => hnone e he ⟨f, hfail, hready⟩⟩

end

section

variable {F : Fault → World → Prop} {sysctl : Inet6Code → Int} {defines : BsdDefines}
  {w : World}

theorem logs_ifaceEnv : Logs (ifaceEnv sysctl) := fun _ _ _ _ h => h.2.2

/-- The rule for one call. -/
theorem sat_told {c : Call} {Q : c.Ans → World → Prop}
    (hQ : ∀ a, Credible w.hist ⟨c, a⟩ → TellsInet6 sysctl w ⟨c, a⟩ → Q a (w.log ⟨c, a⟩)) :
    Sat (ifaceEnv sysctl) (fun _ => True) Q F (.call c .ret) w := by
  refine ⟨trivial, ?_⟩
  rintro a w' ⟨hcred, htold, rfl⟩
  exact ⟨trivial, hQ a hcred htold⟩

theorem ifaceAfter_concat (h : List Event) (e : Event) :
    ifaceAfter sysctl (h ++ [e]) = (ifaceAfter sysctl h).after e := by
  simp [ifaceAfter]

theorem ifaceAfter_log (e : Event) :
    ifaceAfter sysctl (w.log e).hist = (ifaceAfter sysctl w.hist).after e :=
  ifaceAfter_concat w.hist e

/-- The world after some calls that leave the object. -/
structure Made (w w' : World) (es : List Event) : Prop where
  cfg : w'.cfg = w.cfg
  hist : w'.hist = w.hist ++ es

theorem Made.refl (w : World) : Made w w [] := ⟨rfl, (List.append_nil _).symm⟩

theorem Made.log {w' : World} {es : List Event} (h : Made w w' es) (e : Event) :
    Made w (w'.log e) (es ++ [e]) := by
  refine ⟨h.cfg, ?_⟩
  show w'.hist ++ [e] = _
  rw [h.hist, List.append_assoc]

theorem Made.trans {w' w'' : World} {es es' : List Event} (h : Made w w' es)
    (h' : Made w' w'' es') : Made w w'' (es ++ es') := by
  refine ⟨h'.cfg.trans h.cfg, ?_⟩
  rw [h'.hist, h.hist, List.append_assoc]

/-- A part of the preparation. -/
def Serves (sysctl : Inet6Code → Int) (fs : List Feature) (w w' : World) : Prop :=
  ∃ es, Made w w' es ∧ Prepares fs (ifaceAfter sysctl w.hist) (ifaceAfter sysctl w'.hist) es

theorem Serves.nil (w : World) : Serves sysctl [] w w := ⟨[], .refl w, .nil _⟩

theorem Serves.trans {fs fs' : List Feature} {w' w'' : World} (h : Serves sysctl fs w w')
    (h' : Serves sysctl fs' w' w'') (hdisj : fs.Disjoint fs') :
    Serves sysctl (fs ++ fs') w w'' := by
  obtain ⟨es, hmade, hprepares⟩ := h
  obtain ⟨es', hmade', hprepares'⟩ := h'
  exact ⟨_, hmade.trans hmade', hprepares.append hprepares' hdisj⟩

/-- Calls for one feature that set nothing: it was there, or one of them has failed. -/
theorem Prepares.of_kept {f : Feature} {k k' : Iface} {es : List Event} (hk : k' = k)
    (hquiet : ∀ e ∈ es, ¬ FlagsFail e) (hown : ∀ e ∈ es, ∀ g, Fails g e → g = f)
    (hready : f.Ready k ∨ ∃ e ∈ es, Fails f e) : Prepares [f] k k' es where
  up := by rw [hk]; exact ⟨rfl, rfl⟩
  quiet := hquiet
  own e he g hg := List.mem_singleton.mpr (hown e he g hg)
  ready g := by
    rw [hk]
    constructor
    · exact .inl
    · rintro (hg | ⟨hmem, hnone⟩)
      · exact hg
      · cases List.mem_singleton.mp hmem
        rcases hready with hf | ⟨e, he, hfail⟩
        · exact hf
        · exact absurd hfail (hnone e he)

/-- What is left of a variable that was not ready: the system refuses to set it, or it is. -/
theorem prepares_adjusted {code : Inet6Code} {newval current answer : Int} {k : Iface}
    (hnew : newval ≠ code.unready) (hnone : current ≠ -1) :
    Prepares [.var code] k (k.adjusted code newval answer)
      [⟨.getInet6 code, current⟩, ⟨.setInet6 code newval, answer⟩] := by
  by_cases hanswer : answer = -1
  · refine .of_kept (if_pos hanswer) (by simp [FlagsFail]) ?_
      (.inr ⟨_, List.mem_append_right [_] (List.mem_singleton.mpr rfl), rfl, hanswer⟩)
    simp [Fails]
  · rw [Iface.adjusted, if_neg hanswer]
    refine ⟨⟨rfl, rfl⟩, by simp [FlagsFail], by simp [Fails], fun f => ?_⟩
    cases f with
    | link => simp [Feature.Ready]
    | var other =>
        by_cases hother : other = code
        · subst hother
          simp only [Feature.Ready, Function.update_self, List.mem_singleton, true_and]
          have hgets : ¬ Fails (.var other) ⟨.getInet6 other, current⟩ := fun h => hnone h.2
          have hsets : ¬ Fails (.var other) ⟨.setInet6 other newval, answer⟩ :=
            fun h => hanswer h.2
          refine iff_of_true hnew (.inr ?_)
          simpa using And.intro hgets hsets
        · simp [Feature.Ready, hother]

/-- A variable with the wrong value is set. -/
theorem Bsd.sat_adjustInet6 {code : Inet6Code} {newval : Int} (hnew : newval ≠ code.unready)
    (hunready : code.unready ≠ -1) :
    Sat (ifaceEnv sysctl) (fun _ => True) (fun _ => Serves sysctl [.var code] w) F
      (Bsd.adjustInet6 code code.unready newval) w := by
  unfold Bsd.adjustInet6
  refine sat_bind (sat_told fun (current : Int) _ htold => ?_)
  replace htold : current = -1 ∨ current = (ifaceAfter sysctl w.hist).sysctl code := htold
  have hgot : ifaceAfter sysctl (w.log ⟨.getInet6 code, current⟩).hist = ifaceAfter sysctl w.hist :=
    ifaceAfter_log _
  unfold onlyIf
  by_cases heq : current = code.unready
  · rw [if_pos heq]
    have hnone : current ≠ -1 := heq ▸ hunready
    refine sat_bind (sat_told fun (answer : Int) _ _ => sat_ret trivial ?_)
    have hset : ifaceAfter sysctl ((w.log ⟨.getInet6 code, current⟩).log
        ⟨.setInet6 code newval, answer⟩).hist =
        (ifaceAfter sysctl w.hist).adjusted code newval answer := by
      rw [ifaceAfter_log, hgot]
      rfl
    refine ⟨_, ((Made.refl w).log _).log _, ?_⟩
    rw [hset]
    exact prepares_adjusted hnew hnone
  · rw [if_neg heq]
    refine sat_ret trivial ⟨_, (Made.refl w).log _, ?_⟩
    refine .of_kept hgot (by simp [FlagsFail]) (by simp [Fails]) ?_
    rcases htold with hnone | htold
    · exact .inr ⟨_, List.mem_singleton.mpr rfl, rfl, hnone⟩
    · exact .inl fun hvalue => heq (htold.trans hvalue)

theorem Prepares.closed (k : Iface) (fd : Int) (u : Unit) :
    Prepares [] k k [⟨.close fd, u⟩] where
  up := ⟨rfl, rfl⟩
  quiet := by simp [FlagsFail]
  own := by simp [Fails]
  ready _ := by simp

/-- The last request of the attachment. -/
theorem Bsd.prepares_llStart (k : Iface) (s : Int) {err : Reply} (ack : Reply) (ifname : CStr)
    (hs : 0 ≤ s) (herr : err.ret = 0) :
    Prepares [.link] k (k.answered (.siocllStart ifname) ack)
      [⟨.socket .inet6, s⟩, ⟨.ioctl s (.siocprotoattachIn6 ifname), err⟩,
        ⟨.ioctl s (.siocllStart ifname), ack⟩] := by
  by_cases hack : ack.ret = -1
  · have hfails : Fails .link ⟨.ioctl s (.siocllStart ifname), ack⟩ := ⟨rfl, hack⟩
    exact .of_kept (if_pos hack) (by simp [FlagsFail]) (by simp [Fails])
      (.inr ⟨_, by simp, hfails⟩)
  · rw [Iface.answered, if_neg hack]
    refine ⟨⟨rfl, rfl⟩, by simp [FlagsFail], by simp [Fails], fun f => ?_⟩
    cases f with
    | var code => simp [Feature.Ready, Iface.requested]
    | link =>
        have hne : s ≠ -1 := by omega
        have hopens : ¬ Fails .link ⟨.socket .inet6, s⟩ := fun h => hne h.2
        have hasks : ¬ Fails .link ⟨.ioctl s (.siocprotoattachIn6 ifname), err⟩ :=
          fun h => h.2 herr
        have hacks : ¬ Fails .link ⟨.ioctl s (.siocllStart ifname), ack⟩ := fun h => hack h.2
        refine iff_of_true rfl (.inr ⟨List.mem_singleton.mpr rfl, ?_⟩)
        simpa using ⟨hopens, hasks, hacks⟩

/-- The protocol is attached to the interface. -/
theorem Bsd.sat_attachIpv6 (ifname : CStr) :
    Sat (ifaceEnv sysctl) (fun _ => True)
      (fun _ => Serves sysctl (if defines.protoattach then [.link] else []) w) F
      (Bsd.tapcfgAttachIpv6 defines ifname) w := by
  unfold Bsd.tapcfgAttachIpv6
  split
  · refine sat_bind (sat_told fun (s : Int) hcred _ => ?_)
    replace hcred : s = -1 ∨ 0 ≤ s := hcred.imp_right And.left
    have hopened : ifaceAfter sysctl (w.log ⟨.socket .inet6, s⟩).hist =
        ifaceAfter sysctl w.hist := ifaceAfter_log _
    split
    · have hfails : Fails .link ⟨.socket .inet6, s⟩ := ⟨rfl, (by omega : s = -1)⟩
      refine sat_ret trivial ⟨_, (Made.refl w).log _, ?_⟩
      exact .of_kept hopened (by simp [FlagsFail]) (by simp [Fails]) (.inr ⟨_, by simp, hfails⟩)
    refine sat_bind (sat_told fun (err : Reply) _ _ => ?_)
    have hasked : ifaceAfter sysctl ((w.log ⟨.socket .inet6, s⟩).log
        ⟨.ioctl s (.siocprotoattachIn6 (ifname.take ifnamsiz)), err⟩).hist =
        ifaceAfter sysctl w.hist := by
      rw [ifaceAfter_log, hopened]
      exact ite_self _
    split
    · have hfails : Fails .link ⟨.ioctl s (.siocprotoattachIn6 (ifname.take ifnamsiz)), err⟩ :=
        ⟨rfl, ‹_›⟩
      refine sat_ret trivial ⟨_, ((Made.refl w).log _).log _, ?_⟩
      exact .of_kept hasked (by simp [FlagsFail]) (by simp [Fails]) (.inr ⟨_, by simp, hfails⟩)
    refine sat_bind (sat_told fun (ack : Reply) _ _ => ?_)
    have hstarts := Bsd.prepares_llStart (ifaceAfter sysctl w.hist) s ack (ifname.take ifnamsiz)
      (by omega) (not_not.mp ‹_›)
    have hmade := (((Made.refl w).log ⟨.socket .inet6, s⟩).log
      ⟨.ioctl s (.siocprotoattachIn6 (ifname.take ifnamsiz)), err⟩).log
      ⟨.ioctl s (.siocllStart (ifname.take ifnamsiz)), ack⟩
    split
    · refine sat_ret trivial ⟨_, hmade, ?_⟩
      rw [ifaceAfter_log, hasked]
      exact hstarts
    · refine sat_bind (sat_told fun _ _ _ => sat_ret trivial ⟨_, hmade.log _, ?_⟩)
      rw [ifaceAfter_log, ifaceAfter_log, hasked]
      exact hstarts.append (.closed _ _ _) (by simp)
  · exact sat_ret trivial (.nil w)

/-- A part of the preparation, when the headers define it. -/
theorem sat_servesIf {c : Prop} [Decidable c] {p : Io Unit} {fs : List Feature}
    (hp : Sat (ifaceEnv sysctl) (fun _ => True) (fun _ => Serves sysctl fs w) F p w) :
    Sat (ifaceEnv sysctl) (fun _ => True) (fun _ => Serves sysctl (if c then fs else []) w) F
      (onlyIf c p) w := by
  unfold onlyIf
  split
  · exact hp
  · exact sat_ret trivial (.nil w)

/-- The BSDs prepare what the status needs, when it needs IPv6. -/
theorem Bsd.sat_prepareIpv6 (flags : Nat) :
    Sat (ifaceEnv sysctl) (fun _ => True)
      (fun _ => Serves sysctl (if flags &&& statusIpv6Up ≠ 0 then features defines flags else []) w)
      F (Bsd.tapcfgIfacePrepareIpv6 defines flags) w := by
  unfold Bsd.tapcfgIfacePrepareIpv6
  by_cases hup : flags &&& statusIpv6Up = 0
  · rw [if_pos hup, if_neg (not_not.mpr hup)]
    exact sat_ret trivial (.nil w)
  rw [if_neg hup, if_pos hup, features]
  refine sat_seq (sat_servesIf (sat_adjustInet6 (by decide) (by decide))) fun _ w₁ h₁ => ?_
  refine sat_bind (sat_load trivial ?_)
  refine sat_seq (sat_attachIpv6 w₁.cfg.ifname) fun _ w₂ h₂ => ?_
  have hboth : Serves sysctl _ w w₂ := h₁.trans h₂ (by split <;> split <;> simp)
  by_cases hradv : flags &&& statusIpv6Radv = 0
  · have hnone : ¬ (flags &&& statusIpv6Radv ≠ 0 ∧ defines.acceptRtadv = true) :=
      fun h => h.1 hradv
    rw [if_pos hradv, if_neg hnone, List.append_nil]
    exact sat_ret trivial hboth
  · have hadjusts : Sat (ifaceEnv sysctl) (fun _ => True)
        (fun _ => Serves sysctl [.var .forwarding, .var .acceptRtadv] w₂) F
        ((adjustInet6 .forwarding 1 0).bind fun _ => adjustInet6 .acceptRtadv 0 1) w₂ := by
      refine sat_seq (sat_adjustInet6 (by decide) (by decide)) fun _ w₃ h₃ => ?_
      refine (sat_adjustInet6 (by decide) (by decide)).post fun _ w₄ h₄ => ?_
      exact h₃.trans h₄ (by simp)
    rw [if_neg hradv]
    refine (sat_servesIf hadjusts).post fun _ w₃ h₃ => ?_
    have hall := hboth.trans h₃ (by split <;> split <;> split <;> simp)
    simpa [hradv] using hall

/-! ## The preparation on every backend -/

/-- What the calls `es` before those for the flags do. -/
structure Readies (b : Backend) (defines : BsdDefines) (flags : Nat) (k k' : Iface)
    (es : List Event) : Prop where
  ipv4Up : k'.ipv4Up = k.ipv4Up
  quiet : ∀ e ∈ es, ¬ FlagsFail e
  ipv6Up : b ≠ .solaris → k'.ipv6Up = k.ipv6Up
  grows : b.isBsd = true → ∀ f : Feature, f.Ready k → f.Ready k'
  bsd : b.isBsd = true →
    ((flags &&& statusIpv6Up ≠ 0 → Prepared defines flags k') ↔ ∀ e ∈ es, ¬ Missed k e)
  solaris : b = .solaris → ((∃ e ∈ es, Ipv6Fails e) → k'.ipv6Up = k.ipv6Up) ∧
    ((∀ e ∈ es, ¬ Ipv6Fails e) → k'.ipv6Up = decide (flags &&& statusIpv6Up ≠ 0))

/-- The bits that do not change. -/
theorem and_eq_of_xor {x y all bit : Nat} (h : (x ^^^ y) &&& all = 0) (hbit : bit &&& all = bit) :
    x &&& bit = y &&& bit := by
  refine Nat.eq_of_testBit_eq fun i => ?_
  have hxor := congrArg (Nat.testBit · i) h
  have hmask := congrArg (Nat.testBit · i) hbit
  simp only [Nat.testBit_and, Nat.testBit_xor, Nat.zero_testBit] at *
  revert hxor hmask
  cases x.testBit i <;> cases y.testBit i <;> cases bit.testBit i <;> simp

theorem and_iffUp (n : Nat) : n &&& iffUp ≠ 0 ↔ n.testBit 0 = true := by
  have hmod : n &&& iffUp = n % 2 := Nat.and_one_is_mod n
  rw [hmod, Nat.testBit_zero, decide_eq_true_iff]
  omega

/-- `IFF_UP` after the request. -/
theorem upFlags_up (b : Backend) (flags ifrFlags : Nat) :
    upFlags b flags ifrFlags &&& iffUp ≠ 0 ↔
      if b = .solaris then flags &&& statusIpv4Up ≠ 0 else flags ≠ 0 := by
  rw [and_iffUp]
  unfold upFlags
  split <;> split <;> simp_all [iffUp, iffRunning]

variable {b : Backend} {flags : Nat} {k k' : Iface} {es : List Event}

/-- Nothing is done when no bit for IPv6 changes. -/
theorem Readies.unchanged {status : Nat} (hagrees : Agrees b defines status k)
    (hbits : (flags ^^^ status) &&& statusIpv6All = 0) : Readies b defines flags k k [] := by
  have hup : flags &&& statusIpv6Up = status &&& statusIpv6Up := and_eq_of_xor hbits (by decide)
  have hradv : flags &&& statusIpv6Radv = status &&& statusIpv6Radv :=
    and_eq_of_xor hbits (by decide)
  refine ⟨rfl, by simp, fun _ => rfl, fun _ _ h => h, fun hb => ?_, fun hb => ⟨fun _ => rfl, ?_⟩⟩
  · refine iff_of_true ?_ (by simp)
    rw [Prepared, features, hup, hradv]
    cases b with
    | linux => cases hb
    | bsd => exact hagrees.2
    | netbsd => exact hagrees.2
    | solaris => cases hb
  · subst hb
    rw [hup]
    exact fun _ => hagrees.2

theorem Prepares.readies (hb : b.isBsd = true)
    (h : Prepares (if flags &&& statusIpv6Up ≠ 0 then features defines flags else []) k k' es) :
    Readies b defines flags k k' es where
  ipv4Up := h.up.1
  quiet := h.quiet
  ipv6Up _ := h.up.2
  grows _ f hf := (h.ready f).mpr (.inl hf)
  bsd _ := by
    rw [← h.all_ready]
    by_cases hup : flags &&& statusIpv6Up ≠ 0
    · rw [if_pos hup]
      exact ⟨fun hready => hready hup, fun hready _ => hready⟩
    · rw [if_neg hup]
      exact iff_of_true (fun h => absurd h hup) (by simp)
  solaris hsol := by
    rw [hsol] at hb
    cases hb

/-- A call fails before the request that sets the flags of IPv6, or this request does. -/
theorem Readies.of_ipv6 (hk : k'.ipv4Up = k.ipv4Up) (hquiet : ∀ e ∈ es, ¬ FlagsFail e)
    (h : (∃ e ∈ es, Ipv6Fails e) ∧ k'.ipv6Up = k.ipv6Up ∨
      (∀ e ∈ es, ¬ Ipv6Fails e) ∧ k'.ipv6Up = decide (flags &&& statusIpv6Up ≠ 0)) :
    Readies .solaris defines flags k k' es where
  ipv4Up := hk
  quiet := hquiet
  ipv6Up hb := absurd rfl hb
  grows hb := by cases hb
  bsd hb := by cases hb
  solaris _ := by
    rcases h with ⟨⟨e, he, hfail⟩, hsame⟩ | ⟨hnone, hset⟩
    · exact ⟨fun _ => hsame, fun hnone => absurd hfail (hnone e he)⟩
    · exact ⟨fun ⟨e, he, hfail⟩ => absurd hfail (hnone e he), fun _ => hset⟩

/-- The calls of Solaris up to the request that sets the flags of IPv6. -/
theorem Solaris.readies_set (k : Iface) {fd : Int} (hfd : fd ≠ -1) {asked lifr : Lifreq}
    {got : Reply} (hgot : got.ret ≠ -1) (set : Reply) (u : Unit)
    (hlifr : lifr.flags &&& iffUp ≠ 0 ↔ flags &&& statusIpv6Up ≠ 0) :
    Readies .solaris defines flags k (k.answered (.siocslifflags lifr) set)
      [⟨.socket .inet6, fd⟩, ⟨.ioctl fd (.siocglifflags asked), got⟩,
        ⟨.ioctl fd (.siocslifflags lifr), set⟩, ⟨.close fd, u⟩] := by
  by_cases hset : set.ret = -1
  · have hfails : Ipv6Fails ⟨.ioctl fd (.siocslifflags lifr), set⟩ := hset
    rw [Iface.answered, if_pos hset]
    exact .of_ipv6 rfl (by simp [FlagsFail]) (.inl ⟨⟨_, by simp, hfails⟩, rfl⟩)
  · have hopens : ¬ Ipv6Fails ⟨.socket .inet6, fd⟩ := hfd
    have hasks : ¬ Ipv6Fails ⟨.ioctl fd (.siocglifflags asked), got⟩ := hgot
    have hsets : ¬ Ipv6Fails ⟨.ioctl fd (.siocslifflags lifr), set⟩ := hset
    have hcloses : ¬ Ipv6Fails ⟨.close fd, u⟩ := id
    rw [Iface.answered, if_neg hset]
    refine .of_ipv6 rfl (by simp [FlagsFail]) (.inr ⟨?_, decide_eq_decide.mpr hlifr⟩)
    simpa using ⟨hopens, hasks, hsets, hcloses⟩

/-- Solaris sets the flags of IPv6. -/
theorem Solaris.sat_prepareIpv6 (flags : Nat) :
    Sat (ifaceEnv sysctl) (fun _ => True)
      (fun _ w' => ∃ es, Made w w' es ∧ Readies .solaris defines flags
        (ifaceAfter sysctl w.hist) (ifaceAfter sysctl w'.hist) es) F
      (Solaris.tapcfgIfacePrepareIpv6 flags) w := by
  unfold Solaris.tapcfgIfacePrepareIpv6
  refine sat_bind (sat_told fun (fd : Int) hcred _ => ?_)
  replace hcred : fd = -1 ∨ 0 ≤ fd := hcred.imp_right And.left
  have hopened : ifaceAfter sysctl (w.log ⟨.socket .inet6, fd⟩).hist = ifaceAfter sysctl w.hist :=
    ifaceAfter_log _
  split
  · have hfails : Ipv6Fails ⟨.socket .inet6, fd⟩ := (by omega : fd = -1)
    refine sat_ret trivial ⟨_, (Made.refl w).log _, ?_⟩
    rw [hopened]
    exact .of_ipv6 rfl (by simp [FlagsFail]) (.inl ⟨⟨_, by simp, hfails⟩, rfl⟩)
  have hfd : fd ≠ -1 := by omega
  refine sat_bind (sat_load trivial ?_)
  refine sat_bind (sat_told fun (got : Reply) _ _ => ?_)
  have hasked : ∀ lifr : Lifreq, ifaceAfter sysctl ((w.log ⟨.socket .inet6, fd⟩).log
      ⟨.ioctl fd (.siocglifflags lifr), got⟩).hist = ifaceAfter sysctl w.hist := by
    intro lifr
    rw [ifaceAfter_log, hopened]
    exact ite_self _
  split
  · have hfails : Ipv6Fails ⟨.ioctl fd (.siocglifflags { name := w.cfg.ifname }), got⟩ :=
      (‹_› : got.ret = -1)
    refine sat_bind (sat_told fun _ _ _ => sat_ret trivial ?_)
    refine ⟨_, (((Made.refl w).log _).log _).log _, ?_⟩
    rw [ifaceAfter_log, hasked]
    exact .of_ipv6 rfl (by simp [FlagsFail]) (.inl ⟨⟨_, .tail _ (.head _), hfails⟩, rfl⟩)
  · refine sat_bind (sat_told fun (set : Reply) _ _ => sat_told fun u _ _ => ?_)
    refine ⟨_, ((((Made.refl w).log _).log _).log _).log _, ?_⟩
    rw [ifaceAfter_log, ifaceAfter_log, hasked]
    refine Solaris.readies_set _ hfd ‹_› set u ?_
    rw [and_iffUp]
    split <;> simp_all [iffUp]

/-- Linux does nothing. -/
theorem readies_linux (k : Iface) : Readies .linux defines flags k k [] where
  ipv4Up := rfl
  quiet := by simp
  ipv6Up _ := rfl
  grows hb := by cases hb
  bsd hb := by cases hb
  solaris hb := by cases hb

/-- What is done for IPv6 before the requests on the flags. -/
theorem sat_prepareIpv6 (b : Backend) (flags : Nat) :
    Sat (ifaceEnv sysctl) (fun _ => True)
      (fun _ w' => ∃ es, Made w w' es ∧ Readies b defines flags
        (ifaceAfter sysctl w.hist) (ifaceAfter sysctl w'.hist) es) F
      (tapcfgIfacePrepareIpv6 b defines flags) w := by
  cases b with
  | linux => exact sat_ret trivial ⟨[], .refl w, readies_linux _⟩
  | bsd =>
      refine (Bsd.sat_prepareIpv6 flags).post ?_
      rintro - w' ⟨es, hmade, hprepares⟩
      exact ⟨es, hmade, hprepares.readies rfl⟩
  | netbsd =>
      refine (Bsd.sat_prepareIpv6 flags).post ?_
      rintro - w' ⟨es, hmade, hprepares⟩
      exact ⟨es, hmade, hprepares.readies rfl⟩
  | solaris => exact Solaris.sat_prepareIpv6 flags

/-! ## The flags -/

/-- A request on the flags is none of those for IPv6. -/
structure Plain (e : Event) : Prop where
  missed : ∀ k, ¬ Missed k e
  ipv6 : ¬ Ipv6Fails e

theorem plain_getFlags (fd : Int) (ifr : Ifreq) (reply : Reply) :
    Plain ⟨.ioctl fd (.siocgifflags ifr), reply⟩ := ⟨fun _ ⟨_, h, _⟩ => h, id⟩

theorem plain_setFlags (fd : Int) (ifr : Ifreq) (reply : Reply) :
    Plain ⟨.ioctl fd (.siocsifflags ifr), reply⟩ := ⟨fun _ ⟨_, h, _⟩ => h, id⟩

/-- `IFF_UP` in a status. -/
def wantsUp (b : Backend) (flags : Nat) : Bool :=
  if b = .solaris then decide (flags &&& statusIpv4Up ≠ 0) else decide (flags ≠ 0)

/-- What the requests on the flags do. -/
inductive SetsFlags (b : Backend) (flags : Nat) (sysctl : Inet6Code → Int) (w : World)
    (es : List Event) : Int → World → Prop where
  | refused {w' : World} (hmade : Made w w' es) (hfails : ∃ e ∈ es, FlagsFail e)
      (hiface : ifaceAfter sysctl w'.hist = ifaceAfter sysctl w.hist) :
      SetsFlags b flags sysctl w es (-1) w'
  | done {w' : World} (hhist : w'.hist = w.hist ++ es) (hquiet : ∀ e ∈ es, ¬ FlagsFail e)
      (hiface : ifaceAfter sysctl w'.hist =
        { ifaceAfter sysctl w.hist with ipv4Up := wantsUp b flags })
      (hcfg : w'.cfg = { w.cfg with status := flags }) : SetsFlags b flags sysctl w es 0 w'

/-- The requests on the flags. -/
theorem sat_setFlags (fd : Int) (name : CStr) :
    Sat (ifaceEnv sysctl) (fun _ => True)
      (fun r w' => ∃ es, (∀ e ∈ es, Plain e) ∧ SetsFlags b flags sysctl w es r w') F
      ((ioctl fd (.siocgifflags { name := name })).bind fun got =>
        if got.ret = -1 then .ret (-1)
        else (ioctl fd (.siocsifflags { got.ifr with
            flags := upFlags b flags got.ifr.flags })).bind fun set =>
          if set.ret = -1 then .ret (-1)
          else (modify fun cfg => { cfg with status := flags }).bind fun _ => .ret 0) w := by
  refine sat_bind (sat_told fun (got : Reply) _ _ => ?_)
  have hgot : ifaceAfter sysctl (w.log ⟨.ioctl fd (.siocgifflags { name := name }), got⟩).hist =
      ifaceAfter sysctl w.hist := (ifaceAfter_log _).trans (ite_self _)
  split
  · have hfails : FlagsFail ⟨.ioctl fd (.siocgifflags { name := name }), got⟩ :=
      (‹_› : got.ret = -1)
    refine sat_ret trivial ⟨_, ?_, .refused ((Made.refl w).log _) ⟨_, .head _, hfails⟩ hgot⟩
    simpa using plain_getFlags fd _ got
  have hgets : ¬ FlagsFail ⟨.ioctl fd (.siocgifflags { name := name }), got⟩ := ‹¬ got.ret = -1›
  refine sat_bind (sat_told fun (set : Reply) _ _ => ?_)
  generalize hifr : ({ got.ifr with flags := upFlags b flags got.ifr.flags } : Ifreq) = ifr
  have hset : ifaceAfter sysctl ((w.log ⟨.ioctl fd (.siocgifflags { name := name }), got⟩).log
      ⟨.ioctl fd (.siocsifflags ifr), set⟩).hist =
      (ifaceAfter sysctl w.hist).answered (.siocsifflags ifr) set := by
    rw [ifaceAfter_log, hgot]
    rfl
  have hmade := ((Made.refl w).log ⟨.ioctl fd (.siocgifflags { name := name }), got⟩).log
    ⟨.ioctl fd (.siocsifflags ifr), set⟩
  have hplain : ∀ e ∈ ([] ++ [⟨.ioctl fd (.siocgifflags { name := name }), got⟩] ++
      [⟨.ioctl fd (.siocsifflags ifr), set⟩] : List Event), Plain e := by
    simpa using ⟨plain_getFlags fd _ got, plain_setFlags fd ifr set⟩
  split
  · have hfails : FlagsFail ⟨.ioctl fd (.siocsifflags ifr), set⟩ := (‹_› : set.ret = -1)
    have hsame := hset.trans (if_pos ‹set.ret = -1›)
    exact sat_ret trivial ⟨_, hplain, .refused hmade ⟨_, .tail _ (.head _), hfails⟩ hsame⟩
  · have hsets : ¬ FlagsFail ⟨.ioctl fd (.siocsifflags ifr), set⟩ := ‹¬ set.ret = -1›
    have hup : decide (ifr.flags &&& iffUp ≠ 0) = wantsUp b flags := by
      have hiff := upFlags_up b flags got.ifr.flags
      rw [← hifr, wantsUp]
      split at hiff <;> simp_all
    have hchanged := hset.trans (if_neg ‹¬ set.ret = -1›)
    rw [Iface.requested, hup] at hchanged
    refine sat_bind (sat_modify (sat_ret trivial ⟨_, hplain, .done hmade.hist ?_ hchanged rfl⟩))
    simpa using ⟨hgets, hsets⟩

/-! ## A change of the status -/

/-- What the caller is told: the status is as it was, or it is `flags` and the interface is what
it asks for. -/
structure StatusTold (b : Backend) (defines : BsdDefines) (sysctl : Inet6Code → Int) (flags : Nat)
    (w : World) (r : Int) (w' : World) : Prop where
  refused : r < 0 → w'.cfg.status = w.cfg.status ∧
    (ifaceAfter sysctl w'.hist).ipv4Up = (ifaceAfter sysctl w.hist).ipv4Up ∧
    (ifaceAfter sysctl w'.hist).ipv6Up = (ifaceAfter sysctl w.hist).ipv6Up
  done : 0 ≤ r → w'.cfg.status = flags ∧
    Agrees b defines flags (ifaceAfter sysctl w'.hist)

theorem Readies.ipv6_kept (h : Readies .solaris defines flags k k' es) :
    k'.ipv6Up = k.ipv6Up ↔
      k.ipv6Up = decide (flags &&& statusIpv6Up ≠ 0) ∨ ∃ e ∈ es, Ipv6Fails e := by
  obtain ⟨hfails, hset⟩ := h.solaris rfl
  by_cases hsome : ∃ e ∈ es, Ipv6Fails e
  · exact iff_of_true (hfails hsome) (.inr hsome)
  · have hnone : ∀ e ∈ es, ¬ Ipv6Fails e := fun e he hfail => hsome ⟨e, he, hfail⟩
    rw [hset hnone]
    exact ⟨fun heq => .inl heq.symm, fun heq => (heq.resolve_right hsome).symm⟩

theorem Readies.ipv6_set (h : Readies .solaris defines flags k k' es) :
    k'.ipv6Up = decide (flags &&& statusIpv6Up ≠ 0) ↔
      k.ipv6Up = decide (flags &&& statusIpv6Up ≠ 0) ∨ ¬ ∃ e ∈ es, Ipv6Fails e := by
  obtain ⟨hfails, hset⟩ := h.solaris rfl
  by_cases hsome : ∃ e ∈ es, Ipv6Fails e
  · rw [hfails hsome]
    exact ⟨.inl, fun heq => heq.resolve_right fun hnone => hnone hsome⟩
  · exact iff_of_true (hset fun e he hfail => hsome ⟨e, he, hfail⟩) (.inr hsome)

section

variable {es' : List Event}

theorem exists_flagsFail (hquiet : ∀ e ∈ es, ¬ FlagsFail e) :
    (∃ e ∈ es ++ es', FlagsFail e) ↔ ∃ e ∈ es', FlagsFail e := by
  constructor
  · rintro ⟨e, he, hfail⟩
    rcases List.mem_append.mp he with he | he
    · exact absurd hfail (hquiet e he)
    · exact ⟨e, he, hfail⟩
  · rintro ⟨e, he, hfail⟩
    exact ⟨e, List.mem_append_right _ he, hfail⟩

theorem exists_ipv6Fails (hplain : ∀ e ∈ es', Plain e) :
    (∃ e ∈ es ++ es', Ipv6Fails e) ↔ ∃ e ∈ es, Ipv6Fails e := by
  constructor
  · rintro ⟨e, he, hfail⟩
    rcases List.mem_append.mp he with he | he
    · exact ⟨e, he, hfail⟩
    · exact absurd hfail (hplain e he).ipv6
  · rintro ⟨e, he, hfail⟩
    exact ⟨e, List.mem_append_left _ he, hfail⟩

theorem forall_missed (hplain : ∀ e ∈ es', Plain e) :
    (∀ e ∈ es ++ es', ¬ Missed k e) ↔ ∀ e ∈ es, ¬ Missed k e := by
  constructor
  · exact fun hall e he => hall e (List.mem_append_left _ he)
  · intro hall e he
    rcases List.mem_append.mp he with he | he
    · exact hall e he
    · exact (hplain e he).missed k

/-- When the flags are refused, IPv6 must be as it was. -/
theorem Readies.heeded_refused (h : Readies b defines flags k k' es)
    (hplain : ∀ e ∈ es', Plain e) (hfails : ∃ e ∈ es', FlagsFail e) :
    Heeded b k flags (es ++ es') ↔ k'.ipv6Up = k.ipv6Up := by
  have hrefused : ∃ e ∈ es ++ es', FlagsFail e := (exists_flagsFail h.quiet).mpr hfails
  cases b with
  | linux => exact iff_of_true trivial (h.ipv6Up (by decide))
  | bsd => exact iff_of_true (.inl hrefused) (h.ipv6Up (by decide))
  | netbsd => exact iff_of_true (.inl hrefused) (h.ipv6Up (by decide))
  | solaris =>
      rw [h.ipv6_kept, Heeded, exists_ipv6Fails hplain, iff_true_right hrefused]

theorem prepared_ipv4Up (up : Bool) :
    Prepared defines flags { k with ipv4Up := up } ↔ Prepared defines flags k := by
  have hready : ∀ f : Feature, f.Ready { k with ipv4Up := up } ↔ f.Ready k := by
    intro f
    cases f with
    | var code => exact Iff.rfl
    | link => exact Iff.rfl
  simp only [Prepared, hready]

/-- When they are set, the interface must be what the status asks for. -/
theorem Readies.heeded_done (h : Readies b defines flags k k' es)
    (hplain : ∀ e ∈ es', Plain e) (hquiet : ∀ e ∈ es', ¬ FlagsFail e) :
    Heeded b k flags (es ++ es') ↔
      Agrees b defines flags { k' with ipv4Up := wantsUp b flags } := by
  have hset : ¬ ∃ e ∈ es ++ es', FlagsFail e := by
    rw [exists_flagsFail h.quiet]
    exact fun ⟨e, he, hfail⟩ => hquiet e he hfail
  have hbsd : b.isBsd = true → (((∃ e ∈ es ++ es', FlagsFail e) ∨ ∀ e ∈ es ++ es', ¬ Missed k e) ↔
      (flags &&& statusIpv6Up ≠ 0 →
        Prepared defines flags { k' with ipv4Up := wantsUp b flags })) := by
    intro hb
    rw [or_iff_right hset, forall_missed hplain, ← h.bsd hb, prepared_ipv4Up (wantsUp b flags)]
  cases b with
  | linux => exact iff_of_true trivial rfl
  | bsd => exact (hbsd rfl).trans (and_iff_right rfl).symm
  | netbsd => exact (hbsd rfl).trans (and_iff_right rfl).symm
  | solaris =>
      refine Iff.trans ?_ ((h.ipv6_set.symm).trans (and_iff_right rfl).symm)
      rw [Heeded, exists_ipv6Fails hplain, iff_false_right hset]

end

/-- An interface on which only the preparation for IPv6 has advanced. -/
theorem Agrees.grows (hagrees : Agrees b defines flags k) (hipv4 : k'.ipv4Up = k.ipv4Up)
    (hipv6 : k'.ipv6Up = k.ipv6Up)
    (hgrows : b.isBsd = true → ∀ f : Feature, f.Ready k → f.Ready k') :
    Agrees b defines flags k' := by
  have hprepared : b.isBsd = true → Prepared defines flags k → Prepared defines flags k' :=
    fun hb hk f hf => hgrows hb f (hk f hf)
  cases b with
  | linux => exact hipv4.trans hagrees
  | bsd => exact ⟨hipv4.trans hagrees.1, fun hup => hprepared rfl (hagrees.2 hup)⟩
  | netbsd => exact ⟨hipv4.trans hagrees.1, fun hup => hprepared rfl (hagrees.2 hup)⟩
  | solaris => exact ⟨hipv4.trans hagrees.1, hipv6.trans hagrees.2⟩

theorem Heeded.of_agrees (hagrees : Agrees b defines flags k) : Heeded b k flags [] := by
  cases b with
  | linux => trivial
  | bsd => exact .inr (by simp)
  | netbsd => exact .inr (by simp)
  | solaris => exact .inl hagrees.2

/-- A change of the status: what the caller is told, and that the object and the system agree
after it. -/
structure StatusSet (b : Backend) (defines : BsdDefines) (sysctl : Inet6Code → Int) (flags : Nat)
    (w : World) (r : Int) (w' : World) : Prop where
  told : StatusTold b defines sysctl flags w r w' ↔
    Heeded b (ifaceAfter sysctl w.hist) flags (w.since w')
  agrees : StatusTold b defines sysctl flags w r w' →
    Agrees b defines w'.cfg.status (ifaceAfter sysctl w'.hist)

/-- The requests on the flags, after the preparation. -/
theorem SetsFlags.statusSet {w w₁ w' : World} {es' : List Event} {r : Int}
    (hagrees : Agrees b defines w.cfg.status (ifaceAfter sysctl w.hist)) (hmade : Made w w₁ es)
    (h : Readies b defines flags (ifaceAfter sysctl w.hist) (ifaceAfter sysctl w₁.hist) es)
    (hplain : ∀ e ∈ es', Plain e) (hset : SetsFlags b flags sysctl w₁ es' r w') :
    StatusSet b defines sysctl flags w r w' := by
  have hsince : ∀ {es'}, w'.hist = w₁.hist ++ es' → w.since w' = es ++ es' := by
    intro es' hhist
    rw [World.since, hhist, hmade.hist, List.append_assoc, List.drop_left]
  cases hset with
  | refused hmade' hfails hiface =>
      have hstatus : w'.cfg.status = w.cfg.status := by rw [hmade'.cfg, hmade.cfg]
      have hipv4 : (ifaceAfter sysctl w'.hist).ipv4Up = (ifaceAfter sysctl w.hist).ipv4Up := by
        rw [hiface, h.ipv4Up]
      refine ⟨?_, fun htold => ?_⟩
      · rw [hsince hmade'.hist, h.heeded_refused hplain hfails, ← hiface]
        constructor
        · exact fun htold => (htold.refused (by decide)).2.2
        · exact fun hsame => ⟨fun _ => ⟨hstatus, hipv4, hsame⟩, fun hr => absurd hr (by decide)⟩
      · rw [hstatus]
        refine hagrees.grows hipv4 (htold.refused (by decide)).2.2 fun hb f hf => ?_
        rw [hiface]
        exact h.grows hb f hf
  | done hhist hquiet hiface hcfg =>
      have hstatus : w'.cfg.status = flags := by rw [hcfg]
      refine ⟨?_, fun htold => hstatus ▸ (htold.done (by decide)).2⟩
      rw [hsince hhist, h.heeded_done hplain hquiet, ← hiface]
      constructor
      · exact fun htold => (htold.done (by decide)).2
      · exact fun hnew => ⟨fun hr => absurd hr (by decide), fun _ => ⟨hstatus, hnew⟩⟩

/-- A change of the status of a device whose interface is what its status asks for. -/
theorem sat_setStatus (hup : w.cfg.started = true)
    (hagrees : Agrees b defines w.cfg.status (ifaceAfter sysctl w.hist)) :
    Sat (ifaceEnv sysctl) (fun _ => True) (StatusSet b defines sysctl flags w) F
      (tapcfgIfaceSetStatus b defines flags) w := by
  unfold tapcfgIfaceSetStatus
  refine sat_bind (sat_load trivial ?_)
  by_cases hsame : flags = w.cfg.status
  · rw [if_pos (.inr hsame)]
    refine sat_ret trivial ⟨iff_of_true ⟨fun hr => absurd hr (by decide), fun _ => ?_⟩ ?_,
      fun _ => hagrees⟩
    · exact ⟨hsame.symm, hsame ▸ hagrees⟩
    · rw [World.since, List.drop_length]
      exact .of_agrees (hsame ▸ hagrees)
  rw [if_neg (by simp [hup, hsame])]
  have hready : Sat (ifaceEnv sysctl) (fun _ => True)
      (fun _ w' => ∃ es, Made w w' es ∧ Readies b defines flags
        (ifaceAfter sysctl w.hist) (ifaceAfter sysctl w'.hist) es) F
      (onlyIf ((flags ^^^ w.cfg.status) &&& statusIpv6All ≠ 0)
        (tapcfgIfacePrepareIpv6 b defines flags)) w := by
    unfold onlyIf
    split
    · exact sat_prepareIpv6 b flags
    · exact sat_ret trivial ⟨[], .refl w, .unchanged hagrees (not_not.mp ‹_›)⟩
  refine sat_seq hready ?_
  rintro - w₁ ⟨es, hmade, hreadies⟩
  refine (sat_setFlags w.cfg.ctrlFd w.cfg.ifname).post ?_
  rintro r w' ⟨es', hplain, hset⟩
  exact hset.statusSet hagrees hmade hreadies hplain

/-! ## Every run -/

/-- A started device has the interface its status asks for. -/
def Agreeing (b : Backend) (defines : BsdDefines) (sysctl : Inet6Code → Int) (w : World) : Prop :=
  w.cfg.started = true → Agrees b defines w.cfg.status (ifaceAfter sysctl w.hist)

/-- One call of the library, with what it returns. -/
def CallReturns (b : Backend) (defines : BsdDefines) (sysctl : Inet6Code → Int) (w : World)
    (c : IfaceCall) (r : Int) (w' : World) : Prop :=
  Reaches (ifaceEnv sysctl) (c.prog b defines, w) (.ret r, w')

/-- Some call; a change of the status of a started device is heeded. -/
def HeededCall (b : Backend) (defines : BsdDefines) (sysctl : Inet6Code → Int) (w w' : World) :
    Prop :=
  ∃ c r, CallReturns b defines sysctl w c r w' ∧ ∀ flags, c = .setStatus flags →
    w.cfg.started = true → Heeded b (ifaceAfter sysctl w.hist) flags (w.since w')

theorem agrees_down (k : Iface) : Agrees b defines statusAllDown k.down := by
  cases b with
  | linux => rfl
  | bsd => exact ⟨rfl, fun hup => absurd rfl hup⟩
  | netbsd => exact ⟨rfl, fun hup => absurd rfl hup⟩
  | solaris => exact ⟨rfl, rfl⟩

theorem Agreeing.starts {r : Int} {w' : World} (hw : Agreeing b defines sysctl w)
    (h : Starts w r w') : Agreeing b defines sysctl w' := by
  cases h with
  | already hup => exact hw
  | failed hidle hidle' hstatus htap =>
      intro hup
      rw [hidle'] at hup
      cases hup
  | @done w₁ _ fd ctrlFd hidle hfd hctrl hhist hcfg =>
      intro _
      have hdown : ifaceAfter sysctl w'.hist = (ifaceAfter sysctl w₁.hist).down := by
        rw [hhist, ifaceAfter_concat]
        exact if_neg hctrl
      rw [hcfg, hdown]
      exact agrees_down _

/-- A call that leaves the interface. -/
def Still (c : Call) : Prop := ∀ a (k : Iface), k.after ⟨c, a⟩ = k

/-- An access that leaves the status and the history. -/
def KeepsStatus (f : World → Except Fault World) : Prop :=
  ∀ w w', f w = .ok w' → Kept w.cfg w'.cfg ∧ w'.hist = w.hist

theorem still_ioctl {fd : Int} {req : Request} (hreq : ∀ k : Iface, k.requested req = k) :
    Still (.ioctl fd req) := by
  intro reply k
  show (if Reply.ret reply = -1 then k else k.requested req) = k
  rw [hreq, ite_self]

theorem still_setHwaddr (hwaddr : List Byte) (length : Int) :
    Uses KeepsStatus Still (tapcfgIfaceSetHwaddr b defines hwaddr length) := by
  have hload : Uses KeepsStatus Still (load : Io World) := by
    refine uses_load fun w w' h => ?_
    cases h
    exact ⟨.refl _, rfl⟩
  have hioctl : ∀ {fd : Int} {req : Request}, (∀ k : Iface, k.requested req = k) →
      Uses KeepsStatus Still ((ioctl fd req).bind fun reply => .ret reply.ret) :=
    fun hreq => (uses_call (still_ioctl hreq)).bind fun _ => uses_ret _
  have hbsd : Uses KeepsStatus Still (Bsd.tapcfgHwaddrIoctl defines hwaddr) := by
    unfold Bsd.tapcfgHwaddrIoctl
    refine hload.bind fun w => ?_
    dsimp only
    split
    · exact hioctl fun _ => rfl
    · split
      · exact hioctl fun _ => rfl
      · exact uses_ret _
  have hset : Uses KeepsStatus Still (tapcfgHwaddrIoctl b defines hwaddr) := by
    cases b with
    | linux => exact hload.bind fun w => hioctl fun _ => rfl
    | bsd => exact hbsd
    | netbsd => exact hbsd
    | solaris =>
        refine hload.bind fun w => Uses.bind (p := dlpiSetPhysaddr _ _) ?_ fun ret => ?_
        · exact ⟨fun _ => trivial, fun _ _ => rfl, fun _ => trivial⟩
        · exact (uses_ret _).unless
  unfold tapcfgIfaceSetHwaddr
  refine hload.bind fun w => Uses.unless (Uses.unless ?_)
  refine hset.bind fun ret => Uses.unless ?_
  refine Uses.bind (uses_update fun w w' h => ?_) fun _ => uses_ret _
  cases h
  exact ⟨⟨rfl, rfl, rfl, rfl⟩, rfl⟩

theorem Agreeing.still {α : Type} {p : Io α} (hp : Uses KeepsStatus Still p)
    (hw : Agreeing b defines sysctl w) :
    Sat (ifaceEnv sysctl) (fun _ => True) (fun _ w' => Agreeing b defines sysctl w')
      (fun _ _ => True) p w := by
  have hkept : Sat (ifaceEnv sysctl) (Agreeing b defines sysctl)
      (fun _ w' => Agreeing b defines sysctl w') (fun _ _ => True) p w := by
    refine sat_of_kept hp ?_ ?_ hw
    · intro f hf w₁ w₂ h₁ h hup
      obtain ⟨hkept, hhist⟩ := hf w₁ w₂ h
      rw [hkept.status, hhist]
      exact h₁ (hkept.started.symm.trans hup)
    · rintro c hc w₁ a w₂ h₁ ⟨-, -, rfl⟩
      rw [Agreeing, ifaceAfter_log, hc]
      exact h₁
  exact hkept.mono (fun _ _ => trivial) (fun _ _ _ h => h) (fun _ _ _ h => h)

theorem Agreeing.setStatus {r : Int} {w' : World} (hw : Agreeing b defines sysctl w)
    (hr : Reaches (ifaceEnv sysctl) (tapcfgIfaceSetStatus b defines flags, w) (.ret r, w'))
    (hheeded : w.cfg.started = true → Heeded b (ifaceAfter sysctl w.hist) flags (w.since w')) :
    Agreeing b defines sysctl w' := by
  by_cases hup : w.cfg.started = true
  · have hset := ((sat_setStatus (F := fun _ _ => True) hup (hw hup)).reaches hr).2
    exact fun _ => hset.agrees (hset.told.mpr (hheeded hup))
  · have hsat : Sat (ifaceEnv sysctl) (fun _ => True) (fun _ w' => w' = w) (fun _ _ => True)
        (tapcfgIfaceSetStatus b defines flags) w := by
      unfold tapcfgIfaceSetStatus
      refine sat_bind (sat_load trivial ?_)
      rw [if_pos (.inl (eq_false_of_ne_true hup))]
      exact sat_ret trivial rfl
    have hsame : w' = w := (hsat.reaches hr).2
    rw [hsame]
    exact hw

theorem Agreeing.step {w' : World} (hw : Agreeing b defines sysctl w)
    (h : HeededCall b defines sysctl w w') : Agreeing b defines sysctl w' := by
  obtain ⟨c, r, hr, hheeded⟩ := h
  cases c with
  | start ifname fallback => exact hw.starts ((sat_starts logs_ifaceEnv _ _).reaches hr).2
  | stop =>
      have hsat : Sat (ifaceEnv sysctl) (fun _ => True) (fun _ w' => Stops w w')
          (fun _ _ => True) (IfaceCall.stop.prog b defines) w :=
        sat_seq (sat_stops logs_ifaceEnv) fun _ _ h => sat_ret trivial h
      cases (hsat.reaches hr).2 with
      | idle => exact hw
      | done _ hidle => exact fun hup => absurd (hup.symm.trans hidle) (by decide)
  | setHwaddr hwaddr length => exact ((hw.still (still_setHwaddr hwaddr length)).reaches hr).2
  | setStatus flags => exact hw.setStatus hr (hheeded flags rfl)
  | getHwaddr => exact ((hw.still (p := .ret 0) (uses_ret (0 : Int))).reaches hr).2

/-- In every run whose changes of the status are heeded, the interface of a started device is
what its status asks for; and the next change tells its caller what it has done, just when it is
heeded as well. -/
theorem status_agrees (h : Runs (· = initialWorld) (HeededCall b defines sysctl) w)
    (hup : w.cfg.started = true) :
    Agrees b defines w.cfg.status (ifaceAfter sysctl w.hist) ∧
      ∀ flags r w', CallReturns b defines sysctl w (.setStatus flags) r w' →
        (StatusTold b defines sysctl flags w r w' ↔
          Heeded b (ifaceAfter sysctl w.hist) flags (w.since w')) := by
  have hw : Agreeing b defines sysctl w := by
    refine h.invariant (I := Agreeing b defines sysctl) ?_ fun _ _ hw hs => hw.step hs
    rintro w rfl hup
    cases hup
  refine ⟨hw hup, fun flags r w' hr => ?_⟩
  exact ((sat_setStatus (F := fun _ _ => True) hup (hw hup)).reaches hr).2.told

end

/-! ## Runs against a system that refuses some calls -/

/-- It refuses these requests. -/
def servedReply (b : Backend) (refuses : Request → Bool) (h : List Event) (fd : Int)
    (req : Request) : Reply :=
  if refuses req then { ret := -1 } else tellReply (plainKernel b) h fd req

/-- Its answers. -/
def servedStatus (b : Backend) (sysctl : Inet6Code → Int) (refuses : Request → Bool) (w : World) :
    (c : Call) → c.Ans
  | .getInet6 code => (ifaceAfter sysctl w.hist).sysctl code
  | .setInet6 _ _ => (0 : Int)
  | .ioctl fd req => servedReply b refuses w.hist fd req
  | c => tell (plainKernel b) false w c

/-- That system. -/
def servingStatus (b : Backend) (sysctl : Inet6Code → Int) (refuses : Request → Bool) :
    Responder World Call Call.Ans := fun w c =>
  (servedStatus b sysctl refuses w c, w.log ⟨c, servedStatus b sysctl refuses w c⟩)

theorem servingStatus_follows (b : Backend) (sysctl : Inet6Code → Int) (refuses : Request → Bool) :
    Follows (servingStatus b sysctl refuses) (ifaceEnv sysctl) := by
  intro w c
  refine ⟨?_, ?_, rfl⟩
  · cases c with
    | openDev path => exact .inr ⟨Int.natCast_nonneg _, nextFd_fresh _⟩
    | socket use => exact .inr ⟨Int.natCast_nonneg _, nextFd_fresh _⟩
    | ioctl fd req =>
        have hreply : servedReply b refuses w.hist fd req = { ret := -1 } ∨
            servedReply b refuses w.hist fd req = tellReply (plainKernel b) w.hist fd req := by
          unfold servedReply
          split
          · exact .inl rfl
          · exact .inr rfl
        rcases hreply with hreply | hreply
        · exact .inl (congrArg Reply.ret hreply)
        · have hcred := tellReply_credible (plainKernel b) w.hist fd req
          rw [← hreply] at hcred
          exact hcred
    | _ => trivial
  · cases c with
    | getInet6 code => exact .inr rfl
    | _ => trivial

/-- The world after a call. -/
def servedBy (b : Backend) (sysctl : Inet6Code → Int) (refuses : Request → Bool) (c : IfaceCall)
    (w : World) : World :=
  ((c.prog b freebsd).run (servingStatus b sysctl refuses) w).2

theorem servedBy_returns {b : Backend} {sysctl : Inet6Code → Int} (refuses : Request → Bool)
    {c : IfaceCall} {w : World} {r : Int}
    (hrun : ((c.prog b freebsd).run (servingStatus b sysctl refuses) w).1 = .ok r) :
    CallReturns b freebsd sysctl w c r (servedBy b sysctl refuses c w) :=
  reaches_run (servingStatus_follows b sysctl refuses) (Prod.ext hrun rfl)

/-- A router's variables. -/
def routing : Inet6Code → Int
  | .forwarding => 1
  | _ => 0

/-- A device that is started. -/
def startedWorld (b : Backend) : World :=
  servedBy b routing (fun _ => false) (.start (some "tap0".toList) false) initialWorld

theorem startedWorld_runs {b : Backend}
    (hrun : (((IfaceCall.start (some "tap0".toList) false).prog b freebsd).run
      (servingStatus b routing fun _ => false) initialWorld).1 = .ok 0) :
    Runs (· = initialWorld) (HeededCall b freebsd routing) (startedWorld b) :=
  .next (.start rfl) ⟨_, 0, servedBy_returns _ hrun, fun _ h => by cases h⟩

/-- The calls by which FreeBSD brings the interface up with IPv6. -/
theorem since_up :
    (startedWorld .bsd).since
      (servedBy .bsd routing (fun _ => false) (.setStatus 0x30) (startedWorld .bsd)) =
      [⟨.getInet6 .autoLinklocal, (0 : Int)⟩, ⟨.setInet6 .autoLinklocal 1, (0 : Int)⟩,
        ⟨.getInet6 .forwarding, (1 : Int)⟩, ⟨.setInet6 .forwarding 0, (0 : Int)⟩,
        ⟨.getInet6 .acceptRtadv, (0 : Int)⟩, ⟨.setInet6 .acceptRtadv 1, (0 : Int)⟩,
        ⟨.ioctl 4 (.siocgifflags { name := "tap0".toList }), ({ ret := 0 } : Reply)⟩,
        ⟨.ioctl 4 (.siocsifflags { flags := 0x41 }), ({ ret := 0 } : Reply)⟩] := by
  rfl

/-- FreeBSD brings the interface up with IPv6: nothing is missed, and the variables are adjusted. -/
theorem status_agrees_up :
    ∃ w', CallReturns .bsd freebsd routing (startedWorld .bsd) (.setStatus 0x30) 0 w' ∧
      StatusTold .bsd freebsd routing 0x30 (startedWorld .bsd) 0 w' ∧
      (ifaceAfter routing w'.hist).ipv4Up = true ∧
      (ifaceAfter routing w'.hist).sysctl .forwarding = 0 := by
  have hret : CallReturns .bsd freebsd routing (startedWorld .bsd) (.setStatus 0x30) 0 _ :=
    servedBy_returns (fun _ => false) (by decide +kernel)
  have hnext := (status_agrees (startedWorld_runs (by decide +kernel)) (by decide +kernel)).2
    0x30 0 _ hret
  refine ⟨_, hret, hnext.mpr (.inr ?_), by decide +kernel, by decide +kernel⟩
  rw [since_up]
  rintro e he ⟨f, hfails, -⟩
  simp only [List.mem_cons, List.not_mem_nil, or_false] at he
  rcases he with rfl | rfl | rfl | rfl | rfl | rfl | rfl | rfl
  -- each variable is answered, and the last two are not for IPv6
  all_goals first
    | exact hfails
    | exact (by decide : ¬ (0 : Int) = -1) hfails.2
    | exact (by decide : ¬ (1 : Int) = -1) hfails.2

/-- It refuses to set the flags of IPv6. -/
def Request.setsIpv6 : Request → Bool
  | .siocslifflags _ => true
  | _ => false

/-- It refuses to set those of IPv4. -/
def Request.setsIpv4 : Request → Bool
  | .siocsifflags _ => true
  | _ => false

/-- Solaris reports that IPv6 is up, twice, although its flags have been refused; and when those
of IPv4 are refused it reports a failure although IPv6 is up from then on. -/
theorem status_disagrees :
    (∃ w w' w'', Runs (· = initialWorld) (HeededCall .solaris freebsd routing) w ∧
      w.cfg.started = true ∧
      CallReturns .solaris freebsd routing w (.setStatus 0x10) 0 w' ∧
      CallReturns .solaris freebsd routing w' (.setStatus 0x10) 0 w'' ∧
      ¬ StatusTold .solaris freebsd routing 0x10 w 0 w' ∧
      (ifaceAfter routing w''.hist).ipv6Up = false) ∧
    ∃ w w', Runs (· = initialWorld) (HeededCall .solaris freebsd routing) w ∧
      w.cfg.started = true ∧
      CallReturns .solaris freebsd routing w (.setStatus 0x10) (-1) w' ∧
      ¬ StatusTold .solaris freebsd routing 0x10 w (-1) w' := by
  have hruns : Runs (· = initialWorld) (HeededCall .solaris freebsd routing)
      (startedWorld .solaris) := startedWorld_runs (by decide +kernel)
  constructor
  · refine ⟨startedWorld .solaris, _, _, hruns, by decide +kernel,
      servedBy_returns Request.setsIpv6 (by decide +kernel),
      servedBy_returns Request.setsIpv6 (by decide +kernel),
      fun htold => ?_, by decide +kernel⟩
    exact absurd (htold.done (by decide)).2.2 (by decide +kernel)
  · refine ⟨startedWorld .solaris, _, hruns, by decide +kernel,
      servedBy_returns Request.setsIpv4 (by decide +kernel), fun htold => ?_⟩
    exact absurd (htold.refused (by decide)).2.2 (by decide +kernel)

end TapCfg.Unix
