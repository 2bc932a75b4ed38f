/-
  Unix/Fallback.lean --- the search for another device.

  Source: the functions `tapcfg_start_dev` of src/lib/tapcfg_unix_linux.h, lines
  26-64, tapcfg_unix_bsd.h, lines 33-89, and tapcfg_unix_solaris.h, lines 235-305.

  With the fallback flag a start whose device is refused looks for another one.
  The searches of the BSDs and of Solaris try every device whatever the refusal
  was.  Linux asks again only when the refusal was `EINVAL`.  The name in the
  object is the one the system tells, or the one of the device node; the BSDs
  take it for granted that the node of the configured name has that name.
-/
import TapCfg.Unix.Hwaddr

set_option autoImplicit false

namespace TapCfg.Unix

open TapCfg.Foundation
open Prog

variable {b : Backend}

/-! ## What the system would grant -/

/-- The device node, an unnamed `TUNSETIFF`, and the queries that follow it. -/
def Linux.Granted (w : World) : Event → Prop
  | ⟨.openDev path, fd⟩ => path = "/dev/net/tun".toList → fd ≠ (-1 : Int)
  | ⟨.ioctl fd (.tunsetiff ifr), reply⟩ =>
      ifr.name = [] → IsOpen w.hist fd → Reply.ret reply ≠ -1
  | ⟨.socket _, fd⟩ => fd ≠ (-1 : Int)
  | ⟨.ioctl fd (.siocgifhwaddr _), reply⟩ => IsOpen w.hist fd → Reply.ret reply ≠ -1
  | _ => True

/-- `/dev/tapi` -/
def Bsd.tapNode (i : Nat) : CStr := "/dev/tap".toList ++ Nat.toDigits 10 i

/-- Opening the `i`-th device node. -/
def Bsd.GrantedNode (i : Nat) : Event → Prop
  | ⟨.openDev path, fd⟩ => path = tapNode i → fd ≠ (-1 : Int)
  | _ => True

/-- Opening the cloning device, and the query that follows. -/
def Bsd.GrantedClone (w : World) : Event → Prop
  | ⟨.openDev path, fd⟩ => path = "/dev/tap".toList → fd ≠ (-1 : Int)
  | ⟨.ioctl fd (.tapgifname _), reply⟩ => IsOpen w.hist fd → Reply.ret reply ≠ -1
  | _ => True

/-- What the BSDs would grant; the flag is for NetBSD. -/
def Bsd.Grants (L : World → Event → Prop) : Bool → Prop
  | true => ∀ w e, L w e → GrantedClone w e
  | false => ∃ i < 16, ∀ w e, L w e → GrantedNode i e

/-- Plumbing the unit succeeds whenever it is tried. -/
def Solaris.GrantsUnit (K : Kernel .solaris) (L : World → Event → Prop) (i : Nat) : Prop :=
  ∀ w, Sat (sysEnv K L) (fun _ => True) (fun plumbed _ => 0 ≤ plumbed.newppa) (fun _ _ => False)
    (tapcfgPlumbDevice i) w

/-- The system would grant another TAP device, and the queries that follow succeed. -/
def WouldGrant : {b : Backend} → Kernel b → (World → Event → Prop) → Prop
  | .linux, _, L => ∀ w e, L w e → Linux.Granted w e
  | .bsd, _, L => Bsd.Grants L false
  | .netbsd, _, L => Bsd.Grants L true
  | .solaris, K, L => ∃ i < 16, Solaris.GrantsUnit K L i

/-! ## When it is found, and named -/

/-- The calls made between two worlds. -/
def World.since (w w' : World) : List Event := w'.hist.drop w.hist.length

/-- What makes Linux give up: a refusal that is not `EINVAL`, and descriptor 0 for the
temporary socket. -/
def Linux.GivesUp : Event → Prop
  | ⟨.ioctl _ (.tunsetiff _), reply⟩ =>
      Reply.ret reply = -1 ∧ Reply.errno reply ≠ Errno.einval
  | ⟨.socket _, fd⟩ => fd = (0 : Int)
  | _ => False

/-- Nothing makes the search stop short. -/
def GoesOn : Backend → World → World → Prop
  | .linux, w, w' => ∀ e ∈ w.since w', ¬ Linux.GivesUp e
  | _, _, _ => True

/-- The BSDs try this name first. -/
def Bsd.Tries (ifname : CStr) : Prop := ifname.length ≤ maxIfname ∧ ' ' ∉ ifname

/-- The device node of a name. -/
def Bsd.nodeOf (ifname : CStr) : CStr := "/dev/".toList ++ ifname

/-- When the first call has opened the node of the configured name, that is the node of the
interface of this name. -/
def NodeNamed (K : Kernel b) (ifname : CStr) (w w' : World) : Prop :=
  b.isBsd = true → Bsd.Tries ifname → ∀ fd : Int, 0 ≤ fd →
    w.hist ++ [⟨.openDev (Bsd.nodeOf ifname), fd⟩] <+: w'.hist →
      K.node w.hist (Bsd.nodeOf ifname) = ifname

section

variable {w w' : World} {e e' : Event} {fd : Int}

theorem since_log (h : w.hist <+: w'.hist) : w.since (w'.log e) = w.since w' ++ [e] :=
  List.drop_append_of_le_length h.length_le

theorem mem_since_log (h : w.hist <+: w'.hist) :
    e ∈ w.since (w'.log e') ↔ e ∈ w.since w' ∨ e = e' := by
  rw [since_log h, List.mem_append, List.mem_singleton]

theorem grows_log (h : w.hist <+: w'.hist) : w.hist <+: (w'.log e).hist :=
  h.trans (List.prefix_append _ _)

/-- A descriptor that has just been returned is open. -/
theorem isOpen_acquired (he : entry e = acquired fd) (hfd : 0 ≤ fd) :
    IsOpen (w.log e).hist fd := by
  refine ⟨hfd, ?_⟩
  show fd.toNat ∈ openFds (w.hist ++ [e])
  rw [openFds, ledger_concat, he, acquired, if_pos hfd]
  show fd.toNat ∈ held (ledger w.hist ++ [.acquire fd.toNat])
  rw [held_acquire]
  exact List.mem_append_right _ (List.mem_singleton.mpr rfl)

theorem IsOpen.quiet (h : IsOpen w.hist fd) (he : entry e = none) : IsOpen (w.log e).hist fd := by
  refine ⟨h.1, ?_⟩
  show fd.toNat ∈ openFds (w.hist ++ [e])
  rw [openFds, ledger_concat, he, Option.toList_none, List.append_nil]
  exact h.2

end

/-! ## Linux -/

namespace Linux

section

variable {w w' : World} {e : Event}

/-- Only calls after which Linux goes on. -/
structure Unhindered (w w' : World) : Prop where
  grows : w.hist <+: w'.hist
  none : ∀ e ∈ w.since w', ¬ GivesUp e

/-- A call made Linux give up. -/
structure Hindered (w w' : World) : Prop where
  grows : w.hist <+: w'.hist
  some : ∃ e ∈ w.since w', GivesUp e

theorem Unhindered.refl (w : World) : Unhindered w w := by
  refine ⟨List.prefix_rfl, fun e he => ?_⟩
  rw [World.since, List.drop_length] at he
  cases he

theorem Unhindered.log (h : Unhindered w w') (he : ¬ GivesUp e) : Unhindered w (w'.log e) := by
  refine ⟨grows_log h.grows, fun e' he' => ?_⟩
  rcases (mem_since_log h.grows).mp he' with hmem | rfl
  · exact h.none e' hmem
  · exact he

theorem Unhindered.stop (h : Unhindered w w') (he : GivesUp e) : Hindered w (w'.log e) :=
  ⟨grows_log h.grows, e, (mem_since_log h.grows).mpr (.inr rfl), he⟩

theorem Hindered.log (h : Hindered w w') : Hindered w (w'.log e) := by
  obtain ⟨e', hmem, he'⟩ := h.some
  exact ⟨grows_log h.grows, e', (mem_since_log h.grows).mpr (.inl hmem), he'⟩

end

variable {K : Kernel .linux} {L : World → Event → Prop} {F : Fault → World → Prop} {w : World}

/-- What `TUNSETIFF` leaves: the interface it names, when it succeeds. -/
structure Attached (K : Kernel .linux) (tapFd : Int) (reply : Reply) (w' : World) : Prop where
  behind : K.behind w'.hist tapFd = reply.ifr.name
  length : reply.ifr.name.length < ifnamsiz

/-- The name in the object is that of the interface behind the descriptor. -/
theorem startDev_named (ifname : CStr) (fallback : Bool) (w : World) :
    Sat (sysEnv K L) (fun _ => True) (fun fd w' => 0 ≤ fd → NameRead K fd w') F
      (tapcfgStartDev ifname fallback) w := by
  unfold tapcfgStartDev
  refine sat_bind (sat_ask fun (tapFd : Int) _ _ _ => ?_)
  split
  · exact sat_ret trivial fun h => absurd h (by decide)
  refine sat_bind (sat_ask fun (first : Reply) _ htrue _ => ?_)
  -- whether or not the device is asked for again without its name
  have hreply : ∀ {c : Prop} [Decidable c] {req : Ifreq} {w₂ : World},
      (first.ret ≠ -1 → Attached K tapFd first w₂) →
      Sat (sysEnv K L) (fun _ => True)
        (fun reply w₃ => Reply.ret reply ≠ -1 → Attached K tapFd reply w₃) F
        (if c then ioctl tapFd (.tunsetiff req) else .ret first) w₂ := by
    intro c _ req w₂ hfirst
    split
    · exact sat_ask fun reply _ htrue _ hret => ⟨K.behind_tun _ _ _ _ hret, htrue hret⟩
    · exact sat_ret trivial hfirst
  refine sat_seq (hreply fun hret => ⟨K.behind_tun _ _ _ _ hret, htrue hret⟩) fun reply w₃ h₃ => ?_
  split
  · exact sat_bind (sat_ask fun _ _ _ _ => sat_ret trivial fun h => absurd h (by decide))
  have hattached := h₃ ‹_›
  refine sat_bind (sat_modify (sat_bind (sat_ask fun (s : Int) _ _ _ => ?_)))
  split
  · exact sat_bind (sat_ask fun _ _ _ _ => sat_ret trivial fun h => absurd h (by decide))
  refine sat_bind (sat_load trivial (sat_bind (sat_ask fun (hw : Reply) _ _ _ => ?_)))
  split
  · refine sat_bind (sat_ask fun _ _ _ _ => sat_bind (sat_ask fun _ _ _ _ => ?_))
    exact sat_ret trivial fun h => absurd h (by decide)
  · refine sat_bind (sat_modify (sat_bind (sat_ask fun _ _ _ _ => sat_ret trivial fun _ => ?_)))
    have hname : NameRead K tapFd { w₃ with
        cfg := { w₃.cfg with ifname := reply.ifr.name.take ifnamsiz } } :=
      hattached.behind.trans (List.take_of_length_le (Nat.le_of_lt hattached.length)).symm
    -- neither the socket nor the query puts another interface behind the descriptor
    have hsocket := NameRead.quiet (c := .socket .temporary) (a := s) hname (quiet_socket _)
    have hquery := NameRead.quiet
      (c := .ioctl s (.siocgifhwaddr { name := reply.ifr.name.take ifnamsiz })) (a := hw) hsocket
      (quiet_ioctl s rfl rfl rfl)
    exact NameRead.quiet (c := .close s) (a := ()) hquery (quiet_close s)

/-- What asking for a device leaves. -/
def Tried (w : World) (reply : Reply) (w' : World) : Prop :=
  (reply.ret = -1 ∧ Hindered w w') ∨ (reply.ret ≠ -1 ∧ Unhindered w w')

/-- A device that is refused with `EINVAL` is asked for again without its name. -/
theorem sat_retry_tried (hL : ∀ w e, L w e → Granted w e) {tapFd : Int} {named : Ifreq}
    {first : Reply} {w' : World} (h : Unhindered w w') (hopen : IsOpen w'.hist tapFd) :
    Sat (sysEnv K L) (fun _ => True) (Tried w) F
      (if first.ret = -1 ∧ first.errno = .einval ∧ true = true then
        ioctl tapFd (.tunsetiff { flags := iffTapNoPi })
      else .ret first) (w'.log ⟨.ioctl tapFd (.tunsetiff named), first⟩) := by
  by_cases hret : first.ret = -1
  · by_cases hval : first.errno = .einval
    · rw [if_pos ⟨hret, hval, rfl⟩]
      refine sat_ask fun reply _ _ hgranted => .inr ?_
      have hagain : Reply.ret reply ≠ -1 := hL _ _ hgranted rfl (hopen.quiet rfl)
      have h₁ := h.log (e := ⟨.ioctl tapFd (.tunsetiff named), first⟩) fun h => h.2 hval
      exact ⟨hagain, h₁.log fun h => hagain h.1⟩
    · rw [if_neg fun h => hval h.2.1]
      exact sat_ret trivial (.inl ⟨hret, h.stop ⟨hret, hval⟩⟩)
  · rw [if_neg fun h => hret h.1]
    exact sat_ret trivial (.inr ⟨hret, h.log fun h => hret h.1⟩)

/-- With the fallback flag it gets a device, unless it gives up. -/
theorem startDev_finds (hL : ∀ w e, L w e → Granted w e) (ifname : CStr) (w : World) :
    Sat (sysEnv K L) (fun _ => True) (fun fd w' => 0 ≤ fd ↔ GoesOn .linux w w') F
      (tapcfgStartDev ifname true) w := by
  have hfailed : ∀ {w'}, Hindered w w' → (0 ≤ (-1 : Int) ↔ GoesOn .linux w w') := by
    intro w' hh
    obtain ⟨e, hmem, he⟩ := hh.some
    exact ⟨fun h => absurd h (by decide), fun h => absurd he (h e hmem)⟩
  unfold tapcfgStartDev
  refine sat_bind (sat_ask fun (tapFd : Int) hcred _ hgranted => ?_)
  have hopened : tapFd ≠ -1 := hL _ _ hgranted rfl
  have hnew : 0 ≤ tapFd := (hcred.resolve_left hopened).1
  rw [if_neg hopened]
  have hopen₁ : IsOpen (w.log ⟨.openDev "/dev/net/tun".toList, tapFd⟩).hist tapFd :=
    isOpen_acquired rfl hnew
  have h₁ := (Unhindered.refl w).log (e := ⟨.openDev "/dev/net/tun".toList, tapFd⟩) id
  refine sat_bind (sat_ask fun (first : Reply) _ _ _ => ?_)
  refine sat_seq (sat_retry_tried hL h₁ hopen₁) fun reply w₃ h₃ => ?_
  rcases h₃ with ⟨hret, h₃⟩ | ⟨hret, h₃⟩
  · rw [if_pos hret]
    exact sat_bind (sat_ask fun _ _ _ _ => sat_ret trivial (hfailed h₃.log))
  rw [if_neg hret]
  refine sat_bind (sat_modify ?_)
  have hnamed : Unhindered w { w₃ with
      cfg := { w₃.cfg with ifname := reply.ifr.name.take ifnamsiz } } := ⟨h₃.grows, h₃.none⟩
  refine sat_bind (sat_ask fun (s : Int) hcred _ hgranted => ?_)
  have hs : s ≠ -1 := hL _ _ hgranted
  by_cases hzero : s = 0
  · rw [if_pos hzero]
    have hstop := hnamed.stop (e := ⟨.socket .temporary, s⟩) hzero
    exact sat_bind (sat_ask fun _ _ _ _ => sat_ret trivial (hfailed hstop.log))
  rw [if_neg hzero]
  have hsocket := hnamed.log (e := ⟨.socket .temporary, s⟩) hzero
  refine sat_bind (sat_load trivial (sat_bind (sat_ask fun (hw : Reply) _ _ hgranted => ?_)))
  have hread : hw.ret ≠ -1 :=
    hL _ _ hgranted (isOpen_acquired rfl (hcred.resolve_left hs).1)
  rw [if_neg hread]
  refine sat_bind (sat_modify (sat_bind (sat_ask fun _ _ _ _ => sat_ret trivial ?_)))
  have hquery := hsocket.log
    (e := ⟨.ioctl s (.siocgifhwaddr { name := reply.ifr.name.take ifnamsiz }), hw⟩) id
  exact ⟨fun _ => (hquery.log (e := ⟨.close s, ()⟩) id).none, fun _ => hnew⟩

end Linux

/-! ## The BSDs -/

namespace Bsd

section

variable {K : Kernel b} {L : World → Event → Prop} {F : Fault → World → Prop} {w : World}

/-- What a search leaves: a device that is open has its name, and one is open when `G`
holds. -/
structure Searched (K : Kernel b) (G : Prop) (w : World) (found : Option Found) (w' : World) :
    Prop where
  grows : w.hist <+: w'.hist
  behind : ∀ f, found = some f → 0 ≤ f.1 → K.behind w'.hist f.1 = f.2
  length : ∀ f, found = some f → 0 ≤ f.1 → f.2.length ≤ maxIfname
  finds : G → ∃ f, found = some f ∧ 0 ≤ f.1

theorem length_tapName {i : Nat} (h : i < 16) :
    ("tap".toList ++ Nat.toDigits 10 i).length ≤ maxIfname := by
  have hdigits : (Nat.toDigits 10 i).length ≤ 2 :=
    (Nat.length_toDigits_le_iff (by decide) (by decide)).mpr (by omega)
  rw [List.length_append]
  show 3 + _ ≤ 15
  omega

theorem Searched.opened {G : Prop} {f : Found} {w' : World} (hgrows : w.hist <+: w'.hist)
    (hopen : 0 ≤ f.1) (hbehind : K.behind w'.hist f.1 = f.2) (hlength : f.2.length ≤ maxIfname) :
    Searched K G w (some f) w' := by
  refine ⟨hgrows, fun f' hf _ => ?_, fun f' hf _ => ?_, fun _ => ⟨f, rfl, hopen⟩⟩
  · cases hf
    exact hbehind
  · cases hf
    exact hlength

theorem Searched.unopened {G : Prop} {found : Option Found} {w' : World}
    (hgrows : w.hist <+: w'.hist) (hnone : ∀ f, found = some f → ¬ 0 ≤ f.1) (hG : ¬ G) :
    Searched K G w found w' :=
  ⟨hgrows, fun f hf h => absurd h (hnone f hf), fun f hf h => absurd h (hnone f hf),
    fun h => absurd h hG⟩

/-- The loop over the device nodes passes none that would be granted. -/
theorem sat_tryDevices_searched (hb : b.isBsd = true) {n i : Nat} (hi : i + n ≤ 16) :
    Sat (sysEnv K L) (fun _ => True)
      (fun found => Searched K (∃ j, i ≤ j ∧ j < i + n ∧ ∀ w e, L w e → GrantedNode j e) w
        (some found)) F (tryDevices n i) w := by
  induction n generalizing i w with
  | zero =>
      refine sat_ret trivial (.unopened List.prefix_rfl ?_ ?_)
      · intro f hf
        cases hf
        decide
      · rintro ⟨j, hlo, hhi, -⟩
        omega
  | succ n ih =>
      unfold tryDevices
      refine sat_bind (sat_ask fun (tapFd : Int) hcred _ hgranted => ?_)
      split
      · refine sat_ret trivial (.opened (List.prefix_append _ _) ‹_› ?_ (length_tapName (by omega)))
        exact (K.behind_open _ _ _ hb ‹_›).trans (K.node_tap _ _ (by omega))
      · rename_i hclosed
        refine (ih (i := i + 1) (by omega)).post fun found w₂ h₂ => ?_
        refine ⟨(List.prefix_append _ _).trans h₂.grows, h₂.behind, h₂.length, ?_⟩
        rintro ⟨j, hlo, hhi, hj⟩
        refine h₂.finds ⟨j, ?_, by omega, hj⟩
        -- the node that has just been refused is not the one
        by_contra hlt
        obtain rfl : j = i := by omega
        have hopened : tapFd ≠ -1 := hj _ _ hgranted rfl
        exact hclosed (hcred.resolve_left hopened).1

theorem sat_cloneDevice_searched :
    Sat (sysEnv K L) (fun _ => True) (Searched K (Grants L true) w) F cloneDevice w := by
  unfold cloneDevice
  refine sat_bind (sat_ask fun (tapFd : Int) hcred _ hgranted => ?_)
  split
  · rename_i hopen
    have hisOpen : IsOpen (w.log ⟨.openDev "/dev/tap".toList, tapFd⟩).hist tapFd :=
      isOpen_acquired rfl hopen
    refine sat_bind (sat_ask fun (reply : Reply) _ htrue hanswered => ?_)
    split
    · refine sat_ret trivial (.unopened (grows_log (List.prefix_append _ _)) ?_ ?_)
      · intro f hf
        cases hf
      · exact fun hL => hL _ _ hanswered hisOpen ‹_›
    · obtain ⟨hname, hlength⟩ := htrue ‹_›
      refine sat_ret trivial (.opened (grows_log (List.prefix_append _ _)) hopen ?_ ?_)
      · exact (K.behind_kept _ _ _ (detached_ioctl tapFd rfl reply tapFd)).trans hname.symm
      · exact Nat.le_of_lt_succ hlength
  · rename_i hclosed
    refine sat_ret trivial (.unopened (List.prefix_append _ _) ?_ ?_)
    · intro f hf
      cases hf
      exact hclosed
    · intro hL
      have hopened : tapFd ≠ -1 := hL _ _ hgranted rfl
      exact hclosed (hcred.resolve_left hopened).1

theorem sat_findOther_searched (hb : b.isBsd = true) (netbsd : Bool) :
    Sat (sysEnv K L) (fun _ => True) (Searched K (Grants L netbsd) w) F (findOther netbsd) w := by
  cases netbsd with
  | true => exact sat_cloneDevice_searched
  | false =>
      refine sat_seq (sat_tryDevices_searched hb (Nat.le_refl 16)) fun found w' h => ?_
      refine sat_ret trivial ⟨h.grows, h.behind, h.length, ?_⟩
      rintro ⟨i, hi, hL⟩
      exact h.finds ⟨i, Nat.zero_le i, by omega, hL⟩

/-- The first call has opened the node of the name. -/
structure Configured (ifname : CStr) (w : World) (f : Found) (w' : World) : Prop where
  tries : Tries ifname
  opened : 0 ≤ f.1
  name : f.2 = ifname
  world : w' = w.log ⟨.openDev (nodeOf ifname), f.1⟩

/-- When the name is tried, the first call has been refused. -/
def Refused (ifname : CStr) (w w' : World) : Prop :=
  Tries ifname → ∃ fd : Int, fd < 0 ∧ w.hist ++ [⟨.openDev (nodeOf ifname), fd⟩] <+: w'.hist

theorem sat_openConfigured_tried (ifname : CStr) :
    Sat (sysEnv K L) (fun _ => True)
      (fun f w' => Configured ifname w f w' ∨
        (f.1 < 0 ∧ w.hist <+: w'.hist ∧ Refused ifname w w')) F (openConfigured ifname) w := by
  unfold openConfigured
  split
  · refine sat_bind (sat_ask fun (tapFd : Int) _ _ _ => sat_ret trivial ?_)
    by_cases hopen : 0 ≤ tapFd
    · exact .inl ⟨‹_›, hopen, rfl, rfl⟩
    · have hrefused : tapFd < 0 := by omega
      exact .inr ⟨hrefused, List.prefix_append _ _, fun _ => ⟨tapFd, hrefused, List.prefix_rfl⟩⟩
  · rename_i htries
    exact sat_ret trivial (.inr ⟨by decide, List.prefix_rfl, fun h => absurd h htries⟩)

/-- How the search ends. -/
def Ends (K : Kernel b) (G : Prop) (ifname : CStr) (w : World) (found : Option Found)
    (w' : World) : Prop :=
  (∃ f, found = some f ∧ Configured ifname w f w') ∨
    (Searched K G w found w' ∧ Refused ifname w w')

theorem Ends.finds {G : Prop} {ifname : CStr} {found : Option Found} {w' : World}
    (h : Ends K G ifname w found w') (hG : G) : ∃ f, found = some f ∧ 0 ≤ f.1 := by
  rcases h with ⟨f, hf, hconf⟩ | ⟨hsearched, -⟩
  · exact ⟨f, hf, hconf.opened⟩
  · exact hsearched.finds hG

/-- The name that is stored is that of the interface, unless it is the configured one and its
node is that of another. -/
theorem Ends.named {G : Prop} {ifname : CStr} {f : Found} {w₂ w' : World}
    {answer : Option (List Ifaddr)} (hb : b.isBsd = true) (h : Ends K G ifname w (some f) w₂)
    (hopen : 0 ≤ f.1) (hhist : w'.hist = w₂.hist ++ [⟨.getifaddrs, answer⟩])
    (hname : w'.cfg.ifname = f.2.take maxIfname) :
    NameRead K f.1 w' ↔ NodeNamed K ifname w w' := by
  have hkept : K.behind w'.hist f.1 = K.behind w₂.hist f.1 := by
    rw [hhist]
    exact K.behind_kept _ _ _ ((quiet_getifaddrs _).2 _)
  rcases h with ⟨f', hf, hconf⟩ | ⟨hsearched, hrefused⟩
  · cases hf
    obtain ⟨htries, -, hconfname, rfl⟩ := hconf
    have hnode : K.behind w'.hist f.1 = K.node w.hist (nodeOf ifname) :=
      hkept.trans (K.behind_open _ _ _ hb hopen)
    have hstored : w'.cfg.ifname = ifname := by
      rw [hname, hconfname]
      exact List.take_of_length_le htries.1
    constructor
    · intro hread _ _ _ _ _
      exact hnode.symm.trans (Eq.trans hread hstored)
    · intro hnamed
      refine hnode.trans (Eq.trans (hnamed hb htries f.1 hopen ?_) hstored.symm)
      rw [hhist]
      exact List.prefix_append _ _
  · have hread : NameRead K f.1 w' := by
      refine hkept.trans ((hsearched.behind f rfl hopen).trans ?_)
      rw [hname]
      exact (List.take_of_length_le (hsearched.length f rfl hopen)).symm
    refine ⟨fun _ _ htries fd hfd hfirst => ?_, fun _ => hread⟩
    -- the first call cannot have been refused and granted
    obtain ⟨fd', hfd', hrefusal⟩ := hrefused htries
    have hgrown : w.hist ++ [⟨.openDev (nodeOf ifname), fd'⟩] <+: w'.hist := by
      rw [hhist]
      exact hrefusal.trans (List.prefix_append _ _)
    have heq := List.prefix_of_prefix_length_le hfirst hgrown (by simp)
    have hsame := List.append_cancel_left (heq.eq_of_length (by simp))
    cases hsame
    omega

/-- Another device is looked for when the first call has opened none. -/
theorem sat_search_ends (hb : b.isBsd = true) (netbsd : Bool) {ifname : CStr} {first : Found}
    {w₁ : World} (h₁ : Configured ifname w first w₁ ∨
      (first.1 < 0 ∧ w.hist <+: w₁.hist ∧ Refused ifname w w₁)) :
    Sat (sysEnv K L) (fun _ => True) (Ends K (Grants L netbsd) ifname w) F
      (if first.1 < 0 ∧ true = true then findOther netbsd else .ret (some first)) w₁ := by
  rcases h₁ with hconf | ⟨hnone, hgrows, hrefused⟩
  · have hopen := hconf.opened
    rw [if_neg fun h => absurd h.1 (by omega)]
    exact sat_ret trivial (.inl ⟨first, rfl, hconf⟩)
  · rw [if_pos ⟨hnone, rfl⟩]
    refine (sat_findOther_searched hb netbsd).post fun found w₂ h₂ => .inr ?_
    refine ⟨⟨hgrows.trans h₂.grows, h₂.behind, h₂.length, h₂.finds⟩, fun htries => ?_⟩
    obtain ⟨fd, hfd, hfirst⟩ := hrefused htries
    exact ⟨fd, hfd, hfirst.trans h₂.grows⟩

theorem startDev_finds (hb : b.isBsd = true) (netbsd : Bool) (ifname : CStr) (w : World) :
    Sat (sysEnv K L) (fun _ => True)
      (fun fd w' => (Grants L netbsd → 0 ≤ fd) ∧
        (0 ≤ fd → (NameRead K fd w' ↔ NodeNamed K ifname w w'))) F
      (tapcfgStartDev netbsd ifname true) w := by
  unfold tapcfgStartDev
  refine sat_seq (sat_openConfigured_tried ifname) fun first w₁ h₁ => ?_
  refine sat_seq (sat_search_ends hb netbsd h₁) fun found w₂ h₂ => ?_
  have hfailed : ∀ {w'}, (¬ ∃ f, found = some f ∧ 0 ≤ f.1) →
      (Grants L netbsd → 0 ≤ (-1 : Int)) ∧
        (0 ≤ (-1 : Int) → (NameRead K (-1) w' ↔ NodeNamed K ifname w w')) :=
    fun hnone => ⟨fun hG => absurd (h₂.finds hG) hnone, fun h => absurd h (by decide)⟩
  cases found with
  | none => exact sat_ret trivial (hfailed fun ⟨f, hf, _⟩ => by cases hf)
  | some f =>
      obtain ⟨tapFd, buf⟩ := f
      dsimp only
      split
      · refine sat_ret trivial (hfailed ?_)
        rintro ⟨f, hf, hopen⟩
        cases hf
        exact absurd ‹tapFd < 0› (by simpa using hopen)
      · have hopen : 0 ≤ tapFd := by omega
        refine sat_bind (sat_modify (sat_bind ?_))
        refine sat_ask fun (answer : Option (List Ifaddr)) _ _ _ => ?_
        cases answer with
        | none => exact sat_ret trivial ⟨fun _ => hopen, fun _ => h₂.named hb hopen rfl rfl⟩
        | some ifa =>
            refine sat_bind (sat_modify (sat_ret trivial ⟨fun _ => hopen, fun _ => ?_⟩))
            exact h₂.named hb hopen rfl rfl

end

end Bsd

/-! ## Solaris -/

namespace Solaris

section

variable {K : Kernel .solaris} {L : World → Event → Prop} {F : Fault → World → Prop}

theorem GrantsUnit.sat {j : Nat} (hj : GrantsUnit K L j) (w : World) :
    Sat (sysEnv K L) (fun _ => True) (fun plumbed _ => 0 ≤ plumbed.newppa) F
      (tapcfgPlumbDevice j) w :=
  (hj w).mono (fun _ => id) (fun _ _ _ => id) fun _ _ _ hfalse => hfalse.elim

/-- The loop over the units passes none that would be granted, but the one tried before. -/
theorem sat_plumbOther_finds {ppa : Int} {j : Nat} (hj : GrantsUnit K L j) (hne : (j : Int) ≠ ppa)
    {n i : Nat} (hlo : i ≤ j) (hhi : j < i + n) (w : World) :
    Sat (sysEnv K L) (fun _ => True) (fun found _ => found ≠ none) F (plumbOther ppa n i) w := by
  induction n generalizing i w with
  | zero => omega
  | succ n ih =>
      unfold plumbOther
      by_cases heq : i = j
      · subst heq
        rw [if_neg hne]
        refine sat_seq (hj.sat w) fun plumbed w₁ h₁ => ?_
        rw [if_pos h₁]
        exact sat_ret trivial (by simp)
      · split
        · exact ih (by omega) (by omega) w
        · refine sat_seq (unit_plumbDevice i w) fun plumbed w₁ _ => ?_
          split
          · exact sat_ret trivial (by simp)
          · exact ih (by omega) (by omega) w₁

/-- A unit that would be granted is found, by its name or by the search. -/
theorem sat_plumbNamed_finds (hL : ∃ i < 16, GrantsUnit K L i) (ppa : Int) (w : World) :
    Sat (sysEnv K L) (fun _ => True) (fun found _ => found ≠ none) F (plumbNamed ppa true) w := by
  obtain ⟨j, hj, hgrants⟩ := hL
  unfold plumbNamed
  by_cases heq : (j : Int) = ppa
  · subst heq
    refine sat_seq (hgrants.sat w) fun plumbed w₁ h₁ => ?_
    have hunit : plumbed.newppa ≠ -1 := by omega
    rw [if_neg fun h => hunit h.1, if_neg hunit]
    exact sat_ret trivial (by simp)
  · refine sat_seq (unit_plumbDevice ppa w) fun plumbed w₁ _ => ?_
    rw [if_neg (by simp)]
    split
    · exact sat_plumbOther_finds hgrants heq (Nat.zero_le j) (by omega) w₁
    · exact sat_ret trivial (by simp)

theorem namedPpa_fallback (ifname : CStr) : namedPpa ifname true ≠ none := by
  unfold namedPpa
  split
  · simp
  · dsimp only
    split <;> simp

theorem startDev_finds (ifname : CStr) (w : World) :
    Sat (sysEnv K L) (fun _ => True)
      (fun fd w' => ((∃ i < 16, GrantsUnit K L i) → 0 ≤ fd) ∧ (0 ≤ fd → NameRead K fd w')) F
      (tapcfgStartDev ifname true) w := by
  have hfound : ∀ ppa, Sat (sysEnv K L) (fun _ => True)
      (fun found w' => ((∃ i < 16, GrantsUnit K L i) → found ≠ none) ∧ FindsUnit K w found w') F
      (plumbNamed ppa true) w := by
    intro ppa
    by_cases hL : ∃ i < 16, GrantsUnit K L i
    · have hboth := (sat_plumbNamed_finds (F := F) hL ppa w).and
        (unit_plumbNamed (F := F) ppa true w)
      exact hboth.mono (fun _ _ => trivial) (fun _ _ _ h => ⟨fun _ => h.1, h.2⟩)
        fun _ _ _ h => h.2
    · exact (unit_plumbNamed ppa true w).post fun _ _ h => ⟨fun h => absurd h hL, h⟩
  unfold tapcfgStartDev
  cases hppa : namedPpa ifname true with
  | none => exact absurd hppa (namedPpa_fallback ifname)
  | some ppa =>
      refine sat_seq (hfound ppa) fun found w₁ h₁ => ?_
      obtain ⟨hsome, hunits⟩ := h₁
      cases found with
      | none =>
          exact sat_ret trivial ⟨fun hL => absurd rfl (hsome hL), fun h => absurd h (by decide)⟩
      | some plumbed =>
          have hunit := hunits.unit plumbed rfl
          have hname : NameRead K plumbed.tapFd { w₁ with
              cfg := { w₁.cfg with ifname := (tapName plumbed.newppa).take (maxIfname - 1) } } :=
            hunit.behind.trans (tapName_take hunit.nonneg hunit.int).symm
          refine sat_bind (sat_modify (sat_bind ?_))
          refine sat_ask fun (answer : Option (List Byte)) _ _ _ => ?_
          have hasked := NameRead.quiet (c := .getPhysaddr plumbed.tapFd) (a := answer) hname
            (quiet_getPhysaddr _)
          cases answer with
          | none =>
              exact sat_bind (sat_modify (sat_ret trivial ⟨fun _ => hunit.tapFd, fun _ => hasked⟩))
          | some addr =>
              refine sat_bind (sat_modify (sat_bind (sat_modify (sat_ret trivial ?_))))
              exact ⟨fun _ => hunit.tapFd, fun _ => hasked⟩

/-- What is answered when the unit is to be had: `TUNNEWPPA` for it succeeds, and so does
what does not depend on the unit. -/
def Served (i : Nat) : Event → Prop
  | ⟨.openDev _, fd⟩ => fd ≠ (-1 : Int)
  | ⟨.ioctl _ (.tunnewppa ppa), reply⟩ => ppa = i → Reply.ret reply ≠ -1
  | ⟨.ioctl _ _, reply⟩ => Reply.ret reply ≠ -1
  | _ => True

theorem Served.plain {i : Nat} {fd : Int} {req : Request} {reply : Reply}
    (h : Served i ⟨.ioctl fd req, reply⟩) (hreq : Plain i req) : reply.ret ≠ -1 := by
  cases hreq with
  | tunnewppa => exact h rfl
  | _ => exact h

/-- Nothing is refused on the way. -/
theorem plumbInv_served {i : Nat} (hL : ∀ w e, L w e → Served i e) :
    PlumbInv (sysEnv K L) i (0 ≤ ·) (fun plumbed _ => 0 ≤ plumbed.newppa) F
      (fun _ _ _ => True) (fun _ _ => False) where
  opened {_ v w s path w' fd} _ _ := by
    rintro ⟨hcred, -, hserved, -⟩
    have hopened : fd ≠ -1 := hL _ _ hserved
    exact .inr ⟨(hcred.resolve_left hopened).1, trivial⟩
  asked {_ v w s req w' reply} _ _ hreq := by
    rintro ⟨hcred, -, hserved, -⟩
    exact ⟨trivial, .inr (hcred.resolve_left ((hL _ _ hserved).plain hreq)).1⟩
  named _ _ _ hret := hret
  linked {_ v w m w' reply} _ _ _ _ := by
    rintro ⟨hcred, -, hserved, -⟩
    have hmade : reply.ret ≠ -1 := hL _ _ hserved
    exact .inr ⟨(hcred.resolve_left hmade).1, trivial⟩
  closed _ _ _ := trivial
  failed h := h.elim
  done _ _ hnewppa := hnewppa

theorem grantsUnit_of_served {i : Nat} (hL : ∀ w e, L w e → Served i e) : GrantsUnit K L i :=
  fun _ => (plumbInv_served hL).sat trivial

end

end Solaris

/-! ## Every backend -/

/-- With the fallback flag a start gets a device whenever the system would grant one, just
when nothing makes it stop short; and the name it stores is that of the device, just when
the node of the configured name is. -/
theorem fallback_finds (K : Kernel b) (L : World → Event → Prop) (ifname : CStr) (w : World) :
    Sat (sysEnv K L) (fun _ => True)
      (fun fd w' => (WouldGrant K L → (0 ≤ fd ↔ GoesOn b w w')) ∧
        (0 ≤ fd → (NameRead K fd w' ↔ NodeNamed K ifname w w'))) (fun _ _ => False)
      (tapcfgStartDev b ifname true) w := by
  have hnode : ∀ {w'}, b.isBsd = false → NodeNamed K ifname w w' := by
    intro w' hb hbsd
    rw [hb] at hbsd
    cases hbsd
  cases b with
  | linux =>
      have hnamed := Linux.startDev_named (K := K) (L := L) (F := fun _ _ => False) ifname true w
      by_cases hL : WouldGrant K L
      · have hboth := (Linux.startDev_finds (F := fun _ _ => False) hL ifname w).and hnamed
        refine hboth.mono (fun _ _ => trivial) (fun fd w' _ h => ?_) (fun _ _ _ h => h.1)
        exact ⟨fun _ => h.1, fun hfd => ⟨fun _ => hnode rfl, fun _ => h.2 hfd⟩⟩
      · refine hnamed.post fun fd w' h => ⟨fun h => absurd h hL, fun hfd => ?_⟩
        exact ⟨fun _ => hnode rfl, fun _ => h hfd⟩
  | bsd =>
      refine (Bsd.startDev_finds rfl false ifname w).post fun fd w' h => ⟨fun hL => ?_, h.2⟩
      exact ⟨fun _ => trivial, fun _ => h.1 hL⟩
  | netbsd =>
      refine (Bsd.startDev_finds rfl true ifname w).post fun fd w' h => ⟨fun hL => ?_, h.2⟩
      exact ⟨fun _ => trivial, fun _ => h.1 hL⟩
  | solaris =>
      refine (Solaris.startDev_finds ifname w).post fun fd w' h => ⟨fun hL => ?_, fun hfd => ?_⟩
      · exact ⟨fun _ => trivial, fun _ => h.1 hL⟩
      · exact ⟨fun _ => hnode rfl, fun _ => h.2 hfd⟩

/-! ## Systems that refuse a device -/

/-- `tap5` is asked for. -/
def Call.asksTap5 : Call → Bool
  | .openDev path => path = "/dev/tap5".toList
  | .ioctl _ (.tunsetiff ifr) => ifr.name = "tap5".toList
  | .ioctl _ (.tunnewppa ppa) => ppa = 5
  | _ => false

/-- What is answered when it is busy. -/
def refusal (K : Kernel b) (errno : Errno) (w : World) : (c : Call) → c.Ans
  | .openDev _ => (-1 : Int)
  | .ioctl _ _ => { ret := -1, errno := errno }
  | c => tell K false w c

/-- A system on which it is busy. -/
def tap5Busy (K : Kernel b) (errno : Errno) : Responder World Call Call.Ans := fun w c =>
  let a := if c.asksTap5 then refusal K errno w c else tell K false w c
  (a, w.log ⟨c, a⟩)

theorem tap5Busy_follows {K : Kernel b} {errno : Errno} {L : World → Event → Prop}
    (hL : ∀ w c, L w ⟨c, (tap5Busy K errno w c).1⟩) : Follows (tap5Busy K errno) (sysEnv K L) := by
  intro w c
  have htold : Credible w.hist ⟨c, tell K false w c⟩ ∧ K.Truthful w.hist ⟨c, tell K false w c⟩ :=
    have hfollows := telling_follows (K := K) (L := fun _ _ => True) (fun _ _ => trivial) w c
    ⟨hfollows.1, hfollows.2.1⟩
  have hrefused : Credible w.hist ⟨c, refusal K errno w c⟩ ∧
      K.Truthful w.hist ⟨c, refusal K errno w c⟩ := by
    cases c with
    | openDev path => exact ⟨.inl rfl, trivial⟩
    | ioctl fd req =>
        refine ⟨.inl rfl, ?_⟩
        cases req with
        | tunsetiff ifr => exact fun h => absurd rfl h
        | tapgifname ifr => exact fun h => absurd rfl h
        | tunnewppa ppa => exact (by decide : (-1 : Int) ≤ 0x7fffffff)
        | siocgifhwaddr ifr => exact fun h => absurd rfl h
        | _ => trivial
    | _ => exact htold
  have hboth : Credible w.hist ⟨c, (tap5Busy K errno w c).1⟩ ∧
      K.Truthful w.hist ⟨c, (tap5Busy K errno w c).1⟩ := by
    show Credible w.hist ⟨c, if c.asksTap5 then _ else _⟩ ∧
      K.Truthful w.hist ⟨c, if c.asksTap5 then _ else _⟩
    split
    · exact hrefused
    · exact htold
  exact ⟨hboth.1, hboth.2, hL w c, rfl⟩

theorem tellReply_open {K : Kernel b} {h : List Event} {fd : Int} {req : Request}
    (hreq : ∀ ifr, req ≠ .tapgifname ifr) (hopen : IsOpen h fd) :
    (tellReply K h fd req).ret ≠ -1 := by
  unfold tellReply
  split
  · exact absurd rfl (hreq _)
  · rw [if_pos hopen]
    exact (by decide : (0 : Int) ≠ -1)

theorem tap5Busy_granted (errno : Errno) (w : World) (c : Call) :
    Linux.Granted w ⟨c, (tap5Busy (plainKernel .linux) errno w c).1⟩ := by
  show Linux.Granted w ⟨c, if c.asksTap5 then _ else _⟩
  cases c with
  | openDev path =>
      rintro rfl
      exact (by omega : ¬ (nextFd w.hist : Int) = -1)
  | socket use => exact (by omega : ¬ (nextFd w.hist : Int) = -1)
  | ioctl fd req =>
      cases req with
      | tunsetiff ifr =>
          intro hname hopen
          rw [if_neg (by simp [Call.asksTap5, hname])]
          exact tellReply_open (fun _ h => by cases h) hopen
      | siocgifhwaddr ifr =>
          intro hopen
          have hread : (tellReply (plainKernel .linux) w.hist fd (.siocgifhwaddr ifr)).ret ≠ -1 :=
            tellReply_open (fun _ h => by cases h) hopen
          exact hread
      | _ => trivial
  | _ => trivial

/-- A Linux start on `tap5`, which is refused. -/
def busyStart (errno : Errno) : Except Fault Int × World :=
  (tapcfgStartDev .linux "tap5".toList true).run (tap5Busy (plainKernel .linux) errno) initialWorld

theorem busyStart_reaches (errno : Errno) (fd : Int) (h : (busyStart errno).1 = .ok fd) :
    Reaches (sysEnv (plainKernel .linux) Linux.Granted)
      (tapcfgStartDev .linux "tap5".toList true, initialWorld) (.ret fd, (busyStart errno).2) :=
  reaches_run (tap5Busy_follows (tap5Busy_granted errno)) (Prod.ext h rfl)

/-- Refused with `EINVAL`, Linux falls back to `tap0`; a Solaris that serves unit 3 falls back
whatever it is asked for. -/
theorem fallback_finds_taken :
    (∃ w', Reaches (sysEnv (plainKernel .linux) Linux.Granted)
        (tapcfgStartDev .linux "tap5".toList true, initialWorld) (.ret 3, w') ∧
      GoesOn .linux initialWorld w' ∧ NameRead (plainKernel .linux) 3 w' ∧
      w'.cfg.ifname = "tap0".toList) ∧
    Sat (sysEnv (plainKernel .solaris) fun _ => Solaris.Served 3) (fun _ => True)
      (fun fd _ => 0 ≤ fd) (fun _ _ => False) (tapcfgStartDev .solaris "eth0".toList true)
      initialWorld := by
  constructor
  · have hreaches := busyStart_reaches .einval 3 (by decide +kernel)
    have hdone := ((fallback_finds (plainKernel .linux) Linux.Granted "tap5".toList
      initialWorld).reaches hreaches).2
    refine ⟨_, hreaches, ?_, ?_, by decide +kernel⟩
    · exact (hdone.1 fun _ _ => id).mp (by decide)
    · exact (hdone.2 (by decide)).mpr fun h => by cases h
  · have hgrant : WouldGrant (plainKernel .solaris) fun _ => Solaris.Served 3 :=
      ⟨3, by decide, Solaris.grantsUnit_of_served fun _ _ => id⟩
    exact (fallback_finds (plainKernel .solaris) (fun _ => Solaris.Served 3) "eth0".toList
      initialWorld).post fun fd w' h => (h.1 hgrant).mpr trivial

/-- On this NetBSD the cloning device gives `tap0`. -/
def cloningNode (path : CStr) : CStr :=
  if path = "/dev/tap".toList then "tap0".toList else path.drop 5

def cloningKernel : Kernel .netbsd := nodeKernel .netbsd cloningNode (by decide)

/-- A start on `tap`, the name for the cloning device. -/
def cloningStart : Except Fault Int × World :=
  (tapcfgStartDev .netbsd "tap".toList true).run (telling cloningKernel false) initialWorld

/-- A refusal that is not `EINVAL` ends a Linux start although another device would be granted,
and NetBSD stores `tap` for the device `tap0`. -/
theorem fallback_fails :
    (∃ L fd w', WouldGrant (plainKernel .linux) L ∧
      Reaches (sysEnv (plainKernel .linux) L)
        (tapcfgStartDev .linux "tap5".toList true, initialWorld) (.ret fd, w') ∧ ¬ 0 ≤ fd) ∧
    ∃ fd w', Reaches (sysEnv cloningKernel anyDiscovery)
        (tapcfgStartDev .netbsd "tap".toList true, initialWorld) (.ret fd, w') ∧
      0 ≤ fd ∧ ¬ NameRead cloningKernel fd w' := by
  constructor
  · exact ⟨Linux.Granted, -1, _, fun _ _ => id,
      busyStart_reaches .other (-1) (by decide +kernel), by decide⟩
  · have hrun : cloningStart = (.ok 3, cloningStart.2) := Prod.ext (by decide +kernel) rfl
    refine ⟨3, _, reaches_run (telling_follows fun _ _ => trivial) hrun, by decide, ?_⟩
    exact (by decide +kernel : ¬ cloningKernel.behind cloningStart.2.hist 3 =
      cloningStart.2.cfg.ifname)

end TapCfg.Unix
