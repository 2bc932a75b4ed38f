/-
  Unix/Plumbing.lean --- what plumbing a Solaris device leaves behind.

  Source: src/lib/tapcfg_unix_solaris.h, lines 25-233 (tapcfg_plumb_device).

  `I_PLINK` links a stream below another and answers the id of the link;
  `I_PUNLINK` on the same descriptor takes the link of this id away.  The links
  have a ledger of their own beside that of the descriptors.  Whether a refused
  `I_PUNLINK` counts as the end of the link is a parameter of it: the `error:`
  exit looks at no answer, so a link whose `I_PUNLINK` is refused stays.

  Nothing is assumed of what has been opened before: all that is said is about
  the calls `tapcfg_plumb_device` itself has made.
-/
import TapCfg.Unix.Fallback
import Mathlib.Data.List.Pairwise

set_option autoImplicit false

namespace TapCfg.Unix.Solaris

open TapCfg.Foundation
open Prog

/-! ## The links -/

/-- What a call does to the links; `counts` says which `I_PUNLINK` ends its link. -/
def linkEntry (counts : Reply → Bool) : Event → Option (Entry (Int × Int))
  | ⟨.ioctl fd (.plink _), reply⟩ =>
      if Reply.ret reply = -1 then none else some (.acquire (fd, Reply.ret reply))
  | ⟨.ioctl fd (.punlink muxid), reply⟩ =>
      if counts reply then some (.release (fd, muxid)) else none
  | _ => none

/-- The links made and undone, each with the descriptor it is made on. -/
def linkLedger (counts : Reply → Bool) (h : List Event) : List (Entry (Int × Int)) :=
  h.filterMap (linkEntry counts)

/-- Every `I_PUNLINK` counts. -/
def requested : Reply → Bool := fun _ => true

/-- Only an `I_PUNLINK` that is not refused counts. -/
def granted : Reply → Bool := fun reply => decide (reply.ret ≠ -1)

/-- The links whose `I_PUNLINK` does not count. -/
def kept (counts : Reply → Bool) (h : List Event) : List (Int × Int) :=
  h.filterMap fun
    | ⟨.ioctl fd (.punlink muxid), reply⟩ => if counts reply then none else some (fd, muxid)
    | _ => none

/-- A link is undone on a descriptor that is open, and the descriptor is not closed before. -/
def Guarded (h : List Event) : Event → Prop
  | ⟨.ioctl fd (.punlink _), _⟩ => IsOpen h fd
  | ⟨.close fd, _⟩ => ∀ muxid, (fd, muxid) ∉ held (linkLedger requested h)
  | _ => True

/-- The links that are in place, when each has been undone at most once and on an open
descriptor. -/
structure Links (counts : Reply → Bool) (links : List (Int × Int)) (h : List Event) : Prop where
  guarded : Along Guarded [] h
  settles : Along Settles [] (linkLedger counts h)
  exact : (held (linkLedger counts h)).Perm links

/-- A device that is plumbed: just its three descriptors are open, and just the three links
are in place. -/
structure Plumbed.InPlace (counts : Reply → Bool) (plumbed : Plumbed) (h : List Event) : Prop where
  newppa : 0 ≤ plumbed.newppa
  tapFd : 0 ≤ plumbed.tapFd
  ipFd : 0 ≤ plumbed.ipFd
  ip6Fd : 0 ≤ plumbed.ip6Fd
  holds : Holds [plumbed.tapFd, plumbed.ipFd, plumbed.ip6Fd] h
  links : ∃ ip arp ip6 : Int,
    Links counts [(plumbed.ipFd, ip), (plumbed.ipFd, arp), (plumbed.ip6Fd, ip6)] h

/-- What `tapcfg_plumb_device` leaves of descriptors and links: a device that is plumbed, or
nothing but the links `stay`. -/
structure Leaves (counts : Reply → Bool) (stay : List (Int × Int)) (w : World) (plumbed : Plumbed)
    (w' : World) : Prop where
  failed : plumbed.newppa = -1 →
    plumbed = {} ∧ Holds [] (w.since w') ∧ Links counts stay (w.since w')
  plumbed : plumbed.newppa ≠ -1 → plumbed.InPlace counts (w.since w')

section

variable {counts : Reply → Bool} {h : List Event} {links : List (Int × Int)} {e : Event}
  {fd muxid : Int} {reply : Reply}

theorem linkLedger_concat (counts : Reply → Bool) (h : List Event) (e : Event) :
    linkLedger counts (h ++ [e]) = linkLedger counts h ++ (linkEntry counts e).toList := by
  unfold linkLedger
  rw [List.filterMap_append]
  cases he : linkEntry counts e <;> simp [he]

theorem kept_concat (counts : Reply → Bool) (h : List Event) (e : Event) :
    kept counts (h ++ [e]) = kept counts h ++ kept counts [e] := List.filterMap_append

/-- No link is kept when every `I_PUNLINK` counts. -/
theorem kept_requested (h : List Event) : kept requested h = [] := by
  refine List.filterMap_eq_nil_iff.mpr fun e _ => ?_
  obtain ⟨c, a⟩ := e
  cases c with
  | ioctl fd req => cases req <;> rfl
  | _ => rfl

namespace Links

theorem nil : Links counts [] [] := ⟨trivial, trivial, .refl _⟩

theorem of_perm {links' : List (Int × Int)} (hl : Links counts links h)
    (hp : links.Perm links') : Links counts links' h :=
  ⟨hl.guarded, hl.settles, hl.exact.trans hp⟩

/-- A call that makes and undoes no link. -/
theorem quiet (hl : Links counts links h) (he : linkEntry counts e = none) (hg : Guarded h e) :
    Links counts links (h ++ [e]) := by
  have hledger : linkLedger counts (h ++ [e]) = linkLedger counts h := by
    rw [linkLedger_concat, he]
    simp
  refine ⟨along_append.mpr ⟨hl.guarded, along_singleton.mpr hg⟩, ?_, ?_⟩
  · rw [hledger]
    exact hl.settles
  · rw [hledger]
    exact hl.exact

/-- `I_PLINK` -/
theorem made {lower : Int} (hl : Links counts links h) (hret : reply.ret ≠ -1) :
    Links counts ((fd, reply.ret) :: links) (h ++ [⟨.ioctl fd (.plink lower), reply⟩]) := by
  have hledger : linkLedger counts (h ++ [⟨.ioctl fd (.plink lower), reply⟩]) =
      linkLedger counts h ++ [.acquire (fd, reply.ret)] := by
    have he : linkEntry counts ⟨.ioctl fd (.plink lower), reply⟩ =
        some (.acquire (fd, reply.ret)) := if_neg hret
    rw [linkLedger_concat, he]
    rfl
  refine ⟨along_append.mpr ⟨hl.guarded, along_singleton.mpr trivial⟩, ?_, ?_⟩
  · rw [hledger]
    exact along_append.mpr ⟨hl.settles, along_singleton.mpr trivial⟩
  · rw [hledger]
    exact held_acquire_perm hl.exact _

/-- `I_PUNLINK` that counts -/
theorem undone (hl : Links counts ((fd, muxid) :: links) h) (hc : counts reply = true)
    (hopen : IsOpen h fd) : Links counts links (h ++ [⟨.ioctl fd (.punlink muxid), reply⟩]) := by
  have hledger : linkLedger counts (h ++ [⟨.ioctl fd (.punlink muxid), reply⟩]) =
      linkLedger counts h ++ [.release (fd, muxid)] := by
    have he : linkEntry counts ⟨.ioctl fd (.punlink muxid), reply⟩ =
        some (.release (fd, muxid)) := if_pos hc
    rw [linkLedger_concat, he]
    rfl
  have hmem : (fd, muxid) ∈ held (linkLedger counts h) :=
    hl.exact.mem_iff.mpr List.mem_cons_self
  refine ⟨along_append.mpr ⟨hl.guarded, along_singleton.mpr hopen⟩, ?_, ?_⟩
  · rw [hledger]
    exact along_append.mpr ⟨hl.settles, along_singleton.mpr hmem⟩
  · rw [hledger]
    exact held_release_perm hl.exact

end Links

end

/-! ## What the locals have in place -/

/-- The link of an id, -1 while there is none. -/
def linkAt (fd muxid : Int) : List (Int × Int) := if muxid = -1 then [] else [(fd, muxid)]

/-- The links of the locals, in the order in which they are undone. -/
def Locals.links (v : Locals) : List (Int × Int) :=
  [StreamLink.arp, .ip, .ip6].flatMap fun m => linkAt (v.fd m.upper) (v.muxid m)

theorem fd_of_mem_linkAt {fd muxid fd' muxid' : Int} (h : (fd', muxid') ∈ linkAt fd muxid) :
    fd' = fd := by
  unfold linkAt at h
  split at h
  · cases h
  · exact congrArg Prod.fst (List.mem_singleton.mp h)

/-- Descriptors and links are those of the locals, but for the links that are kept. -/
structure Undoing (w₀ : World) (v : Locals) (w : World) : Prop where
  grows : w₀.hist <+: w.hist
  holds : Holds v.fds (w₀.since w)
  links : ∀ counts, Links counts (kept counts (w₀.since w) ++ v.links) (w₀.since w)
  upper : ∀ m, v.muxid m ≠ -1 → 0 ≤ v.fd m.upper

/-- Descriptors and links are those of the locals, and no link has been undone. -/
structure Linking (w₀ : World) (v : Locals) (w : World) : Prop extends Undoing w₀ v w where
  untouched : ∀ counts, kept counts (w₀.since w) = []

section

variable {w₀ w : World} {v : Locals} {m : StreamLink} {s : Slot} {fd : Int} {h es : List Event}
  {e : Event}

/-- A link of the locals, and the others. -/
theorem Locals.links_perm (hm : v.muxid m ≠ -1) :
    v.links.Perm ((v.fd m.upper, v.muxid m) :: (v.link (-1) m).links) := by
  obtain ⟨tap, ip, ip6, iface, arp, ipMuxid, arpMuxid, ip6Muxid⟩ := v
  have hnone : ∀ fd, linkAt fd (-1) = [] := fun _ => rfl
  have hlinks : ∀ ipMuxid arpMuxid ip6Muxid : Int,
      Locals.links ⟨tap, ip, ip6, iface, arp, ipMuxid, arpMuxid, ip6Muxid⟩ =
        linkAt ip arpMuxid ++ (linkAt ip ipMuxid ++ (linkAt ip6 ip6Muxid ++ [])) :=
    fun _ _ _ => rfl
  cases m with
  | ip =>
      have hsome : linkAt ip ipMuxid = [(ip, ipMuxid)] := if_neg hm
      rw [Locals.link, hlinks, hlinks, hsome, hnone]
      exact List.perm_middle
  | arp =>
      have hsome : linkAt ip arpMuxid = [(ip, arpMuxid)] := if_neg hm
      rw [Locals.link, hlinks, hlinks, hsome, hnone]
      exact .refl _
  | ip6 =>
      have hsome : linkAt ip6 ip6Muxid = [(ip6, ip6Muxid)] := if_neg hm
      have hlast : (linkAt ip arpMuxid ++ linkAt ip ipMuxid ++ [(ip6, ip6Muxid)]).Perm
          ((ip6, ip6Muxid) :: (linkAt ip arpMuxid ++ linkAt ip ipMuxid)) := List.perm_append_comm
      rw [List.append_assoc] at hlast
      rw [Locals.link, hlinks, hlinks, hsome, hnone, List.append_nil, List.append_nil,
        List.append_nil]
      exact hlast

theorem Locals.links_congr {v' : Locals} (hmuxid : ∀ m, v'.muxid m = v.muxid m)
    (hfd : ∀ m, v.muxid m ≠ -1 → v'.fd m.upper = v.fd m.upper) : v'.links = v.links := by
  refine List.flatMap_congr fun m _ => ?_
  rw [hmuxid]
  by_cases hm : v.muxid m = -1
  · rw [hm]
    rfl
  · rw [hfd m hm]

theorem Locals.links_of_none (hnone : ∀ m, v.muxid m = -1) : v.links = [] := by
  refine List.flatMap_eq_nil_iff.mpr fun m _ => ?_
  rw [hnone]
  rfl

/-- What is not open after everything is not open after the calls made since. -/
theorem newFd_since (hgrows : w₀.hist <+: w.hist) (hh : Holds v.fds (w₀.since w))
    (hnew : NewFd w.hist fd) : NewFd (w₀.since w) fd := by
  refine hnew.imp_right fun ⟨hfd, hfresh⟩ => ⟨hfd, fun hmem => hfresh ?_⟩
  have hsplit : w.hist = w₀.hist ++ w₀.since w := by
    obtain ⟨es, hes⟩ := hgrows
    rw [World.since, ← hes, List.drop_left]
  have hledger : ledger w.hist = ledger w₀.hist ++ ledger (w₀.since w) := by
    rw [hsplit]
    exact List.filterMap_append
  rw [openFds, hledger]
  exact (held_append hh.settles).mem_iff.mpr (List.mem_append_right _ hmem)

/-- Two places of the locals hold two descriptors. -/
theorem Locals.fd_ne {s' : Slot} (hh : Holds v.fds h) (hs : s ≠ s') (hfd : 0 ≤ v.fd s) :
    v.fd s ≠ v.fd s' := by
  intro heq
  have hnodup : ([Slot.arp, .iface, .ip, .ip6, .tap].flatMap fun s => slot (v.fd s)).Nodup :=
    hh.nodup
  have hmem : ∀ s : Slot, s ∈ [Slot.arp, .iface, .ip, .ip6, .tap] := by
    intro s
    cases s <;> decide
  have : Std.Symm (Function.onFun List.Disjoint fun s => slot (v.fd s)) :=
    ⟨fun _ _ h _ hleft hright => h hright hleft⟩
  have hdisjoint := (List.nodup_flatMap.mp hnodup).2.forall (hmem s) (hmem s') hs
  have hslot : (v.fd s).toNat ∈ slot (v.fd s) := by simp [slot_of_nonneg hfd]
  exact hdisjoint hslot (heq ▸ hslot)

/-- The calls that make and undo no link. -/
theorem Undoing.plain (hv : Undoing w₀ v w) {v' : Locals}
    (hholds : Holds v'.fds (w₀.since w ++ [e])) (he : ∀ counts, linkEntry counts e = none)
    (hkept : ∀ counts, kept counts [e] = []) (hg : Guarded (w₀.since w) e)
    (hlinks : v'.links = v.links) (hupper : ∀ m, v'.muxid m ≠ -1 → 0 ≤ v'.fd m.upper) :
    Undoing w₀ v' (w.log e) := by
  have hsince := since_log (e := e) hv.grows
  refine ⟨grows_log hv.grows, ?_, fun counts => ?_, hupper⟩
  · rw [hsince]
    exact hholds
  · rw [hsince, kept_concat, hkept, List.append_nil, hlinks]
    exact (hv.links counts).quiet (he counts) hg

/-- A link of the locals is undone, or its `I_PUNLINK` does not count. -/
theorem Undoing.unlinked {reply : Reply} (hv : Undoing w₀ v w) (hm : v.muxid m ≠ -1) :
    Undoing w₀ (v.link (-1) m) (w.log ⟨.ioctl (v.fd m.upper) (.punlink (v.muxid m)), reply⟩) := by
  have hsince := since_log (e := ⟨.ioctl (v.fd m.upper) (.punlink (v.muxid m)), reply⟩) hv.grows
  have hopen : IsOpen (w₀.since w) (v.fd m.upper) := Locals.isOpen hv.holds _ (hv.upper m hm)
  refine ⟨grows_log hv.grows, ?_, fun counts => ?_, ?_⟩
  · rw [hsince, Locals.link_fds]
    exact hv.holds.quiet rfl
  · rw [hsince, kept_concat]
    cases hc : counts reply with
    | true =>
        have hkept : kept counts [⟨.ioctl (v.fd m.upper) (.punlink (v.muxid m)), reply⟩] = [] := by
          simp [kept, hc]
        rw [hkept, List.append_nil]
        refine Links.undone ((hv.links counts).of_perm ?_) hc hopen
        exact ((Locals.links_perm hm).append_left _).trans List.perm_middle
    | false =>
        have hkept : kept counts [⟨.ioctl (v.fd m.upper) (.punlink (v.muxid m)), reply⟩] =
            [(v.fd m.upper, v.muxid m)] := by simp [kept, hc]
        have he : linkEntry counts ⟨.ioctl (v.fd m.upper) (.punlink (v.muxid m)), reply⟩ = none :=
          if_neg (by simp [hc])
        rw [hkept, List.append_assoc, List.singleton_append]
        exact ((hv.links counts).quiet he hopen).of_perm ((Locals.links_perm hm).append_left _)
  · intro m' hm'
    have hne : m' ≠ m := by
      rintro rfl
      exact hm' (v.muxid_link _ _)
    rw [Locals.muxid_link_of_ne v _ hne] at hm'
    rw [Locals.fd_link]
    exact hv.upper m' hm'

/-- A descriptor is closed when there is no link left. -/
theorem Undoing.closed {u : Unit} (hv : Undoing w₀ v w) (hnone : ∀ m, v.muxid m = -1) :
    Undoing w₀ (v.put (-1) s) (w.log ⟨.close (v.fd s), u⟩) := by
  have hnone' : ∀ m, (v.put (-1) s).muxid m = -1 := fun m => (v.muxid_put _ _ m).trans (hnone m)
  refine hv.plain (Locals.holds_closed hv.holds) (fun _ => rfl) (fun _ => rfl) ?_ ?_ ?_
  · intro muxid hmem
    have hempty := (hv.links requested).exact.mem_iff.mp hmem
    rw [kept_requested, Locals.links_of_none hnone] at hempty
    cases hempty
  · rw [Locals.links_of_none hnone, Locals.links_of_none hnone']
  · intro m hm
    exact absurd (hnone' m) hm

theorem undoInv_links (L : Allows) (w₀ : World) : UndoInv (osEnv L) (Undoing w₀) where
  unlinked hv hm := by
    rintro ⟨-, -, rfl⟩
    exact hv.unlinked hm
  closed hv hnone _ := by
    rintro ⟨-, -, rfl⟩
    exact hv.closed hnone

/-- A descriptor is put into an empty place. -/
theorem Linking.opened {path : CStr} (hv : Linking w₀ v w) (hempty : v.fd s = -1)
    (hnew : NewFd w.hist fd) : Linking w₀ (v.put fd s) (w.log ⟨.openDev path, fd⟩) := by
  -- no link has been made on what was not open
  have hne : ∀ m, v.muxid m ≠ -1 → m.upper ≠ s := by
    rintro m hm rfl
    exact absurd (hv.upper m hm) (by rw [hempty]; decide)
  have hfd : ∀ m, v.muxid m ≠ -1 → (v.put fd s).fd m.upper = v.fd m.upper :=
    fun m hm => Locals.fd_put_of_ne v fd (hne m hm)
  have hholds : Holds (v.put fd s).fds (w₀.since w ++ [⟨.openDev path, fd⟩]) :=
    Locals.holds_opened hv.holds hempty (newFd_since hv.grows hv.holds hnew)
  refine ⟨hv.toUndoing.plain hholds (fun _ => rfl) (fun _ => rfl) trivial
    (Locals.links_congr (v.muxid_put fd s) hfd) ?_, fun counts => ?_⟩
  · intro m hm
    rw [Locals.muxid_put] at hm
    rw [hfd m hm]
    exact hv.upper m hm
  · rw [since_log hv.grows, kept_concat, hv.untouched]
    rfl

/-- A request that makes no link. -/
theorem Linking.asked {req : Request} {reply : Reply} {ppa : Int} (hv : Linking w₀ v w)
    (hreq : Plain ppa req) : Linking w₀ v (w.log ⟨.ioctl fd req, reply⟩) := by
  have he : ∀ counts, linkEntry counts ⟨.ioctl fd req, reply⟩ = none := by
    intro counts
    cases hreq <;> rfl
  have hkept : ∀ counts, kept counts [⟨.ioctl fd req, reply⟩] = [] := by
    intro counts
    cases hreq <;> rfl
  have hg : Guarded (w₀.since w) ⟨.ioctl fd req, reply⟩ := by cases hreq <;> trivial
  refine ⟨hv.toUndoing.plain (hv.holds.quiet rfl) he hkept hg rfl hv.upper, fun counts => ?_⟩
  rw [since_log hv.grows, kept_concat, hv.untouched, hkept]
  rfl

/-- A link that has not been made. -/
theorem Linking.refused {lower : Int} {reply : Reply} (hv : Linking w₀ v w)
    (hret : reply.ret = -1) : Linking w₀ v (w.log ⟨.ioctl fd (.plink lower), reply⟩) := by
  have he : ∀ counts, linkEntry counts ⟨.ioctl fd (.plink lower), reply⟩ = none :=
    fun _ => if_pos hret
  refine ⟨hv.toUndoing.plain (hv.holds.quiet rfl) he (fun _ => rfl) trivial rfl hv.upper,
    fun counts => ?_⟩
  rw [since_log hv.grows, kept_concat, hv.untouched]
  rfl

/-- A link that has been made. -/
theorem Linking.linked {lower : Int} {reply : Reply} (hv : Linking w₀ v w)
    (hnone : v.muxid m = -1) (hupper : 0 ≤ v.fd m.upper) (hret : 0 ≤ reply.ret) :
    Linking w₀ (v.link reply.ret m) (w.log ⟨.ioctl (v.fd m.upper) (.plink lower), reply⟩) := by
  have hsince := since_log (e := ⟨.ioctl (v.fd m.upper) (.plink lower), reply⟩) hv.grows
  have hmade : reply.ret ≠ -1 := by omega
  have hback : (v.link reply.ret m).link (-1) m = v := by
    rw [← hnone]
    cases m <;> rfl
  have hperm : (v.link reply.ret m).links.Perm ((v.fd m.upper, reply.ret) :: v.links) := by
    have hlinks := Locals.links_perm (v := v.link reply.ret m) (m := m) (by simpa using hmade)
    rwa [hback, Locals.fd_link, Locals.muxid_link] at hlinks
  refine ⟨⟨grows_log hv.grows, ?_, fun counts => ?_, ?_⟩, fun counts => ?_⟩
  · rw [hsince, Locals.link_fds]
    exact hv.holds.quiet rfl
  · have hlinks := hv.links counts
    rw [hv.untouched] at hlinks
    rw [hsince, kept_concat, hv.untouched]
    exact (hlinks.made hmade).of_perm hperm.symm
  · intro m' hm'
    rw [Locals.fd_link]
    by_cases heq : m' = m
    · rw [heq]
      exact hupper
    · rw [Locals.muxid_link_of_ne v _ heq] at hm'
      exact hv.upper m' hm'
  · rw [hsince, kept_concat, hv.untouched]
    rfl

/-- A descriptor that has been linked is closed: no link is on it. -/
theorem Linking.closed {u : Unit} (hv : Linking w₀ v w) (hlower : 0 ≤ v.fd m.lower) :
    Linking w₀ (v.put (-1) m.lower) (w.log ⟨.close (v.fd m.lower), u⟩) := by
  have hne : ∀ m' : StreamLink, m'.upper ≠ m.lower := by
    intro m'
    cases m <;> cases m' <;> decide
  have hfd : ∀ m', v.muxid m' ≠ -1 → (v.put (-1) m.lower).fd m'.upper = v.fd m'.upper :=
    fun m' _ => Locals.fd_put_of_ne v (-1) (hne m')
  refine ⟨hv.toUndoing.plain (Locals.holds_closed hv.holds) (fun _ => rfl) (fun _ => rfl) ?_
    (Locals.links_congr (v.muxid_put (-1) m.lower) hfd) ?_, fun counts => ?_⟩
  · intro muxid hmem
    have hlinks := (hv.links requested).exact.mem_iff.mp hmem
    rw [kept_requested, List.nil_append] at hlinks
    obtain ⟨m', -, hm'⟩ := List.mem_flatMap.mp hlinks
    have heq : v.fd m.lower = v.fd m'.upper := fd_of_mem_linkAt hm'
    exact Locals.fd_ne hv.holds (hne m').symm hlower heq
  · intro m' hm'
    rw [Locals.muxid_put] at hm'
    rw [hfd m' hm']
    exact hv.upper m' hm'
  · rw [since_log hv.grows, kept_concat, hv.untouched]
    rfl

/-! ## What is left -/

theorem Linking.start (w : World) : Linking w {} w := by
  have hnone : w.since w = [] := List.drop_length
  have hkept : ∀ counts, kept counts (w.since w) = [] := fun counts => by rw [hnone]; rfl
  refine ⟨⟨List.prefix_rfl, ?_, fun counts => ?_, fun m hm => ?_⟩, hkept⟩
  · rw [hnone]
    exact ⟨trivial, trivial, .refl _⟩
  · rw [hkept, hnone]
    exact .nil
  · cases m <;> exact absurd rfl hm

/-- The three links of a device that is plumbed. -/
theorem Locals.Done.links (hv : v.Done) : v.links =
    [(v.ipFd, v.arpMuxid), (v.ipFd, v.ipMuxid), (v.ip6Fd, v.ip6Muxid)] := by
  have hlink : ∀ m, linkAt (v.fd m.upper) (v.muxid m) = [(v.fd m.upper, v.muxid m)] := by
    intro m
    have hm := hv.muxid m
    exact if_neg (by omega)
  show linkAt _ _ ++ (linkAt _ _ ++ (linkAt _ _ ++ [])) = _
  rw [hlink, hlink, hlink]
  rfl

theorem plumbInv_links (L : Allows) (ppa : Int) (w₀ : World) :
    PlumbInv (osEnv L) ppa (0 ≤ ·)
      (fun plumbed w => ∀ counts, Leaves counts (kept counts (w₀.since w)) w₀ plumbed w)
      (fun _ _ => False) (fun _ => Linking w₀) (Undoing w₀) where
  opened {_ v w s path w' fd} hv hempty := by
    rintro ⟨hcred, -, rfl⟩
    have hnew : NewFd w.hist fd := hcred
    have hopened : Linking w₀ (v.put fd s) (w.log ⟨.openDev path, fd⟩) := hv.opened hempty hnew
    rcases hnew with rfl | ⟨hfd, -⟩
    · rw [← hempty, Locals.put_fd] at hopened
      rw [← hempty]
      exact .inl ⟨rfl, hopened.toUndoing⟩
    · exact .inr ⟨hfd, hopened⟩
  asked {_ v w s req w' reply} hv _ hreq he := by
    obtain ⟨hret, rfl⟩ := osEnv_ioctl he
    have hasked : Linking w₀ v (w.log ⟨.ioctl (v.fd s) req, reply⟩) := hv.asked hreq
    exact ⟨hasked, hret.imp_left fun h => ⟨h, hasked.toUndoing⟩⟩
  named _ _ _ h := h
  linked {_ v w m w' reply} hv hupper _ hnone he := by
    obtain ⟨hret, rfl⟩ := osEnv_ioctl he
    exact hret.imp (fun h => ⟨h, (hv.refused h).toUndoing⟩) fun h => ⟨h, hv.linked hnone hupper h⟩
  closed hv hlower := by
    rintro ⟨-, -, rfl⟩
    exact hv.closed hlower
  failed hv := by
    refine ((undoInv_links L w₀).sat hv).post fun plumbed w' ⟨hnone, h⟩ counts => ?_
    have hlinks := h.links counts
    have hempty : ∀ m, Locals.muxid {} m = -1 := fun m => by cases m <;> rfl
    rw [Locals.links_of_none hempty, List.append_nil] at hlinks
    refine ⟨fun _ => ⟨hnone, h.holds.of_slots rfl, hlinks⟩, fun hne => ?_⟩
    rw [hnone] at hne
    exact absurd rfl hne
  done {v w newppa} hv hdone hnewppa counts := by
    have hplumbed : newppa ≠ -1 := by omega
    have hlinks := hv.links counts
    rw [hv.untouched, List.nil_append, hdone.links] at hlinks
    exact ⟨fun h => absurd h hplumbed, fun _ => ⟨hnewppa, hdone.tapFd, hdone.ipFd, hdone.ip6Fd,
      hdone.holds hv.holds, _, _, _, hlinks.of_perm (.swap _ _ _)⟩⟩

end

/-- Whatever is granted and refused, a failed `tapcfg_plumb_device` has closed what it has opened
and has made one `I_PUNLINK` for each link, on its descriptor while that was open; just the links
whose `I_PUNLINK` was refused stay.  A device that is plumbed has its three descriptors and
its three links, and nothing else is open. -/
theorem plumbDevice_leaves (ppa : Int) (w : World) :
    Sat (osEnv anyAnswer) (fun _ => True)
      (fun plumbed w' => Leaves requested [] w plumbed w' ∧
        Leaves granted (kept granted (w.since w')) w plumbed w')
      (fun _ _ => False) (tapcfgPlumbDevice ppa) w := by
  refine ((plumbInv_links anyAnswer ppa w).sat (.start w)).post fun plumbed w' h => ⟨?_, h granted⟩
  have hnone := h requested
  rwa [kept_requested] at hnone

/-- The second `I_PLINK` is refused, and so is the `I_PUNLINK` for the first. -/
def refusesArp : Call → Bool
  | .ioctl _ (.plink fd) => fd = 7
  | .ioctl _ (.punlink _) => true
  | _ => false

/-- Its run on unit 0. -/
def plumbRun : Except Fault Plumbed × World :=
  (tapcfgPlumbDevice 0).run (granting refusesArp) initialWorld

/-- Unit 0 is not plumbed, and the first link stays in place. -/
theorem plumbDevice_link_stays :
    Reaches (osEnv anyAnswer) (tapcfgPlumbDevice 0, initialWorld) (.ret {}, plumbRun.2) ∧
      held (linkLedger granted (initialWorld.since plumbRun.2)) = [(3, 0)] ∧
      ¬ Leaves granted [] initialWorld {} plumbRun.2 := by
  have hrun : plumbRun.1 = .ok {} := by decide +kernel
  have hstays : held (linkLedger granted (initialWorld.since plumbRun.2)) = [(3, 0)] := by
    decide +kernel
  have hfollows : Follows (granting refusesArp) (osEnv anyAnswer) :=
    granting_follows fun _ _ => trivial
  have hr := reaches_run hfollows (Prod.ext hrun rfl)
  refine ⟨hr, hstays, fun h => ?_⟩
  have hnone := (h.failed rfl).2.2.exact
  rw [hstays] at hnone
  exact absurd hnone.length_eq (by decide)

end TapCfg.Unix.Solaris
