/-
  SolarisTun/Linked.lean --- what the pointers of the Solaris driver stand for.

  Source: drivers/solaris/tuntap/tun.c, lines 262-452 and 590-659.

  `Linked` says that the lists in memory are lists, that all streams are on the
  first, and that the list of a unit holds the streams attached to it.  An
  operation that finds them so comes back and leaves them so, unless a stream that
  has a unit is given another.
-/
import TapCfg.SolarisTun.Driver
import TapCfg.SolarisTun.Roles

set_option autoImplicit false

namespace TapCfg.SolarisTun

open TapCfg.Foundation
open Function (update update_self update_of_ne)

def Tunstr.core (str : Tunstr) : Core := ⟨str.ppa, str.flags.control, str.state != .unattached⟩

/-- The stream without its link to the next of its unit. -/
def Tunstr.apart (str : Tunstr) : Tunstr := { str with pNext := none }

def coreOf (d : Driver) (b : Nat) : Option Core := (d.streams.lookup b).map Tunstr.core

def unitOf (d : Driver) (a : Nat) : Option (Nat × Nat) :=
  (d.ppas.lookup a).map fun ppa => (ppa.id, ppa.rq)

def entryOf (d : Driver) (i : Nat) : Option Nat := d.tunPpa[i]?.join

/-- The lists of the driver are these. -/
structure Linked (d : Driver) (strs : List Nat) (members : Nat → List Nat) : Prop where
  streams : Seg sLink d.streams d.tunStr strs none
  all : ∀ b ∈ d.streams, b ∈ strs
  held : ∀ {a b}, b ∈ members a → b ∈ d.streams
  lists : ∀ {a ppa}, d.ppas.lookup a = some ppa → Seg pLink d.streams ppa.pStr (members a) none
  member_iff : ∀ {b str}, d.streams.lookup b = some str →
    ∀ a, b ∈ members a ↔ str.ppa = some a ∧ str.flags.control = false
  roles : Roles (coreOf d) (unitOf d) (entryOf d)

variable {d d' : Driver} {strs : List Nat} {members members' : Nat → List Nat} {rq a : Nat}
  {str str' : Tunstr} {ppa : Tunppa}

theorem coreOf_eq (h : d.streams.lookup rq = some str) : coreOf d rq = some str.core := by
  rw [coreOf, h]
  rfl

theorem unitOf_eq (h : d.ppas.lookup a = some ppa) : unitOf d a = some (ppa.id, ppa.rq) := by
  rw [unitOf, h]
  rfl

/-- The other streams are as they were, up to their links. -/
def Others (rq : Nat) (d d' : Driver) : Prop :=
  ∀ b, b ≠ rq → (d'.streams.lookup b).map Tunstr.apart = (d.streams.lookup b).map Tunstr.apart

/-- What does not depend on the links has not changed. -/
theorem Others.map {β : Type} (h : Others rq d d') (g : Tunstr → β)
    (hg : ∀ s : Tunstr, g s.apart = g s) {b : Nat} (hne : b ≠ rq) :
    (d'.streams.lookup b).map g = (d.streams.lookup b).map g := by
  have happly := congrArg (Option.map g) (h b hne)
  rw [Option.map_map, Option.map_map] at happly
  rwa [show g ∘ Tunstr.apart = g from funext hg] at happly

theorem Others.coreOf (h : Others rq d d') (hself : d'.streams.lookup rq = some str') :
    coreOf d' = update (coreOf d) rq (some str'.core) := by
  funext b
  rcases eq_or_ne b rq with rfl | hne
  · rw [update_self, coreOf_eq hself]
  · rw [update_of_ne hne]
    exact h.map Tunstr.core (fun _ => rfl) hne

/-- A stream that still is where it was on the first list gets a place. -/
theorem Linked.reseat (h : Linked d strs members) (hstr : d.streams.lookup rq = some str)
    (htunStr : d'.tunStr = d.tunStr) (hothers : Others rq d d')
    (hself : d'.streams.lookup rq = some str') (hnext : str'.sNext = str.sNext)
    (hlists : ∀ a ppa, d'.ppas.lookup a = some ppa →
      Seg pLink d'.streams ppa.pStr (members' a) none)
    (hmember : ∀ a b, b ≠ rq → (b ∈ members' a ↔ b ∈ members a))
    (hmine : ∀ a, rq ∈ members' a ↔ str'.ppa = some a ∧ str'.flags.control = false)
    (hroles : Roles (SolarisTun.coreOf d') (unitOf d') (entryOf d')) : Linked d' strs members' := by
  have hlive : ∀ b, b ∈ d'.streams ↔ b ∈ d.streams := by
    intro b
    rw [← AList.lookup_isSome, ← AList.lookup_isSome]
    rcases eq_or_ne b rq with rfl | hne
    · rw [hself, hstr]
      rfl
    · have hunit := hothers.map (fun _ => ()) (fun _ => rfl) hne
      rw [← Option.isSome_map, hunit, Option.isSome_map]
  refine ⟨?_, fun b hb => h.all b ((hlive b).mp hb), ?_, @fun a ppa => hlists a ppa, ?_, hroles⟩
  · rw [htunStr]
    refine h.streams.transport fun b _ => ?_
    rcases eq_or_ne b rq with rfl | hne
    · rw [hself, hstr]
      exact congrArg some hnext
    · exact hothers.map Tunstr.sNext (fun _ => rfl) hne
  · intro a b hb
    rcases eq_or_ne b rq with rfl | hne
    · exact mem_iff_lookup.mpr ⟨str', hself⟩
    · exact (hlive b).mpr (h.held ((hmember a b hne).mp hb))
  · intro b s hs a
    rcases eq_or_ne b rq with rfl | hne
    · rw [hself] at hs
      cases hs
      exact hmine a
    · have hpair := hothers.map (fun t => (t.ppa, t.flags.control)) (fun _ => rfl) hne
      rw [hs, Option.map_some] at hpair
      obtain ⟨s₀, hs₀, heq⟩ := Option.map_eq_some_iff.mp hpair.symm
      obtain ⟨hppa, hcontrol⟩ := Prod.mk.inj heq
      rw [hmember a b hne, h.member_iff hs₀ a, hppa, hcontrol]

/-- A stream is written that stays where it is. -/
theorem Linked.touch (h : Linked d strs members) (hstr : d.streams.lookup rq = some str)
    (f : Tunstr → Tunstr) (hs : (f str).sNext = str.sNext) (hp : (f str).pNext = str.pNext)
    (hcore : (f str).core = str.core) :
    Linked { d with streams := adjust rq f d.streams } strs members := by
  have hself : (adjust rq f d.streams).lookup rq = some (f str) := by
    rw [lookup_adjust_self, hstr]
    rfl
  have hsame : ∀ b, b ≠ rq → (adjust rq f d.streams).lookup b = d.streams.lookup b :=
    fun b hb => lookup_adjust_ne hb f d.streams
  have hothers : Others rq d { d with streams := adjust rq f d.streams } :=
    fun b hb => congrArg _ (hsame b hb)
  obtain ⟨hppa, hcontrol, -⟩ : (f str).ppa = str.ppa ∧ (f str).flags.control = str.flags.control ∧
      ((f str).state != .unattached) = (str.state != .unattached) := by
    simpa [Tunstr.core] using hcore
  refine h.reseat hstr rfl hothers hself hs ?_ (fun _ _ _ => Iff.rfl) ?_ ?_
  · intro a ppa hppa
    refine (h.lists hppa).transport fun b _ => ?_
    rcases eq_or_ne b rq with rfl | hne
    · show ((adjust b f d.streams).lookup b).map pLink.next = _
      rw [hself, hstr]
      exact congrArg some hp
    · exact congrArg _ (hsame b hne)
  · intro a
    rw [hppa, hcontrol]
    exact h.member_iff hstr a
  · rw [hothers.coreOf hself, hcore, ← coreOf_eq hstr, Function.update_eq_self]
    exact h.roles

/-- A unit is written that keeps its number and its control stream. -/
theorem unitOf_insert (hppa : d.ppas.lookup a = some ppa) (ppa' : Tunppa) (hid : ppa'.id = ppa.id)
    (hrq : ppa'.rq = ppa.rq) (streams : Cells Tunstr) :
    unitOf { d with streams := streams, ppas := d.ppas.insert a ppa' } = unitOf d := by
  funext x
  unfold unitOf
  rcases eq_or_ne x a with rfl | hne
  · rw [AList.lookup_insert, hppa, Option.map_some, Option.map_some, hid, hrq]
  · rw [AList.lookup_insert_ne hne]

theorem Linked.free (h : Linked d strs members) (hstr : d.streams.lookup rq = some str)
    (hnone : str.ppa = none) : str.flags.control = false ∧ str.state = .unattached := by
  have hcore := h.roles.control_of_free (coreOf_eq hstr) hnone
  have hcontrol : str.flags.control = false := congrArg Core.control hcore
  have hstate : (str.state != .unattached) = false := congrArg Core.attached hcore
  exact ⟨hcontrol, by simpa using hstate⟩

theorem Linked.not_mem_of_free (h : Linked d strs members) (hstr : d.streams.lookup rq = some str)
    (hnone : str.ppa = none) (x : Nat) : rq ∉ members x := by
  rw [h.member_iff hstr x, hnone]
  rintro ⟨hx, -⟩
  cases hx

/-- A free stream is attached. -/
theorem Linked.attach (h : Linked d strs members) (hstr : d.streams.lookup rq = some str)
    (hnone : str.ppa = none) (hppa : d.ppas.lookup a = some ppa) (state : DlState) :
    ∃ d', attachTo d rq a state = some d' ∧
      Linked d' strs (update members a (rq :: members a)) := by
  obtain ⟨hcontrol, -⟩ := h.free hstr hnone
  have hnot := h.not_mem_of_free hstr hnone
  have hlist : Seg pLink d.streams ppa.pStr ([] ++ members a) none := h.lists hppa
  obtain ⟨p', mem', hlink, hseg, hrel⟩ := hlist.linkAt (mem_iff_lookup.mpr ⟨str, hstr⟩) (hnot a)
  -- the stream as it is linked in
  have hapart := hrel.rest Tunstr.apart (fun _ _ => rfl) rq
  rw [hstr, Option.map_some] at hapart
  obtain ⟨linked, hlinked, heq⟩ := Option.map_eq_some_iff.mp hapart
  let place (s : Tunstr) : Tunstr := { s with ppa := some a, state := state }
  let d' : Driver := { d with
    streams := adjust rq place mem', ppas := d.ppas.insert a { ppa with pStr := p' } }
  have hself : d'.streams.lookup rq = some (place linked) := by
    show (adjust rq place mem').lookup rq = _
    rw [lookup_adjust_self, hlinked]
    rfl
  have hsame : ∀ b, b ≠ rq → d'.streams.lookup b = d.streams.lookup b := fun b hb =>
    (lookup_adjust_ne hb place mem').trans
      (hrel.others b fun hmem => hb (List.mem_singleton.mp hmem))
  have hothers : Others rq d d' := fun b hb => congrArg _ (hsame b hb)
  have hflags : (place linked).flags.control = false :=
    (congrArg (fun s : Tunstr => s.flags.control) heq).trans hcontrol
  refine ⟨d', ?_, h.reseat hstr rfl hothers hself (congrArg Tunstr.sNext heq :) ?_ ?_ ?_ ?_⟩
  · have hlink' : linkAt pLink d.streams ppa.pStr none rq = some (p', mem') := hlink
    simp only [attachTo, hppa, hlink', Option.bind_eq_bind, Option.bind_some]
    rfl
  · intro x px hx
    rcases eq_or_ne x a with rfl | hne
    · rw [AList.lookup_insert] at hx
      cases hx
      rw [update_self]
      exact hseg.transport fun b _ =>
        map_lookup_adjust (g := pLink.next) (f := place) (fun _ => rfl) rq mem' b
    · rw [AList.lookup_insert_ne hne] at hx
      rw [update_of_ne hne]
      refine (h.lists hx).transport fun b hb => congrArg _ (hsame b ?_)
      rintro rfl
      exact hnot x hb
  · intro x b hb
    rcases eq_or_ne x a with rfl | hne
    · rw [update_self, List.mem_cons, or_iff_right hb]
    · rw [update_of_ne hne]
  · intro x
    rcases eq_or_ne x a with rfl | hne
    · rw [update_self]
      exact iff_of_true List.mem_cons_self ⟨rfl, hflags⟩
    · rw [update_of_ne hne]
      exact iff_of_false (hnot x) fun hx => hne (Option.some.inj hx.1).symm
  · rw [hothers.coreOf hself, unitOf_insert hppa { ppa with pStr := p' } rfl rfl]
    refine h.roles.move (coreOf_eq hstr) hcontrol hflags ?_ (fun _ => Option.some_ne_none a)
    rintro x ⟨⟩
    exact ⟨_, unitOf_eq hppa⟩

/-- What is left of the list of a unit when a stream is taken off it. -/
theorem Linked.unchain (h : Linked d strs members) (hstr : d.streams.lookup rq = some str)
    (hat : str.ppa = some a) (hcontrol : str.flags.control = false)
    (hppa : d.ppas.lookup a = some ppa) :
    ∃ p' mem', unchain pLink d.streams ppa.pStr rq = some (p', mem') ∧
      Seg pLink mem' p' ((members a).erase rq) none ∧ mem'.lookup rq = some str ∧
      Relinked pLink (members a) d.streams mem' := by
  have hmem : rq ∈ members a := (h.member_iff hstr a).mpr ⟨hat, hcontrol⟩
  have hseg := h.lists hppa
  obtain ⟨as, bs, hsplit⟩ := List.append_of_mem hmem
  rw [hsplit] at hseg ⊢
  have hnot : rq ∉ as := fun has =>
    (List.nodup_append.mp hseg.nodup).2.2 rq has rq List.mem_cons_self rfl
  obtain ⟨p', mem', hrun, hleft, hrel⟩ := hseg.unchain
  refine ⟨p', mem', hrun, ?_, (hrel.others rq hnot).trans hstr, ?_⟩
  · rwa [List.erase_append_right _ hnot, List.erase_cons_head]
  · exact ⟨fun b hb => hrel.others b fun hmem => hb (List.mem_append_left _ hmem), hrel.rest⟩

/-- The members of another unit are not on this list. -/
theorem Linked.apart (h : Linked d strs members) {x b : Nat} (hne : x ≠ a) (hb : b ∈ members x) :
    b ∉ members a := by
  obtain ⟨s, hs⟩ := mem_iff_lookup.mp (h.held hb)
  intro hba
  have hx := ((h.member_iff hs x).mp hb).1
  rw [((h.member_iff hs a).mp hba).1] at hx
  exact hne (Option.some.inj hx).symm

/-- An attached stream is detached. -/
theorem Linked.detach (h : Linked d strs members) (hstr : d.streams.lookup rq = some str)
    (hat : str.ppa = some a) (hcontrol : str.flags.control = false)
    (hppa : d.ppas.lookup a = some ppa) :
    ∃ p' mem', Foundation.unchain pLink d.streams ppa.pStr rq = some (p', mem') ∧
      Linked { d with
        streams := adjust rq (fun s => { s with ppa := none, state := .unattached }) mem'
        ppas := d.ppas.insert a { ppa with pStr := p' } } strs
        (update members a ((members a).erase rq)) := by
  obtain ⟨p', mem', hrun, hseg, hkept, hrel⟩ := h.unchain hstr hat hcontrol hppa
  let release (s : Tunstr) : Tunstr := { s with ppa := none, state := .unattached }
  let d' : Driver := { d with
    streams := adjust rq release mem', ppas := d.ppas.insert a { ppa with pStr := p' } }
  have hself : d'.streams.lookup rq = some (release str) := by
    show (adjust rq release mem').lookup rq = _
    rw [lookup_adjust_self, hkept]
    rfl
  have hother : ∀ b, b ≠ rq → d'.streams.lookup b = mem'.lookup b :=
    fun b hb => lookup_adjust_ne hb release mem'
  have hothers : Others rq d d' := fun b hb =>
    (congrArg _ (hother b hb)).trans (hrel.rest Tunstr.apart (fun _ _ => rfl) b)
  have hnodup := (h.lists hppa).nodup
  refine ⟨p', mem', hrun, h.reseat hstr rfl hothers hself rfl ?_ ?_ ?_ ?_⟩
  · intro x px hx
    rcases eq_or_ne x a with rfl | hne
    · rw [AList.lookup_insert] at hx
      cases hx
      rw [update_self]
      exact hseg.transport fun b _ =>
        map_lookup_adjust (g := pLink.next) (f := release) (fun _ => rfl) rq mem' b
    · rw [AList.lookup_insert_ne hne] at hx
      rw [update_of_ne hne]
      refine (h.lists hx).transport fun b hb => congrArg _ ?_
      have hout := h.apart hne hb
      have hbrq : b ≠ rq := by
        rintro rfl
        exact hout ((h.member_iff hstr a).mpr ⟨hat, hcontrol⟩)
      exact (hother b hbrq).trans (hrel.others b hout)
  · intro x b hb
    rcases eq_or_ne x a with rfl | hne
    · rw [update_self, List.mem_erase_of_ne hb]
    · rw [update_of_ne hne]
  · intro x
    refine iff_of_false (fun hx => ?_) (fun hx => by cases hx.1)
    rcases eq_or_ne x a with rfl | hne
    · rw [update_self] at hx
      exact hnodup.not_mem_erase hx
    · rw [update_of_ne hne] at hx
      exact h.apart hne hx ((h.member_iff hstr a).mpr ⟨hat, hcontrol⟩)
  · rw [hothers.coreOf hself, unitOf_insert hppa { ppa with pStr := p' } rfl rfl]
    refine h.roles.move (coreOf_eq hstr) hcontrol hcontrol ?_ (fun hx => by cases hx)
    rintro x ⟨⟩

/-- A unit gets another address. -/
theorem Linked.readdress (h : Linked d strs members) (hstr : d.streams.lookup rq = some str)
    (hppa : d.ppas.lookup a = some ppa) (addr : EtherAddr) :
    Linked { d with ppas := d.ppas.insert a { ppa with etheraddr := addr } } strs members := by
  refine h.reseat hstr rfl (fun _ _ => rfl) hstr rfl ?_ (fun _ _ _ => Iff.rfl)
    (h.member_iff hstr) ?_
  · intro x px hx
    rcases eq_or_ne x a with rfl | hne
    · rw [AList.lookup_insert] at hx
      cases hx
      have hlist := h.lists hppa
      exact hlist
    · rw [AList.lookup_insert_ne hne] at hx
      exact h.lists hx
  · have hunit := unitOf_insert hppa { ppa with etheraddr := addr } rfl rfl d.streams
    rw [hunit]
    exact h.roles

/-- The entry that is written, and the others. -/
theorem entryOf_set {i : Nat} (hi : i < tunMaxPpa) (v : Option Nat) (streams : Cells Tunstr)
    (ppas : Cells Tunppa) :
    entryOf { d with tunPpa := d.tunPpa.setIfInBounds i v, streams := streams, ppas := ppas } =
      update (entryOf d) i v := by
  funext j
  unfold entryOf
  rcases eq_or_ne j i with rfl | hne
  · rw [update_self, Vector.getElem?_setIfInBounds_self_of_lt hi]
    rfl
  · rw [update_of_ne hne, Vector.getElem?_setIfInBounds_ne (Ne.symm hne)]

/-- A free stream becomes the control stream of a new unit. -/
theorem Linked.create (h : Linked d strs members) (hstr : d.streams.lookup rq = some str)
    (hnone : str.ppa = none) {page i : Nat} (hpage : page ∉ d.ppas) (hi : i < tunMaxPpa)
    (hentry : entryOf d i = none) (addr : EtherAddr) :
    Linked { d with
      streams := adjust rq (fun s =>
        { s with ppa := some page, flags := { s.flags with control := true } }) d.streams
      tunPpa := d.tunPpa.setIfInBounds i (some page)
      ppas := d.ppas.insert page { id := i, rq := rq, etheraddr := addr } } strs members := by
  obtain ⟨-, hstate⟩ := h.free hstr hnone
  have hnot := h.not_mem_of_free hstr hnone
  have hlookup : d.ppas.lookup page = none := AList.lookup_eq_none.mpr hpage
  have hempty : members page = [] := by
    refine List.eq_nil_iff_forall_not_mem.mpr fun b hb => ?_
    obtain ⟨s, hs⟩ := mem_iff_lookup.mp (h.held hb)
    obtain ⟨u, hu⟩ := h.roles.alloc (coreOf_eq hs) ((h.member_iff hs page).mp hb).1
    rw [unitOf, hlookup] at hu
    cases hu
  let rule (s : Tunstr) : Tunstr :=
    { s with ppa := some page, flags := { s.flags with control := true } }
  have hself : (adjust rq rule d.streams).lookup rq = some (rule str) := by
    rw [lookup_adjust_self, hstr]
    rfl
  have hsame : ∀ b, b ≠ rq → (adjust rq rule d.streams).lookup b = d.streams.lookup b :=
    fun b hb => lookup_adjust_ne hb rule d.streams
  let d' : Driver := { d with
    streams := adjust rq rule d.streams
    tunPpa := d.tunPpa.setIfInBounds i (some page)
    ppas := d.ppas.insert page { id := i, rq := rq, etheraddr := addr } }
  have hothers : Others rq d d' := fun b hb => congrArg _ (hsame b hb)
  show Linked d' strs members
  refine h.reseat hstr rfl hothers hself rfl ?_ (fun _ _ _ => Iff.rfl) ?_ ?_
  · intro x px hx
    rcases eq_or_ne x page with rfl | hne
    · rw [AList.lookup_insert] at hx
      cases hx
      rw [hempty]
      rfl
    · rw [AList.lookup_insert_ne hne] at hx
      refine (h.lists hx).transport fun b hb => congrArg _ (hsame b ?_)
      rintro rfl
      exact hnot x hb
  · intro x
    exact iff_of_false (hnot x) fun hx => by cases hx.2
  · have hunit : unitOf d' = update (unitOf d) page (some (i, rq)) := by
      funext x
      unfold unitOf
      rcases eq_or_ne x page with rfl | hne
      · rw [update_self, AList.lookup_insert]
        rfl
      · rw [update_of_ne hne, AList.lookup_insert_ne hne]
    have hcore : (rule str).core = ⟨some page, true, false⟩ := by
      simp [rule, Tunstr.core, hstate]
    rw [hothers.coreOf hself, hcore, hunit, entryOf_set hi]
    exact h.roles.create (coreOf_eq hstr) hnone (by rw [unitOf, hlookup]; rfl) hentry

/-! ## Closing -/

/-- The stream at `rq` is on no list but the first, and is no longer counted. -/
structure Departing (d : Driver) (strs : List Nat) (members : Nat → List Nat) (rq : Nat) :
    Prop where
  streams : Seg sLink d.streams d.tunStr strs none
  all : ∀ b ∈ d.streams, b ∈ strs
  held : ∀ {a b}, b ∈ members a → b ∈ d.streams ∧ b ≠ rq
  lists : ∀ {a ppa}, d.ppas.lookup a = some ppa → Seg pLink d.streams ppa.pStr (members a) none
  member_iff : ∀ {b str}, b ≠ rq → d.streams.lookup b = some str →
    ∀ a, b ∈ members a ↔ str.ppa = some a ∧ str.flags.control = false
  roles : Roles (update (coreOf d) rq none) (unitOf d) (entryOf d)

/-- The second half of `tunclose`. -/
theorem Departing.finish (h : Departing d strs members rq) (hrq : rq ∈ d.streams) :
    ∃ p' mem', Foundation.unchain sLink d.streams d.tunStr rq = some (p', mem') ∧
      Linked { d with tunStr := p', streams := mem'.erase rq } (strs.erase rq) members := by
  have hseg := h.streams
  obtain ⟨as, bs, hsplit⟩ := List.append_of_mem (h.all rq hrq)
  rw [hsplit] at hseg
  have hnodup := hseg.nodup
  have hnot : rq ∉ as := fun has =>
    (List.nodup_append.mp hnodup).2.2 rq has rq List.mem_cons_self rfl
  have herase : strs.erase rq = as ++ bs := by
    rw [hsplit, List.erase_append_right _ hnot, List.erase_cons_head]
  obtain ⟨p', mem', hrun, hleft, hrel⟩ := hseg.unchain
  -- what does not depend on the first list is as before
  have hmap : ∀ {β : Type} (g : Tunstr → β), (∀ n s, g (sLink.setNext n s) = g s) →
      ∀ b, b ≠ rq → ((mem'.erase rq).lookup b).map g = (d.streams.lookup b).map g := by
    intro β g hg b hb
    rw [AList.lookup_erase_ne hb]
    exact hrel.rest g hg b
  refine ⟨p', mem', hrun, ?_, ?_, ?_, ?_, ?_, ?_⟩
  · rw [herase]
    refine hleft.transport fun b hb => ?_
    rw [AList.lookup_erase_ne]
    rintro rfl
    rw [← herase, hsplit] at hb
    exact hnodup.not_mem_erase hb
  · intro b hb
    obtain ⟨hne, hmem⟩ := AList.mem_erase.mp hb
    exact (List.mem_erase_of_ne hne).mpr (h.all b (hrel.mem_iff.mp hmem))
  · intro a b hb
    obtain ⟨hlive, hne⟩ := h.held hb
    exact AList.mem_erase.mpr ⟨hne, hrel.mem_iff.mpr hlive⟩
  · intro a ppa hppa
    exact (h.lists hppa).transport fun b hb =>
      hmap pLink.next (fun _ _ => rfl) b (h.held hb).2
  · intro b s hs a
    have hne : b ≠ rq := by
      rintro rfl
      rw [AList.lookup_erase] at hs
      cases hs
    have hpair := hmap (fun t => (t.ppa, t.flags.control)) (fun _ _ => rfl) b hne
    rw [hs, Option.map_some] at hpair
    obtain ⟨s₀, hs₀, heq⟩ := Option.map_eq_some_iff.mp hpair.symm
    obtain ⟨hppa, hcontrol⟩ := Prod.mk.inj heq
    rw [h.member_iff hne hs₀ a, hppa, hcontrol]
  · have hcore : coreOf { d with tunStr := p', streams := mem'.erase rq } =
        update (coreOf d) rq none := by
      funext b
      rcases eq_or_ne b rq with rfl | hne
      · rw [update_self, coreOf, AList.lookup_erase]
        rfl
      · rw [update_of_ne hne]
        exact hmap Tunstr.core (fun _ _ => rfl) b hne
    rw [hcore]
    exact h.roles

/-- A free stream departs at once. -/
theorem Linked.departing (h : Linked d strs members) (hstr : d.streams.lookup rq = some str)
    (hnone : str.ppa = none) : Departing d strs members rq where
  streams := h.streams
  all := h.all
  held := fun {a b} hb => ⟨h.held hb, by
    rintro rfl
    exact h.not_mem_of_free hstr hnone a hb⟩
  lists := h.lists
  member_iff := fun _ hs => h.member_iff hs
  roles := h.roles.leave (coreOf_eq hstr) (h.free hstr hnone).1

/-- An attached stream leaves its unit. -/
theorem Linked.leave_member (h : Linked d strs members) (hstr : d.streams.lookup rq = some str)
    (hat : str.ppa = some a) (hcontrol : str.flags.control = false) :
    ∃ d' members', leavePpa d rq str a = some d' ∧ rq ∈ d'.streams ∧
      Departing d' strs members' rq := by
  obtain ⟨u, hu⟩ := h.roles.alloc (coreOf_eq hstr) hat
  obtain ⟨ppa, hppa, -⟩ := Option.map_eq_some_iff.mp hu
  obtain ⟨p', mem', hrun, hseg, hkept, hrel⟩ := h.unchain hstr hat hcontrol hppa
  have hmem : rq ∈ members a := (h.member_iff hstr a).mpr ⟨hat, hcontrol⟩
  have hlive : ∀ {b}, b ∈ mem' ↔ b ∈ d.streams := hrel.mem_iff
  have hcore : coreOf { d with streams := mem', ppas := d.ppas.insert a { ppa with pStr := p' } } =
      coreOf d := funext fun b => hrel.rest Tunstr.core (fun _ _ => rfl) b
  refine ⟨{ d with streams := mem', ppas := d.ppas.insert a { ppa with pStr := p' } },
    update members a ((members a).erase rq), ?_, mem_iff_lookup.mpr ⟨str, hkept⟩, ?_⟩
  · simp only [leavePpa, hppa, hcontrol, hrun, Option.bind_eq_bind, Option.bind_some,
      Bool.false_eq_true, if_false]
  refine ⟨?_, fun b hb => h.all b (hlive.mp hb), ?_, ?_, ?_, ?_⟩
  · exact h.streams.transport fun b _ => hrel.rest sLink.next (fun _ _ => rfl) b
  · intro x b hb
    rcases eq_or_ne x a with rfl | hne
    · rw [update_self] at hb
      refine ⟨hlive.mpr (h.held (List.mem_of_mem_erase hb)), ?_⟩
      rintro rfl
      exact (h.lists hppa).nodup.not_mem_erase hb
    · rw [update_of_ne hne] at hb
      refine ⟨hlive.mpr (h.held hb), ?_⟩
      rintro rfl
      exact h.apart hne hb hmem
  · intro x px hx
    rcases eq_or_ne x a with rfl | hne
    · rw [AList.lookup_insert] at hx
      cases hx
      rwa [update_self]
    · rw [AList.lookup_insert_ne hne] at hx
      rw [update_of_ne hne]
      exact (h.lists hx).transport fun b hb => congrArg _ (hrel.others b (h.apart hne hb))
  · intro b s hne hs x
    have hpair := hrel.rest (fun t : Tunstr => (t.ppa, t.flags.control)) (fun _ _ => rfl) b
    replace hs : mem'.lookup b = some s := hs
    rw [hs, Option.map_some] at hpair
    obtain ⟨s₀, hs₀, heq⟩ := Option.map_eq_some_iff.mp hpair.symm
    obtain ⟨hppa', hcontrol'⟩ := Prod.mk.inj heq
    rw [← hppa', ← hcontrol', ← h.member_iff hs₀ x]
    rcases eq_or_ne x a with rfl | hxa
    · rw [update_self, List.mem_erase_of_ne hne]
    · rw [update_of_ne hxa]
  · rw [hcore, unitOf_insert hppa { ppa with pStr := p' } rfl rfl]
    exact h.roles.leave (coreOf_eq hstr) hcontrol

theorem lt_of_entryOf {i : Nat} (h : entryOf d i = some a) : i < tunMaxPpa := by
  by_contra hge
  rw [entryOf, Vector.getElem?_eq_none (Nat.le_of_not_lt hge)] at h
  cases h

/-- A control stream takes its unit along. -/
theorem Linked.leave_control (h : Linked d strs members) (hstr : d.streams.lookup rq = some str)
    (hat : str.ppa = some a) (hcontrol : str.flags.control = true) :
    ∃ d' members', leavePpa d rq str a = some d' ∧ rq ∈ d'.streams ∧
      Departing d' strs members' rq := by
  obtain ⟨a', i, ha', hunit⟩ := h.roles.alone (coreOf_eq hstr) hcontrol
  obtain rfl : a' = a := Option.some.inj (ha'.symm.trans hat)
  have hentry := (h.roles.units hunit).1
  obtain ⟨ppa, hppa, hid⟩ := Option.map_eq_some_iff.mp hunit
  obtain ⟨rfl, -⟩ := Prod.mk.inj hid
  have hseg := h.lists hppa
  have hlookup := lookup_adjustAll (f := Tunstr.cutOff) hseg.nodup d.streams
  let d' : Driver := { d with
    streams := adjustAll Tunstr.cutOff (members a') d.streams
    tunPpa := d.tunPpa.setIfInBounds ppa.id none
    ppas := d.ppas.erase a' }
  have hnot : ∀ x, rq ∉ members x := by
    intro x hx
    have hfalse := ((h.member_iff hstr x).mp hx).2
    rw [hcontrol] at hfalse
    cases hfalse
  have hlive : ∀ b, b ∈ d'.streams ↔ b ∈ d.streams := by
    intro b
    have hsome := map_lookup_adjustAll (f := Tunstr.cutOff) (g := fun _ => ()) (fun _ => rfl)
      (members a') d.streams b
    rw [← AList.lookup_isSome, ← AList.lookup_isSome, ← Option.isSome_map, hsome, Option.isSome_map]
  -- a stream other than this one is a member, or elsewhere
  have helse : ∀ {b s}, b ≠ rq → d.streams.lookup b = some s → b ∉ members a' →
      s.ppa ≠ some a' := by
    intro b s hne hs hb hsa
    have hctl : s.flags.control = true := by
      by_contra hfalse
      exact hb ((h.member_iff hs a').mpr ⟨hsa, by simpa using hfalse⟩)
    obtain ⟨x, j, hx, hux⟩ := h.roles.alone (coreOf_eq hs) hctl
    obtain rfl : x = a' := Option.some.inj (hx.symm.trans hsa)
    rw [hunit] at hux
    cases hux
    exact hne rfl
  refine ⟨d', update members a' [], ?_, (hlive rq).mpr (mem_iff_lookup.mpr ⟨str, hstr⟩), ?_⟩
  · simp only [leavePpa, hppa, hcontrol, visited_eq_some_iff.mpr hseg, Option.bind_eq_bind,
      Option.bind_some, if_true]
    rfl
  refine ⟨?_, fun b hb => h.all b ((hlive b).mp hb), ?_, ?_, ?_, ?_⟩
  · exact h.streams.transport fun b _ =>
      map_lookup_adjustAll (f := Tunstr.cutOff) (g := sLink.next) (fun _ => rfl) _ _ b
  · intro x b hb
    rcases eq_or_ne x a' with rfl | hne
    · rw [update_self] at hb
      cases hb
    · rw [update_of_ne hne] at hb
      refine ⟨(hlive b).mpr (h.held hb), ?_⟩
      rintro rfl
      exact hnot x hb
  · intro x px hx
    have hne : x ≠ a' := by
      rintro rfl
      rw [AList.lookup_erase] at hx
      cases hx
    rw [AList.lookup_erase_ne hne] at hx
    rw [update_of_ne hne]
    exact (h.lists hx).transport fun b _ =>
      map_lookup_adjustAll (f := Tunstr.cutOff) (g := pLink.next) (fun _ => rfl) _ _ b
  · intro b s hne hs x
    replace hs : (adjustAll Tunstr.cutOff (members a') d.streams).lookup b = some s := hs
    rw [hlookup b] at hs
    by_cases hb : b ∈ members a'
    · rw [if_pos hb] at hs
      obtain ⟨s₀, hs₀, rfl⟩ := Option.map_eq_some_iff.mp hs
      refine iff_of_false (fun hx => ?_) (fun hx => by cases hx.1)
      rcases eq_or_ne x a' with rfl | hxa
      · rw [update_self] at hx
        cases hx
      · rw [update_of_ne hxa] at hx
        exact h.apart hxa hx hb
    · rw [if_neg hb] at hs
      rcases eq_or_ne x a' with rfl | hxa
      · rw [update_self]
        exact iff_of_false List.not_mem_nil fun hx => helse hne hs hb hx.1
      · rw [update_of_ne hxa]
        exact h.member_iff hs x
  · have hcore : update (coreOf d') rq none =
        update (fun x => (coreOf d x).map (Roles.cut a')) rq none := by
      funext b
      rcases eq_or_ne b rq with rfl | hne
      · rw [update_self, update_self]
      rw [update_of_ne hne, update_of_ne hne]
      show ((adjustAll Tunstr.cutOff (members a') d.streams).lookup b).map Tunstr.core = _
      rw [hlookup b]
      cases hs : d.streams.lookup b with
      | none =>
          rw [coreOf, hs]
          split <;> rfl
      | some s =>
          rw [coreOf_eq hs, Option.map_some, Option.map_some]
          by_cases hb : b ∈ members a'
          · obtain ⟨hsa, hfalse⟩ := (h.member_iff hs a').mp hb
            rw [if_pos hb, Option.map_some, Roles.cut,
              if_pos (show s.core.ppa = some a' from hsa)]
            simp [Tunstr.core, Tunstr.cutOff, Core.free, hfalse]
          · rw [if_neg hb, Option.map_some, Roles.cut,
              if_neg (show s.core.ppa ≠ some a' from helse hne hs hb)]
    have hunits : unitOf d' = update (unitOf d) a' none := by
      funext x
      unfold unitOf
      rcases eq_or_ne x a' with rfl | hne
      · rw [update_self, AList.lookup_erase]
        rfl
      · rw [update_of_ne hne, AList.lookup_erase_ne hne]
    rw [hcore, hunits, entryOf_set (lt_of_entryOf hentry)]
    exact h.roles.destroy hunit

/-- `tunclose` comes back, and leaves the lists in order. -/
theorem Linked.close (h : Linked d strs members) (hrq : rq ∈ d.streams) :
    ∃ d' strs' members', tunclose d rq = some d' ∧ Linked d' strs' members' := by
  obtain ⟨str, hstr⟩ := mem_iff_lookup.mp hrq
  -- the first half
  have hleave : ∃ d₁ members', leave d rq str = some d₁ ∧ rq ∈ d₁.streams ∧
      Departing d₁ strs members' rq := by
    unfold leave
    cases hat : str.ppa with
    | none => exact ⟨d, members, rfl, hrq, h.departing hstr hat⟩
    | some a =>
        cases hcontrol : str.flags.control with
        | false => exact h.leave_member hstr hat hcontrol
        | true => exact h.leave_control hstr hat hcontrol
  obtain ⟨d₁, members', hfirst, hrq₁, hdeparting⟩ := hleave
  obtain ⟨p', mem', hrun, hlinked⟩ := hdeparting.finish hrq₁
  refine ⟨_, _, _, ?_, hlinked⟩
  simp only [tunclose, hstr, hfirst, hrun, Option.bind_eq_bind, Option.bind_some]

/-! ## Opening -/

/-- A new stream is linked in between those of the first list. -/
theorem Linked.enter {as bs : List Nat} (h : Linked d (as ++ bs) members) (hrq : rq ∉ d.streams)
    (minor : Nat) :
    ∃ p' mem', linkAt sLink (d.streams.insert rq { minor := minor }) d.tunStr as.getLast? rq =
        some (p', mem') ∧
      Linked { d with tunStr := p', streams := mem' } (as ++ rq :: bs) members := by
  let fresh : Tunstr := { minor := minor }
  have hout : ∀ b ∈ as ++ bs, b ≠ rq := by
    rintro b hb rfl
    exact hrq (h.streams.allocated hb)
  have hseg : Seg sLink (d.streams.insert rq fresh) d.tunStr (as ++ bs) none :=
    h.streams.transport fun b hb => congrArg _ (AList.lookup_insert_ne (hout b hb))
  have hmem : rq ∈ d.streams.insert rq fresh := (AList.mem_insert _).mpr (.inl rfl)
  obtain ⟨p', mem', hrun, hseg', hrel⟩ := hseg.linkAt hmem fun hb => hout rq hb rfl
  have hmap : ∀ {β : Type} (g : Tunstr → β), (∀ n s, g (sLink.setNext n s) = g s) →
      ∀ b, b ≠ rq → (mem'.lookup b).map g = (d.streams.lookup b).map g := by
    intro β g hg b hb
    rw [hrel.rest g hg b, AList.lookup_insert_ne hb]
  have hnew : ∀ {β : Type} (g : Tunstr → β), (∀ n s, g (sLink.setNext n s) = g s) →
      (mem'.lookup rq).map g = some (g fresh) := by
    intro β g hg
    rw [hrel.rest g hg rq, AList.lookup_insert]
    rfl
  have hlive : ∀ {b}, b ∈ mem' ↔ b = rq ∨ b ∈ d.streams :=
    hrel.mem_iff.trans (AList.mem_insert _)
  have hnone : d.streams.lookup rq = none := AList.lookup_eq_none.mpr hrq
  refine ⟨p', mem', hrun, hseg', ?_, ?_, ?_, ?_, ?_⟩
  · intro b hb
    rcases hlive.mp hb with rfl | hold
    · exact List.mem_append_right as List.mem_cons_self
    · rcases List.mem_append.mp (h.all b hold) with hfront | hback
      · exact List.mem_append_left _ hfront
      · exact List.mem_append_right as (List.mem_cons_of_mem rq hback)
  · exact fun hb => hlive.mpr (.inr (h.held hb))
  · intro a ppa hppa
    refine (h.lists hppa).transport fun b hb => hmap pLink.next (fun _ _ => rfl) b ?_
    rintro rfl
    exact hrq (h.held hb)
  · intro b s hs a
    replace hs : mem'.lookup b = some s := hs
    rcases eq_or_ne b rq with rfl | hne
    · have hppa := hnew (fun t => t.ppa) (fun _ _ => rfl)
      rw [hs] at hppa
      refine iff_of_false (fun hb => hrq (h.held hb)) fun hat => ?_
      rw [Option.map_some, hat.1] at hppa
      cases hppa
    · have hpair := hmap (fun t => (t.ppa, t.flags.control)) (fun _ _ => rfl) b hne
      rw [hs, Option.map_some] at hpair
      obtain ⟨s₀, hs₀, heq⟩ := Option.map_eq_some_iff.mp hpair.symm
      obtain ⟨hppa, hcontrol⟩ := Prod.mk.inj heq
      rw [h.member_iff hs₀ a, hppa, hcontrol]
  · have hcore : coreOf { d with tunStr := p', streams := mem' } =
        update (coreOf d) rq (some Core.free) := by
      funext b
      rcases eq_or_ne b rq with rfl | hne
      · rw [update_self]
        exact hnew Tunstr.core (fun _ _ => rfl)
      · rw [update_of_ne hne]
        exact hmap Tunstr.core (fun _ _ => rfl) b hne
    rw [hcore]
    exact h.roles.enter (by rw [coreOf, hnone]; rfl)

/-- What `tunopen` does with the minor and the place it has found. -/
theorem tunopen_eq {clone : Bool} {minor n : Nat} {prev next : Option Nat}
    (hplace : if clone then
      seek sLink d.streams (fun i _ (str : Tunstr) => decide (i < str.minor)) d.tunStr =
        some (n, prev, next)
      else n = minor ∧ prev = none) :
    tunopen d rq clone minor =
      if rq ∈ d.streams then some (d, n)
      else (linkAt sLink (d.streams.insert rq { minor := n }) d.tunStr prev rq).bind fun r =>
        some ({ d with tunStr := r.1, streams := r.2 }, n) := by
  cases clone with
  | false =>
      obtain ⟨rfl, rfl⟩ := hplace
      rfl
  | true =>
      rw [if_pos rfl] at hplace
      simp only [tunopen, if_true, hplace]
      rfl

/-- `tunopen` comes back, and leaves the lists in order.  A clone is put behind those whose minors
are as many as there are before them, another stream in front of all. -/
theorem Linked.opens (h : Linked d strs members) (rq : Nat) (clone : Bool) (minor : Nat) :
    ∃ d' n strs', tunopen d rq clone minor = some (d', n) ∧ Linked d' strs' members := by
  obtain ⟨as, bs, n, next, rfl, hplace⟩ : ∃ as bs n next, strs = as ++ bs ∧
      if clone then
        seek sLink d.streams (fun i _ (str : Tunstr) => decide (i < str.minor)) d.tunStr =
          some (n, as.getLast?, next)
      else n = minor ∧ as.getLast? = none := by
    cases clone with
    | false => exact ⟨[], strs, minor, none, rfl, rfl, rfl⟩
    | true =>
        obtain ⟨as, bs, rfl, hgoes, hstops⟩ :=
          exists_split d.streams (fun i _ (str : Tunstr) => decide (i < str.minor)) 0 strs
        rw [Nat.zero_add] at hstops
        exact ⟨as, bs, as.length, bs.head?, rfl, seek_eq h.streams hgoes hstops⟩
  rw [tunopen_eq hplace]
  by_cases hrq : rq ∈ d.streams
  · exact ⟨d, n, _, if_pos hrq, h⟩
  · obtain ⟨p', mem', hrun, hlinked⟩ := h.enter hrq n
    refine ⟨_, n, _, ?_, hlinked⟩
    rw [if_neg hrq, hrun]
    rfl

end TapCfg.SolarisTun
