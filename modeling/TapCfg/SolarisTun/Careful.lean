/-
  SolarisTun/Careful.lean --- runs of the Solaris driver.

  Source: drivers/solaris/tuntap/tun.c, lines 262-1386.

  The driver trusts those who talk to it.  It accepts unit 20 of 20; it gives a
  stream that has a unit another, and leaves it on the list of the first; it sets the
  address of the unit of a stream that has none; it reads behind the end of a
  request.  `Careful` asks for none of this, and takes everything else: any stream
  may be opened again, and with any minor.  Then every call comes back, without
  looking at what is freed and without going in circles, and the lists stay lists.

  The shortest way to a circle: `TUNSETPPA` leaves the state of a stream as it was, so
  that `DL_ATTACH_REQ` takes it for unattached.
-/
import TapCfg.Foundation.Runs
import TapCfg.SolarisTun.Routing

set_option autoImplicit false

namespace TapCfg.SolarisTun

open TapCfg.Foundation
open TapCfg.Foundation.Layout (array)
open TapCfg.Unix.Dlpi (word toSigned)

/-- A call of the rest of the kernel. -/
inductive Call where
  | openStream (rq : Nat) (clone : Bool) (minor : Nat)
  | close (rq : Nat)
  | put (rq : Nat) (put : Put)
  | serve (rq : Nat)
  deriving DecidableEq, Repr

def perform (order : Endian) (d : Driver) (k : Kernel) : Call → Option (Driver × Ups)
  | .openStream rq clone minor => (tunopen d rq clone minor).map fun r => (r.1, [])
  | .close rq => (tunclose d rq).map fun d' => (d', [])
  | .put rq put => tunwput order d k rq put
  | .serve rq => tunwsrv order d k rq

/-- A request that waits is whole, and asks for no second unit. -/
structure CarefulRequest (order : Endian) (str : Tunstr) (mp : List Byte) : Prop where
  whole : 4 ≤ mp.length
  attach : word order mp 0 = Unix.Dlpi.dlAttachReq → str.state = .unattached →
    str.ppa = none ∧ toSigned (word order mp 4) ≠ tunMaxPpa
  physaddr : word order mp 0 = Unix.Dlpi.dlSetPhysAddrReq → str.ppa ≠ none ∧ 18 ≤ mp.length

/-- A stream that has no unit asks for one of those that there are. -/
def AsksForUnit (str : Tunstr) (arg : Option Int) : Prop :=
  str.ppa = none ∧ ∃ p, arg = some p ∧ p ≠ tunMaxPpa

/-- A message is whole. -/
def CarefulPut (order : Endian) (str : Tunstr) : Put → Prop
  | .data m => 14 ≤ m.first.length
  | .proto _ mp _ => 4 ≤ mp.length ∧ (word order mp 0 = dlUnitdataReq →
      12 ≤ mp.length ∧ word order mp 8 + 6 ≤ mp.length)
  | .ioctl (.tunnewppa arg) => AsksForUnit str arg
  | .ioctl (.tunsetppa arg) => AsksForUnit str arg
  | _ => True

/-- What the first message that waits has to be. -/
def CarefulNext (order : Endian) (str : Tunstr) : List Queued → Prop
  | [] => True
  | .data m :: _ => 14 ≤ m.first.length
  | .proto _ mp :: _ => CarefulRequest order str mp

/-- A call that asks for nothing the driver does not guard against. -/
def Careful (order : Endian) (d : Driver) (k : Kernel) : Call → Prop
  | .openStream _ _ _ => True
  | .close rq => rq ∈ d.streams
  | .put rq put =>
      k.page ∉ d.ppas ∧ ∃ str, d.streams.lookup rq = some str ∧ CarefulPut order str put
  | .serve rq => ∃ str, d.streams.lookup rq = some str ∧ CarefulNext order str str.wq

/-- The driver when it has been loaded. -/
def Loaded (d : Driver) : Prop :=
  d.tunPpa = Vector.replicate tunMaxPpa none ∧ d.tunStr = none ∧ d.streams = ∅ ∧ d.ppas = ∅

def CarefulStep (order : Endian) (d d' : Driver) : Prop :=
  ∃ k call ups, Careful order d k call ∧ perform order d k call = some (d', ups)

/-- The call comes back, and the lists are lists. -/
def Sound (r : Option (Driver × Ups)) : Prop :=
  ∃ d' ups strs members, r = some (d', ups) ∧ Linked d' strs members

variable {order : Endian} {d : Driver} {k : Kernel} {strs : List Nat} {members : Nat → List Nat}
  {rq : Nat} {str : Tunstr} {mp : List Byte}

theorem Linked.sound (h : Linked d strs members) (ups : Ups) : Sound (some (d, ups)) :=
  ⟨d, ups, strs, members, rfl, h⟩

theorem Linked.exists_unit (h : Linked d strs members) (hstr : d.streams.lookup rq = some str)
    {a : Nat} (hat : str.ppa = some a) : ∃ ppa, d.ppas.lookup a = some ppa := by
  obtain ⟨u, hu⟩ := h.roles.alloc (coreOf_eq hstr) hat
  obtain ⟨ppa, hppa, -⟩ := Option.map_eq_some_iff.mp hu
  exact ⟨ppa, hppa⟩

/-- A number that the checks let through names an entry. -/
theorem exists_entry (d : Driver) {p : Int} (hlow : 0 ≤ p) (hhigh : ¬ p > tunMaxPpa)
    (hne : p ≠ tunMaxPpa) : ∃ entry, d.tunPpa[p.toNat]? = some entry ∧ p.toNat < tunMaxPpa := by
  have hlt : p.toNat < tunMaxPpa := by omega
  exact ⟨_, Vector.getElem?_eq_getElem hlt, hlt⟩

theorem Linked.exists_of_entry (h : Linked d strs members) {i a : Nat}
    (hentry : d.tunPpa[i]? = some (some a)) : ∃ ppa, d.ppas.lookup a = some ppa := by
  obtain ⟨r, hr⟩ := h.roles.entries (show entryOf d i = some a by rw [entryOf, hentry]; rfl)
  obtain ⟨ppa, hppa, -⟩ := Option.map_eq_some_iff.mp hr
  exact ⟨ppa, hppa⟩

/-! ## Frames -/

theorem Linked.frame (h : Linked d strs members) (hstr : d.streams.lookup rq = some str) {m : Msg}
    (hm : 14 ≤ m.first.length) (k : Kernel) (queue : Bool) : Sound (tunFrame d k rq m queue) := by
  obtain ⟨hdr, hread⟩ := EtherHeader.exists_read hm
  cases hat : str.ppa with
  | none =>
      simp only [tunFrame, hstr, hat, Option.bind_eq_bind, Option.bind_some]
      exact h.sound []
  | some a =>
      obtain ⟨ppa, hppa⟩ := h.exists_unit hstr hat
      cases hcontrol : str.flags.control with
      | true =>
          rw [h.frame_control hstr hat hcontrol hppa hread]
          exact h.sound _
      | false =>
          rw [h.frame_protocol hstr hat hcontrol hppa hread]
          dsimp only
          split
          · exact h.sound _
          · split
            · exact (h.touch hstr (fun s => { s with wq := putBehindHigh s.wq (.data m) })
                rfl rfl rfl).sound _
            · exact h.sound _

theorem Linked.unitdata (h : Linked d strs members) (hstr : d.streams.lookup rq = some str)
    (hlen : 12 ≤ mp.length) (hdest : word order mp 8 + 6 ≤ mp.length) (k : Kernel)
    (cont : Option Msg) : Sound (tunUnitdataReq order d k rq mp cont) := by
  simp only [tunUnitdataReq, hstr, Option.bind_eq_bind, Option.bind_some]
  split
  · exact h.sound _
  · rename_i hbound
    obtain ⟨-, hne⟩ := not_or.mp hbound
    obtain ⟨a, hat⟩ := Option.ne_none_iff_exists'.mp hne
    obtain ⟨ppa, hppa⟩ := h.exists_unit hstr hat
    cases cont with
    | none => exact h.sound _
    | some m =>
        obtain ⟨dest, hread, -⟩ := (array 6).exists_read (l := mp.drop (word order mp 8))
          (show 6 ≤ _ by rw [List.length_drop]; omega)
        have hword : readWord order mp 8 = some (word order mp 8) := if_pos hlen
        simp only [hword, hread, hat, hppa, Option.bind_some]
        split
        · exact h.frame hstr (EtherHeader.length_bytes _).ge k true
        · exact h.sound _

/-! ## Requests -/

theorem Linked.infoReq (h : Linked d strs members) (hstr : d.streams.lookup rq = some str)
    (k : Kernel) (mp : List Byte) : Sound (tunInfoReq d k rq mp) := by
  simp only [tunInfoReq, hstr, Option.bind_eq_bind, Option.bind_some]
  split
  · exact h.sound _
  cases hat : str.ppa with
  | none => exact h.sound _
  | some a =>
      obtain ⟨ppa, hppa⟩ := h.exists_unit hstr hat
      simp only [hppa, Option.map_some, Option.bind_some]
      exact h.sound _

theorem Linked.attachReq (h : Linked d strs members) (hstr : d.streams.lookup rq = some str)
    (hc : str.state = .unattached → str.ppa = none ∧ toSigned (word order mp 4) ≠ tunMaxPpa)
    (k : Kernel) : Sound (tunAttachReq order d k rq mp) := by
  simp only [tunAttachReq, hstr, Option.bind_eq_bind, Option.bind_some]
  split
  · exact h.sound _
  split
  · exact h.sound _
  rename_i hstate
  obtain ⟨hnone, hp⟩ := hc (not_not.mp hstate)
  split
  · exact h.sound _
  rename_i hrange
  obtain ⟨hlow, hhigh⟩ := not_or.mp hrange
  obtain ⟨entry, hentry, -⟩ := exists_entry d (Int.not_lt.mp hlow) hhigh hp
  simp only [hentry, Option.bind_some]
  cases entry with
  | none => exact h.sound _
  | some a =>
      obtain ⟨ppa, hppa⟩ := h.exists_of_entry hentry
      obtain ⟨d', hrun, hlinked⟩ := h.attach hstr hnone hppa .unbound
      simp only [hrun, Option.bind_some]
      exact hlinked.sound _

theorem Linked.detachReq (h : Linked d strs members) (hstr : d.streams.lookup rq = some str)
    (k : Kernel) (mp : List Byte) : Sound (tunDetachReq d k rq mp) := by
  simp only [tunDetachReq, hstr, Option.bind_eq_bind, Option.bind_some]
  split
  · exact h.sound _
  split
  · exact h.sound _
  rename_i hstate
  have hbound : str.state = .unbound := not_not.mp hstate
  have hattached : str.core.attached = true := by
    show (str.state != .unattached) = true
    rw [hbound]
    rfl
  obtain ⟨hne, hcontrol⟩ := h.roles.attached (coreOf_eq hstr) hattached
  obtain ⟨a, hat⟩ := Option.ne_none_iff_exists'.mp hne
  replace hat : str.ppa = some a := hat
  obtain ⟨ppa, hppa⟩ := h.exists_unit hstr hat
  obtain ⟨p', mem', hrun, hlinked⟩ := h.detach hstr hat hcontrol hppa
  simp only [hat, hppa, hrun, Option.bind_some]
  exact hlinked.sound _

theorem Linked.bindReq (h : Linked d strs members) (hstr : d.streams.lookup rq = some str)
    (k : Kernel) (mp : List Byte) : Sound (tunBindReq order d k rq mp) := by
  simp only [tunBindReq, hstr, Option.bind_eq_bind, Option.bind_some]
  split
  · exact h.sound _
  split
  · exact h.sound _
  rename_i hstate
  have hbound : str.state = .unbound := not_not.mp hstate
  cases hat : str.ppa with
  | none => exact h.sound _
  | some a =>
      obtain ⟨ppa, hppa⟩ := h.exists_unit hstr hat
      simp only
      split
      · exact h.sound _
      split
      · exact h.sound _
      simp only [hppa, Option.bind_some]
      refine (h.touch hstr (fun s => { s with sap := word order mp 4, state := .idle }) rfl rfl
        ?_).sound _
      rw [Tunstr.core, Tunstr.core, hbound]
      rfl

theorem Linked.unbindReq (h : Linked d strs members) (hstr : d.streams.lookup rq = some str)
    (k : Kernel) (mp : List Byte) : Sound (tunUnbindReq d k rq mp) := by
  simp only [tunUnbindReq, hstr, Option.bind_eq_bind, Option.bind_some]
  split
  · exact h.sound _
  split
  · exact h.sound _
  rename_i hstate
  have hidle : str.state = .idle := not_not.mp hstate
  refine (h.touch hstr (fun s => { s with state := .unbound, sap := 0 }) rfl rfl ?_).sound _
  rw [Tunstr.core, Tunstr.core, hidle]
  rfl

theorem setPromisc_control {level : Nat} {on : Bool} {flags flags' : Flags}
    (h : setPromisc level on flags = some flags') : flags'.control = flags.control := by
  unfold setPromisc at h
  split at h
  · cases h
    rfl
  split at h
  · cases h
    rfl
  split at h
  · cases h
    rfl
  · cases h

theorem Linked.promiscReq (h : Linked d strs members) (hstr : d.streams.lookup rq = some str)
    (k : Kernel) (mp : List Byte) (prim : Nat) (on : Bool) :
    Sound (promiscReq order d k rq mp prim on) := by
  simp only [SolarisTun.promiscReq, hstr, Option.bind_eq_bind, Option.bind_some]
  split
  · exact h.sound _
  cases hflags : setPromisc (word order mp 4) on str.flags with
  | none => exact h.sound _
  | some flags =>
      refine (h.touch hstr (fun s => { s with flags := flags }) rfl rfl ?_).sound _
      rw [Tunstr.core, Tunstr.core, setPromisc_control hflags]

theorem Linked.physaddrReq (h : Linked d strs members) (hstr : d.streams.lookup rq = some str)
    (k : Kernel) (mp : List Byte) : Sound (tunPhysaddrReq d k rq mp) := by
  simp only [tunPhysaddrReq, hstr, Option.bind_eq_bind, Option.bind_some]
  split
  · exact h.sound _
  cases hat : str.ppa with
  | none => exact h.sound _
  | some a =>
      obtain ⟨ppa, hppa⟩ := h.exists_unit hstr hat
      simp only [hppa, Option.bind_some]
      exact h.sound _

theorem Linked.setPhysaddrReq (h : Linked d strs members) (hstr : d.streams.lookup rq = some str)
    (hne : str.ppa ≠ none) (hlen : 18 ≤ mp.length) (k : Kernel) :
    Sound (tunSetPhysaddrReq d k rq mp) := by
  obtain ⟨a, hat⟩ := Option.ne_none_iff_exists'.mp hne
  obtain ⟨ppa, hppa⟩ := h.exists_unit hstr hat
  obtain ⟨addr, hread, -⟩ := (array 6).exists_read (l := mp.drop 12)
    (show 6 ≤ _ by rw [List.length_drop]; omega)
  simp only [tunSetPhysaddrReq, hstr, hat, hppa, hread, Option.bind_eq_bind, Option.bind_some]
  exact (h.readdress hstr hppa addr).sound _

theorem Linked.request (h : Linked d strs members) (hstr : d.streams.lookup rq = some str)
    (hc : CarefulRequest order str mp) (k : Kernel) : Sound (tunDlpi order d k rq mp) := by
  have hword : readWord order mp 0 = some (word order mp 0) := if_pos hc.whole
  simp only [tunDlpi, hword, Option.bind_eq_bind, Option.bind_some]
  -- `split` looks at all that is left of the switch each time
  refine iteInduction (motive := Sound) (fun _ => h.infoReq hstr k mp) fun _ => ?_
  refine iteInduction (motive := Sound) (fun hprim => h.attachReq hstr (hc.attach hprim) k)
    fun _ => ?_
  refine iteInduction (motive := Sound) (fun _ => h.detachReq hstr k mp) fun _ => ?_
  refine iteInduction (motive := Sound) (fun _ => h.bindReq hstr k mp) fun _ => ?_
  refine iteInduction (motive := Sound) (fun _ => h.unbindReq hstr k mp) fun _ => ?_
  refine iteInduction (motive := Sound)
    (fun _ => h.promiscReq hstr k mp dlPromisconReq true) fun _ => ?_
  refine iteInduction (motive := Sound)
    (fun _ => h.promiscReq hstr k mp dlPromiscoffReq false) fun _ => ?_
  refine iteInduction (motive := Sound) (fun _ => h.physaddrReq hstr k mp) fun _ => ?_
  refine iteInduction (motive := Sound) (fun hprim => ?_) fun _ => ?_
  · obtain ⟨hne, hlen⟩ := hc.physaddr hprim
    exact h.setPhysaddrReq hstr hne hlen k
  exact iteInduction (motive := Sound) (fun _ => h.sound _) fun _ => h.sound _

/-! ## Control -/

/-- The number that `tun_alloc_ppa` finds is that of a free entry. -/
theorem free_of_findIdx {i : Nat}
    (h : d.tunPpa.toList.findIdx? (fun entry => entry.isNone) = some i) :
    i < tunMaxPpa ∧ entryOf d i = none := by
  obtain ⟨hlt, hnone, -⟩ := List.findIdx?_eq_some_iff_getElem.mp h
  rw [Vector.length_toList] at hlt
  refine ⟨hlt, ?_⟩
  rw [entryOf, Vector.getElem?_eq_getElem hlt]
  simpa using hnone

theorem Linked.newPpa (h : Linked d strs members) (hstr : d.streams.lookup rq = some str)
    (hpage : k.page ∉ d.ppas) {arg : Option Int} (hc : AsksForUnit str arg) :
    Sound (tunIoctl d k rq (.tunnewppa arg)) := by
  obtain ⟨hnone, p, rfl, hp⟩ := hc
  simp only [tunIoctl, hstr, Option.bind_eq_bind, Option.bind_some]
  split
  · exact h.sound _
  rename_i hrange
  obtain ⟨hlow, hhigh⟩ := not_or.mp hrange
  by_cases hany : p = -1
  · subst hany
    simp only [if_true, tunAllocPpa]
    cases hfind : d.tunPpa.toList.findIdx? (fun entry => entry.isNone) with
    | none => exact h.sound _
    | some i =>
        obtain ⟨hi, hfree⟩ := free_of_findIdx hfind
        simp only [if_pos hi]
        exact (h.create hstr hnone hpage hi hfree d.localmacaddr).sound _
  · obtain ⟨entry, hentry, hi⟩ := exists_entry d (show (0 : Int) ≤ p by omega) hhigh hp
    simp only [if_neg hany, hentry, Option.bind_some]
    cases entry with
    | some a => exact h.sound _
    | none =>
        simp only [tunAllocPpa, if_neg hany, if_pos hi, Option.bind_some]
        refine (h.create hstr hnone hpage hi ?_ d.localmacaddr).sound _
        rw [entryOf, hentry]
        rfl

theorem Linked.setPpa (h : Linked d strs members) (hstr : d.streams.lookup rq = some str)
    {arg : Option Int} (hc : AsksForUnit str arg) (k : Kernel) :
    Sound (tunIoctl d k rq (.tunsetppa arg)) := by
  obtain ⟨hnone, p, rfl, hp⟩ := hc
  simp only [tunIoctl, hstr, Option.bind_eq_bind, Option.bind_some]
  split
  · exact h.sound _
  rename_i hrange
  obtain ⟨hlow, hhigh⟩ := not_or.mp hrange
  obtain ⟨entry, hentry, -⟩ := exists_entry d (Int.not_lt.mp hlow) hhigh hp
  simp only [hentry, Option.bind_some]
  cases entry with
  | none => exact h.sound _
  | some a =>
      obtain ⟨ppa, hppa⟩ := h.exists_of_entry hentry
      obtain ⟨d', hrun, hlinked⟩ := h.attach hstr hnone hppa str.state
      simp only [hrun, Option.bind_some]
      exact hlinked.sound _

/-! ## Calls -/

theorem Linked.wput (h : Linked d strs members) (hstr : d.streams.lookup rq = some str)
    (hpage : k.page ∉ d.ppas) {put : Put} (hc : CarefulPut order str put) :
    Sound (tunwput order d k rq put) := by
  cases put with
  | data m => exact h.frame hstr hc k true
  | proto high mp cont =>
      obtain ⟨hlen, hunitdata⟩ := hc
      have hword : readWord order mp 0 = some (word order mp 0) := if_pos hlen
      simp only [tunwput, hword, Option.bind_eq_bind, Option.bind_some]
      split
      · obtain ⟨hoffset, hdest⟩ := hunitdata ‹_›
        exact h.unitdata hstr hoffset hdest k cont
      · exact (h.touch hstr (fun s => { s with wq := putq s.wq high mp }) rfl rfl rfl).sound _
  | ioctl ioc =>
      cases ioc with
      | tunnewppa arg => exact h.newPpa hstr hpage hc
      | tunsetppa arg => exact h.setPpa hstr hc k
      | dliocraw =>
          simp only [tunwput, tunIoctl, hstr, Option.bind_eq_bind, Option.bind_some]
          exact (h.touch hstr (fun s => { s with flags := { s.flags with raw := true } })
            rfl rfl rfl).sound _
      | other =>
          simp only [tunwput, tunIoctl, hstr, Option.bind_eq_bind, Option.bind_some]
          exact h.sound _
  | flush write read =>
      cases write with
      | false => exact h.sound _
      | true => exact (h.touch hstr (fun s => { s with wq := [] }) rfl rfl rfl).sound _
  | other => exact h.sound _

theorem Linked.wsrv (h : Linked d strs members) (hstr : d.streams.lookup rq = some str)
    (hc : CarefulNext order str str.wq) (k : Kernel) : Sound (tunwsrv order d k rq) := by
  simp only [tunwsrv, hstr, Option.bind_eq_bind, Option.bind_some]
  cases hwq : str.wq with
  | nil => exact h.sound _
  | cons queued wq =>
      rw [hwq] at hc
      have htouched := h.touch hstr (fun s => { s with wq := wq }) rfl rfl rfl
      have hself : (adjust rq (fun s => { s with wq := wq }) d.streams).lookup rq =
          some { str with wq := wq } := by
        rw [lookup_adjust_self, hstr]
        rfl
      cases queued with
      | data m => exact htouched.frame hself hc k false
      | proto high mp => exact htouched.request hself ⟨hc.whole, hc.attach, hc.physaddr⟩ k

/-- A careful call comes back, and leaves the lists in order. -/
theorem Linked.perform (h : Linked d strs members) {call : Call} (hc : Careful order d k call) :
    Sound (perform order d k call) := by
  cases call with
  | openStream rq clone minor =>
      obtain ⟨d', n, strs', hrun, hlinked⟩ := h.opens rq clone minor
      simp only [SolarisTun.perform, hrun, Option.map_some]
      exact hlinked.sound []
  | close rq =>
      obtain ⟨d', strs', members', hrun, hlinked⟩ := h.close hc
      simp only [SolarisTun.perform, hrun, Option.map_some]
      exact hlinked.sound []
  | put rq put =>
      obtain ⟨hpage, str, hstr, hput⟩ := hc
      exact h.wput hstr hpage hput
  | serve rq =>
      obtain ⟨str, hstr, hnext⟩ := hc
      exact h.wsrv hstr hnext k

theorem Loaded.linked (h : Loaded d) : Linked d [] (fun _ => []) := by
  obtain ⟨htunPpa, htunStr, hstreams, hppas⟩ := h
  have hstream : ∀ b, d.streams.lookup b = none := fun b => by rw [hstreams]; rfl
  have hppa : ∀ a, d.ppas.lookup a = none := fun a => by rw [hppas]; rfl
  have hcore : ∀ b, coreOf d b = none := fun b => by rw [coreOf, hstream]; rfl
  have hunit : ∀ a, unitOf d a = none := fun a => by rw [unitOf, hppa]; rfl
  refine ⟨htunStr, fun b hb => ?_, (fun hb => by cases hb), fun ha => ?_, fun hb => ?_, ?_⟩
  · rw [hstreams] at hb
    exact absurd hb (AList.notMem_empty b)
  · rw [hppa] at ha
    cases ha
  · rw [hstream] at hb
    cases hb
  · refine ⟨fun hb => ?_, fun {i a} hi => ?_, fun hu => ?_, fun hb => ?_, fun hb => ?_⟩
    · rw [hcore] at hb
      cases hb
    · have hlt := lt_of_entryOf hi
      rw [entryOf, htunPpa, Vector.getElem?_eq_getElem hlt] at hi
      simp at hi
    · rw [hunit] at hu
      cases hu
    · rw [hcore] at hb
      cases hb
    · rw [hcore] at hb
      cases hb

theorem linked_of_runs (h : Runs Loaded (CarefulStep order) d) :
    ∃ strs members, Linked d strs members := by
  refine h.invariant (I := fun d => ∃ strs members, Linked d strs members) ?_ ?_
  · intro d hd
    exact ⟨_, _, hd.linked⟩
  · rintro d d' ⟨strs, members, hL⟩ ⟨k, call, ups, hc, hrun⟩
    obtain ⟨d₁, ups₁, strs', members', hrun₁, hL'⟩ := hL.perform hc
    rw [hrun] at hrun₁
    cases hrun₁
    exact ⟨strs', members', hL'⟩

/-! ## A second unit -/

/-- A stream that is put at the front of the list it is on makes a circle of it. -/
theorem Linked.attach_again (h : Linked d strs members) (hstr : d.streams.lookup rq = some str)
    {a : Nat} {ppa : Tunppa} (hat : str.ppa = some a) (hcontrol : str.flags.control = false)
    (hppa : d.ppas.lookup a = some ppa) (state : DlState) :
    ∃ d', attachTo d rq a state = some d' ∧
      (∃ ppa', d'.ppas.lookup a = some ppa' ∧ visited pLink d'.streams ppa'.pStr = none) := by
  have hmem : rq ∈ members a := (h.member_iff hstr a).mpr ⟨hat, hcontrol⟩
  have hseg := h.lists hppa
  obtain ⟨as, bs, hsplit⟩ := List.append_of_mem hmem
  rw [hsplit] at hseg
  have hnot : rq ∉ as := fun has =>
    (List.nodup_append.mp hseg.nodup).2.2 rq has rq List.mem_cons_self rfl
  obtain ⟨q, hfront, hq, -⟩ := seg_append.mp hseg
  obtain rfl : q = some rq := hq
  let place (s : Tunstr) : Tunstr := { s with ppa := some a, state := state }
  let streams := adjust rq place (adjust rq (pLink.setNext ppa.pStr) d.streams)
  have hself : streams.lookup rq = some (place (pLink.setNext ppa.pStr str)) := by
    show (adjust rq place _).lookup rq = _
    rw [lookup_adjust_self, lookup_adjust_self, hstr]
    rfl
  -- from the stream to the old head, and on to the stream
  have hcircle : Seg pLink streams (some rq) (rq :: as) (some rq) := by
    refine ⟨rfl, _, hself, hfront.transport fun b hb => congrArg _ ?_⟩
    have hne : b ≠ rq := fun hbrq => hnot (by rwa [← hbrq])
    exact (lookup_adjust_ne hne place _).trans (lookup_adjust_ne hne _ d.streams)
  have hlinked : linkAt pLink d.streams ppa.pStr none rq =
      some (some rq, adjust rq (pLink.setNext ppa.pStr) d.streams) := by
    have hlive : rq ∈ d.streams := mem_iff_lookup.mpr ⟨str, hstr⟩
    simp only [linkAt, fetch, Option.bind_eq_bind, Option.bind_some, if_pos hlive, assign]
  refine ⟨{ d with streams := streams, ppas := d.ppas.insert a { ppa with pStr := some rq } }, ?_,
    { ppa with pStr := some rq }, AList.lookup_insert _, ?_⟩
  · simp only [attachTo, hppa, hlinked, Option.bind_eq_bind, Option.bind_some]
    rfl
  · refine Option.eq_none_iff_forall_ne_some.mpr fun nodes hnodes => ?_
    exact hcircle.no_end (visited_eq_some_iff.mp hnodes)

/-- The streams of a unit whose list is a circle. -/
theorem frame_hangs {d : Driver} {a b : Nat} {ppa : Tunppa} {s : Tunstr}
    (hppa : d.ppas.lookup a = some ppa) (hcircle : visited pLink d.streams ppa.pStr = none)
    (hs : d.streams.lookup b = some s) (hat : s.ppa = some a) (k : Kernel) (m : Msg)
    (queue : Bool) :
    tunFrame d k b m queue = none := by
  simp only [tunFrame, hs, hat, hppa, hcircle, Option.bind_eq_bind, Option.bind_some,
    Option.bind_none]

/-- What there is of an answer can be looked at. -/
def decidableFound {α : Type} (o : Option α) (P : α → Prop) [DecidablePred P] :
    Decidable (∃ x, o = some x ∧ P x) :=
  match o with
  | none => isFalse fun ⟨_, h, _⟩ => by cases h
  | some a => decidable_of_iff (P a)
      ⟨fun h => ⟨a, rfl, h⟩, fun ⟨_, h, hP⟩ => Option.some.inj h ▸ hP⟩

instance (order : Endian) (str : Tunstr) (mp : List Byte) :
    Decidable (CarefulRequest order str mp) :=
  decidable_of_iff (4 ≤ mp.length ∧
      (word order mp 0 = Unix.Dlpi.dlAttachReq → str.state = .unattached →
        str.ppa = none ∧ toSigned (word order mp 4) ≠ tunMaxPpa) ∧
      (word order mp 0 = Unix.Dlpi.dlSetPhysAddrReq → str.ppa ≠ none ∧ 18 ≤ mp.length))
    ⟨fun ⟨hwhole, hattach, hphysaddr⟩ => ⟨hwhole, hattach, hphysaddr⟩,
      fun h => ⟨h.whole, h.attach, h.physaddr⟩⟩

instance (str : Tunstr) (arg : Option Int) : Decidable (AsksForUnit str arg) :=
  have := decidableFound arg fun p => p ≠ (tunMaxPpa : Int)
  inferInstanceAs (Decidable (_ ∧ _))

instance (order : Endian) (str : Tunstr) (put : Put) : Decidable (CarefulPut order str put) :=
  match put with
  | .data _ => inferInstanceAs (Decidable (_ ≤ _))
  | .proto _ _ _ => inferInstanceAs (Decidable (_ ∧ (_ → _ ∧ _)))
  | .ioctl (.tunnewppa arg) => inferInstanceAs (Decidable (AsksForUnit str arg))
  | .ioctl (.tunsetppa arg) => inferInstanceAs (Decidable (AsksForUnit str arg))
  | .ioctl .dliocraw => inferInstanceAs (Decidable True)
  | .ioctl .other => inferInstanceAs (Decidable True)
  | .flush _ _ => inferInstanceAs (Decidable True)
  | .other => inferInstanceAs (Decidable True)

instance (order : Endian) (str : Tunstr) (wq : List Queued) :
    Decidable (CarefulNext order str wq) :=
  match wq with
  | [] => inferInstanceAs (Decidable True)
  | .data _ :: _ => inferInstanceAs (Decidable (_ ≤ _))
  | .proto _ mp :: _ => inferInstanceAs (Decidable (CarefulRequest order str mp))

instance (order : Endian) (d : Driver) (k : Kernel) (call : Call) :
    Decidable (Careful order d k call) :=
  match call with
  | .openStream _ _ _ => inferInstanceAs (Decidable True)
  | .close rq => inferInstanceAs (Decidable (rq ∈ d.streams))
  | .put rq put =>
      have := decidableFound (d.streams.lookup rq) fun str => CarefulPut order str put
      inferInstanceAs (Decidable (_ ∧ _))
  | .serve rq => decidableFound (d.streams.lookup rq) fun str => CarefulNext order str str.wq

/-- A kernel with room and memory for everything. -/
def roomy (page : Nat) : Kernel := ⟨fun _ _ => true, true, true, true, page⟩

/-- The driver after some careful calls. -/
def carefully (order : Endian) (d : Driver) : List Call → Option Driver
  | [] => some d
  | call :: calls =>
      if Careful order d (roomy calls.length) call then
        (perform order d (roomy calls.length) call).bind fun r => carefully order r.1 calls
      else none

theorem runs_carefully {order : Endian} {d d' : Driver} {calls : List Call}
    (h : Runs Loaded (CarefulStep order) d) (hrun : carefully order d calls = some d') :
    Runs Loaded (CarefulStep order) d' := by
  induction calls generalizing d with
  | nil =>
      cases hrun
      exact h
  | cons call calls ih =>
      unfold carefully at hrun
      split at hrun
      · rename_i hc
        obtain ⟨⟨d₁, ups⟩, hfirst, hrest⟩ := Option.bind_eq_some_iff.mp hrun
        exact ih (h.next ⟨roomy calls.length, call, ups, hc, hfirst⟩) hrest
      · cases hrun

/-- The driver of a host with this address. -/
def loadedWith (addr : EtherAddr) : Driver := ⟨addr, Vector.replicate tunMaxPpa none, none, ∅, ∅⟩

/-- Stream 1 becomes the control stream of unit 0, stream 2 is attached to it and bound to IP. -/
def hostCalls : List Call :=
  [.openStream 1 true 0, .put 1 (.ioctl (.tunnewppa (some 0))), .openStream 2 true 0,
    .put 2 (.proto false (Unix.Dlpi.words .little [0x0b, 0]) none), .serve 2,
    .put 2 (.proto false (Unix.Dlpi.words .little [0x01, 0x0800, 0, 0, 0]) none), .serve 2]

def host (addr : EtherAddr) : Driver :=
  (carefully .little (loadedWith addr) hostCalls).getD (loadedWith addr)

theorem host_runs (addr : EtherAddr) : Runs Loaded (CarefulStep .little) (host addr) := by
  have hrun : carefully .little (loadedWith addr) hostCalls = some (host addr) := rfl
  exact runs_carefully (.start ⟨rfl, rfl, rfl, rfl⟩) hrun

theorem host_unit (addr : EtherAddr) : (host addr).ppas.lookup 5 = some ⟨0, 1, some 2, addr⟩ := rfl

theorem host_control (addr : EtherAddr) : (host addr).streams.lookup 1 =
    some { sNext := some 2, ppa := some 5, flags := { control := true }, minor := 0 } := rfl

theorem host_bound (addr : EtherAddr) : (host addr).streams.lookup 2 =
    some { ppa := some 5, state := .idle, sap := 0x0800, minor := 1 } := rfl

end TapCfg.SolarisTun
