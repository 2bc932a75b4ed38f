/-
  SolarisTun/Routing.lean --- where the Solaris driver sends a frame.

  Source: drivers/solaris/tuntap/tun.c, lines 909-1094 and 1144-1202.

  While the lists of the driver are lists, `tun_frame` comes back, and what it sends
  up can be written down: a copy for each stream of the unit that listens to
  everything, and then the frame for the control stream, or, when it came from there,
  a copy for each stream of the unit that is eligible for it.
-/
import TapCfg.SolarisTun.Linked

set_option autoImplicit false

namespace TapCfg.SolarisTun

open TapCfg.Foundation
open TapCfg.Foundation.Layout (array)

/-! ## Headers -/

/-- A header is read back where it was put. -/
theorem EtherHeader.read_bytes {h : EtherHeader} (htype : h.type < 65536) (rest : List Byte) :
    EtherHeader.read (h.bytes ++ rest) = some h := by
  have hd : h.dhost.toList.length = 6 := h.dhost.length_toList
  have hs : h.shost.toList.length = 6 := h.shost.length_toList
  have hfirst : (array 6).read (h.bytes ++ rest) = some h.dhost := by
    rw [EtherHeader.bytes, List.append_assoc]
    exact (array 6).read_bytes h.dhost _
  have hdrop : (h.bytes ++ rest).drop 6 = h.shost.toList ++ (header h.type ++ rest) := by
    rw [EtherHeader.bytes, List.append_assoc, List.drop_left' hd, List.append_assoc]
  have hsecond : (array 6).read ((h.bytes ++ rest).drop 6) = some h.shost := by
    rw [hdrop]
    exact (array 6).read_bytes h.shost _
  have hlast : (h.bytes ++ rest).drop 12 = header h.type ++ rest := by
    rw [show 12 = 6 + 6 from rfl, ← List.drop_drop, hdrop, List.drop_left' hs]
  have hlen : 14 ≤ (h.bytes ++ rest).length := by
    simp only [EtherHeader.bytes, List.length_append, hd, hs, header, List.length_cons,
      List.length_nil]
    omega
  simp only [EtherHeader.read, hfirst, hsecond, hlast, headerValue_header htype, if_pos hlen,
    Option.bind_eq_bind, Option.bind_some]

theorem EtherHeader.length_bytes (h : EtherHeader) : h.bytes.length = 14 := by
  simp only [EtherHeader.bytes, List.length_append, Vector.length_toList, header, List.length_cons,
    List.length_nil]

theorem EtherHeader.exists_read {block : List Byte} (h : 14 ≤ block.length) :
    ∃ hdr, EtherHeader.read block = some hdr := by
  obtain ⟨dhost, hd, -⟩ := (array 6).exists_read (l := block) (show 6 ≤ _ by omega)
  obtain ⟨shost, hs, -⟩ := (array 6).exists_read (l := block.drop 6)
    (show 6 ≤ _ by rw [List.length_drop]; omega)
  refine ⟨⟨dhost, shost, headerValue (block.drop 12)⟩, ?_⟩
  simp only [EtherHeader.read, hd, hs, if_pos h, Option.bind_eq_bind, Option.bind_some]

/-! ## Copies -/

/-- What a stream gets of a frame with this header. -/
def copyOf (h : EtherHeader) (m : Msg) (str : Tunstr) : Up :=
  if str.flags.raw then .data m
  else .unitdata ⟨h.dhost, h.type⟩ ⟨h.shost, h.type⟩ { m with first := m.first.drop 14 }

/-- A frame with this header is meant for a stream of a unit with this address. -/
def eligible (addr : EtherAddr) (h : EtherHeader) (str : Tunstr) : Bool :=
  if h.type ≤ ethermtu ∧ str.sap = 0 then true
  else h.type = str.sap ∧ h.shost ≠ addr ∧
    (h.dhost = addr ∨ h.dhost = broadcastaddr ∨ h.dhost.multicast)

/-- The streams that want a frame and take it, each with its copy. -/
def offered (d : Driver) (k : Kernel) (pass : Pass) (want : Tunstr → Bool) (copy : Tunstr → Up)
    (strs : List Nat) : Ups :=
  strs.filterMap fun tmp => (d.streams.lookup tmp).bind fun str =>
    if want str && k.takes pass tmp then some (tmp, copy str) else none

variable {d : Driver} {k : Kernel} {strs : List Nat} {members : Nat → List Nat} {rq a : Nat}
  {str : Tunstr} {ppa : Tunppa} {m : Msg} {h : EtherHeader}

theorem copyFor_eq (hread : EtherHeader.read m.first = some h) (str : Tunstr) :
    copyFor str m = some (copyOf h m str) := by
  unfold copyFor copyOf
  split
  · rfl
  · simp only [tunUnitdataInd, hread, Option.bind_eq_bind, Option.bind_some]

theorem tunFrameIsEligible_eq (hat : str.ppa = some a) (hppa : d.ppas.lookup a = some ppa)
    (h : EtherHeader) : tunFrameIsEligible d h str = some (eligible ppa.etheraddr h str) := by
  unfold tunFrameIsEligible eligible
  by_cases h802 : h.type ≤ ethermtu ∧ str.sap = 0
  · simp only [if_pos h802]
    rfl
  · simp only [if_neg h802, hat, hppa, Option.bind_eq_bind, Option.bind_some]
    by_cases hsap : h.type = str.sap
    · by_cases hmine : h.shost = ppa.etheraddr
      · simp [hsap, hmine]
      · simp [hsap, hmine]
    · simp [hsap]

/-- The streams are gone through to the end. -/
theorem offer_eq {pass : Pass} {wants : Tunstr → Option Bool} {want : Tunstr → Bool}
    (hread : EtherHeader.read m.first = some h)
    (hwants : ∀ tmp ∈ strs, ∃ str, d.streams.lookup tmp = some str ∧ wants str = some (want str)) :
    offer d k pass wants m strs = some (offered d k pass want (copyOf h m) strs) := by
  induction strs with
  | nil => rfl
  | cons tmp strs ih =>
      obtain ⟨str, hstr, hwant⟩ := hwants tmp List.mem_cons_self
      have hrest := ih fun b hb => hwants b (List.mem_cons_of_mem tmp hb)
      unfold offer at hrest ⊢
      rw [List.foldrM_cons, hrest, Option.bind_eq_bind, Option.bind_some]
      simp only [hstr, hwant, Option.bind_eq_bind, Option.bind_some, offered, List.filterMap_cons,
        copyFor_eq hread]
      split <;> rfl

/-! ## A frame -/

/-- Both passes over the streams of a unit. -/
theorem Linked.offers (hL : Linked d strs members) (hppa : d.ppas.lookup a = some ppa)
    (hread : EtherHeader.read m.first = some h) (k : Kernel) :
    visited pLink d.streams ppa.pStr = some (members a) ∧
      offer d k .sniffer (fun tmp => some tmp.flags.sniffer) m (members a) =
        some (offered d k .sniffer (fun s => s.flags.sniffer) (copyOf h m) (members a)) ∧
      offer d k .protocol
          (fun tmp => (EtherHeader.read m.first).bind fun h => tunFrameIsEligible d h tmp) m
          (members a) =
        some (offered d k .protocol (eligible ppa.etheraddr h) (copyOf h m) (members a)) := by
  refine ⟨visited_eq_some_iff.mpr (hL.lists hppa), offer_eq hread fun tmp htmp => ?_,
    offer_eq hread fun tmp htmp => ?_⟩
  · obtain ⟨s, hs⟩ := mem_iff_lookup.mp (hL.held htmp)
    exact ⟨s, hs, rfl⟩
  · obtain ⟨s, hs⟩ := mem_iff_lookup.mp (hL.held htmp)
    refine ⟨s, hs, ?_⟩
    rw [hread, Option.bind_some]
    exact tunFrameIsEligible_eq ((hL.member_iff hs a).mp htmp).1 hppa h

/-- A frame from the control stream of a unit. -/
theorem Linked.frame_control (hL : Linked d strs members) (hstr : d.streams.lookup rq = some str)
    (hat : str.ppa = some a) (hcontrol : str.flags.control = true)
    (hppa : d.ppas.lookup a = some ppa) (hread : EtherHeader.read m.first = some h) (k : Kernel)
    (queue : Bool) :
    tunFrame d k rq m queue = some (d,
      offered d k .sniffer (fun s => s.flags.sniffer) (copyOf h m) (members a) ++
        offered d k .protocol (eligible ppa.etheraddr h) (copyOf h m) (members a)) := by
  obtain ⟨hvisited, hsniffed, hrouted⟩ := hL.offers hppa hread k
  simp only [tunFrame, hstr, hat, hppa, hvisited, hsniffed, hrouted, hcontrol, if_true,
    Option.bind_eq_bind, Option.bind_some]
  rfl

/-- A frame from another stream of a unit. -/
theorem Linked.frame_protocol (hL : Linked d strs members) (hstr : d.streams.lookup rq = some str)
    (hat : str.ppa = some a) (hcontrol : str.flags.control = false)
    (hppa : d.ppas.lookup a = some ppa) (hread : EtherHeader.read m.first = some h) (k : Kernel)
    (queue : Bool) :
    tunFrame d k rq m queue =
      let sniffed := offered d k .sniffer (fun s => s.flags.sniffer) (copyOf h m) (members a)
      some <|
        if k.takes .control ppa.rq then (d, sniffed ++ [(ppa.rq, .data m)])
        else if queue then ({ d with
          streams := adjust rq (fun s => { s with wq := putBehindHigh s.wq (.data m) }) d.streams },
          sniffed)
        else (d, sniffed) := by
  obtain ⟨hvisited, hsniffed, -⟩ := hL.offers hppa hread k
  obtain ⟨-, c, hc, -⟩ := hL.roles.units (unitOf_eq hppa)
  obtain ⟨s, hs, -⟩ := Option.map_eq_some_iff.mp hc
  have hlive : ¬ ppa.rq ∉ d.streams := not_not.mpr (mem_iff_lookup.mpr ⟨s, hs⟩)
  simp only [tunFrame, hstr, hat, hppa, hvisited, hsniffed, hcontrol, Option.bind_eq_bind,
    Option.bind_some, Bool.false_eq_true, if_false, if_neg hlive]
  split
  · rfl
  · split <;> rfl

end TapCfg.SolarisTun
