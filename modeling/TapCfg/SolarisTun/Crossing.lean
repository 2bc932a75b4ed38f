/-
  SolarisTun/Crossing.lean --- from one Solaris host to another, and the address of a unit.

  Source: drivers/solaris/tuntap/tun.c, lines 814-1120 and 1144-1202;
  src/lib/dlpi.c, lines 138-237.

  A host sends a packet by `DL_UNITDATA_REQ`; the driver puts a header before it and
  hands the frame to the program behind the control stream.  That of the other host
  writes it to its own control stream, and the driver takes the header off again.

  In the last section the library talks to this driver: what it puts on a stream goes
  to `tunwput` and `tunwsrv`, and what it gets is what they have sent up the stream.
-/
import TapCfg.SolarisTun.Careful

set_option autoImplicit false

namespace TapCfg.SolarisTun

open TapCfg.Foundation
open TapCfg.Foundation.Layout (array)
open TapCfg.Unix.Dlpi (word words exchange dlpiSetPhysaddr dlpiGetPhysaddr addrMessage Caller
  DlpiCall)

variable {order : Endian} {d : Driver} {k : Kernel} {strs : List Nat} {members : Nat → List Nat}
  {rq a : Nat} {str : Tunstr} {ppa : Tunppa} {m : Msg} {h : EtherHeader}

/-! ## What is offered -/

theorem mem_offered {pass : Pass} {want : Tunstr → Bool} {copy : Tunstr → Up} {t : Nat} {up : Up} :
    (t, up) ∈ offered d k pass want copy strs ↔ t ∈ strs ∧ ∃ s, d.streams.lookup t = some s ∧
      want s = true ∧ k.takes pass t = true ∧ up = copy s := by
  unfold offered
  rw [List.mem_filterMap]
  constructor
  · rintro ⟨tmp, htmp, hsome⟩
    obtain ⟨s, hs, hcopy⟩ := Option.bind_eq_some_iff.mp hsome
    split at hcopy
    · rename_i hboth
      obtain ⟨hwant, htakes⟩ := Bool.and_eq_true_iff.mp hboth
      cases hcopy
      exact ⟨htmp, s, hs, hwant, htakes, rfl⟩
    · cases hcopy
  · rintro ⟨ht, s, hs, hwant, htakes, rfl⟩
    refine ⟨t, ht, ?_⟩
    rw [hs, Option.bind_some, hwant, htakes]
    rfl

/-- No stream is offered a frame twice in one pass. -/
theorem offered_nodup (hnodup : strs.Nodup) (k : Kernel) (pass : Pass) (want : Tunstr → Bool)
    (copy : Tunstr → Up) : ((offered d k pass want copy strs).map Prod.fst).Nodup := by
  have hsub : ((offered d k pass want copy strs).map Prod.fst).Sublist strs := by
    induction strs with
    | nil => exact List.Sublist.refl []
    | cons tmp strs ih =>
        have hrest := ih (List.nodup_cons.mp hnodup).2
        unfold offered at hrest ⊢
        rw [List.filterMap_cons]
        split
        · exact hrest.cons tmp
        · rename_i up hup
          obtain ⟨s, -, hcopy⟩ := Option.bind_eq_some_iff.mp hup
          split at hcopy
          · cases hcopy
            exact hrest.cons_cons tmp
          · cases hcopy
  exact hnodup.sublist hsub

/-! ## A packet between two hosts -/

/-- A frame to `dhost` is for the unit with this address. -/
def Addressed (dhost addr : EtherAddr) : Prop :=
  dhost = addr ∨ dhost = broadcastaddr ∨ dhost.multicast

theorem eligible_iff (htype : ethermtu < h.type) (addr : EtherAddr) (s : Tunstr) :
    eligible addr h s = true ↔ s.sap = h.type ∧ h.shost ≠ addr ∧ Addressed h.dhost addr := by
  unfold eligible Addressed
  rw [if_neg fun h802 => Nat.not_lt.mpr h802.1 htype]
  simp only [decide_eq_true_eq, eq_comm (a := h.type)]

/-- A packet as the driver hands it to the program. -/
theorem Linked.sent (hL : Linked d strs members) (hstr : d.streams.lookup rq = some str)
    (hidle : str.state = .idle) (hat : str.ppa = some a) (hppa : d.ppas.lookup a = some ppa)
    {mp : List Byte} (hlen : 12 ≤ mp.length) (hprim : word order mp 0 = dlUnitdataReq)
    {dest : EtherAddr} (hdest : (array 6).read (mp.drop (word order mp 8)) = some dest)
    (hsap : ethermtu < str.sap % 65536) (hheader : k.header = true)
    (hroom : k.takes .control ppa.rq = true) (high : Bool) (m : Msg) :
    ∃ sniffed, (∀ t up, (t, up) ∈ sniffed → ∃ s, d.streams.lookup t = some s ∧
        s.flags.sniffer = true) ∧
      tunwput order d k rq (.proto high mp (some m)) = some (d, sniffed ++ [(ppa.rq,
        .data ⟨EtherHeader.bytes ⟨dest, ppa.etheraddr, str.sap % 65536⟩, m.first :: m.cont⟩)]) := by
  have hattached : str.core.attached = true := by
    show (str.state != .unattached) = true
    rw [hidle]
    rfl
  have hcontrol : str.flags.control = false := (hL.roles.attached (coreOf_eq hstr) hattached).2
  have hword : readWord order mp 0 = some dlUnitdataReq := by
    rw [readWord, if_pos (show 0 + 4 ≤ mp.length by omega), hprim]
  have hoffset : readWord order mp 8 = some (word order mp 8) := if_pos hlen
  have htype : ¬ (str.sap % 65536 ≤ ethermtu ∨ str.sap = 0) := by
    rintro (hle | hzero)
    · omega
    · rw [hzero] at hsap
      cases hsap
  have hread := EtherHeader.read_bytes (h := ⟨dest, ppa.etheraddr, str.sap % 65536⟩)
    (show str.sap % 65536 < 65536 by omega) []
  rw [List.append_nil] at hread
  have hframe := hL.frame_protocol hstr hat hcontrol hppa
    (m := ⟨EtherHeader.bytes ⟨dest, ppa.etheraddr, str.sap % 65536⟩, m.first :: m.cont⟩) hread k
    true
  refine ⟨offered d k .sniffer (fun s => s.flags.sniffer)
    (copyOf ⟨dest, ppa.etheraddr, str.sap % 65536⟩
      ⟨EtherHeader.bytes ⟨dest, ppa.etheraddr, str.sap % 65536⟩, m.first :: m.cont⟩) (members a),
    fun t up hmem => ?_, ?_⟩
  · obtain ⟨-, s, hs, hsniffer, -⟩ := mem_offered.mp hmem
    exact ⟨s, hs, hsniffer⟩
  · have hbound : ¬ (str.state ≠ .idle ∨ some a = none) := by
      rw [hidle]
      simp
    simp only [tunwput, hword, Option.bind_eq_bind, Option.bind_some, if_true, tunUnitdataReq, hstr,
      if_neg hbound, hoffset, hdest, hat, hppa, if_neg htype, hheader, hframe, hroom]

/-- A packet as the streams of the other host get it from the program. -/
theorem Linked.received (order : Endian) (h : EtherHeader) (hL : Linked d strs members)
    (hstr : d.streams.lookup rq = some str) (hat : str.ppa = some a)
    (hcontrol : str.flags.control = true)
    (hppa : d.ppas.lookup a = some ppa) (hshort : h.type < 65536) (htype : ethermtu < h.type)
    (k : Kernel) (payload : List Byte) :
    ∃ sniffed routed, (∀ t up, (t, up) ∈ sniffed → ∃ s, d.streams.lookup t = some s ∧
        s.flags.sniffer = true) ∧
      tunwput order d k rq (.data ⟨h.bytes ++ payload, []⟩) = some (d, sniffed ++ routed) ∧
      (routed.map Prod.fst).Nodup ∧
      ∀ t up, (t, up) ∈ routed ↔ ∃ s, d.streams.lookup t = some s ∧
        s.ppa = some a ∧ s.flags.control = false ∧ k.takes .protocol t = true ∧
        s.sap = h.type ∧ h.shost ≠ ppa.etheraddr ∧ Addressed h.dhost ppa.etheraddr ∧
        up = if s.flags.raw then .data ⟨h.bytes ++ payload, []⟩
          else .unitdata ⟨h.dhost, h.type⟩ ⟨h.shost, h.type⟩ ⟨payload, []⟩ := by
  have hread := EtherHeader.read_bytes hshort payload
  have hframe :=
    hL.frame_control hstr hat hcontrol hppa (m := ⟨h.bytes ++ payload, []⟩) hread k true
  have hcopy : ∀ s : Tunstr, copyOf h ⟨h.bytes ++ payload, []⟩ s =
      if s.flags.raw then .data ⟨h.bytes ++ payload, []⟩
      else .unitdata ⟨h.dhost, h.type⟩ ⟨h.shost, h.type⟩ ⟨payload, []⟩ := by
    intro s
    rw [copyOf, List.drop_left' h.length_bytes]
  refine ⟨_, _, fun t up hmem => ?_, hframe, offered_nodup (hL.lists hppa).nodup k _ _ _,
    fun t up => ?_⟩
  · obtain ⟨-, s, hs, hsniffer, -⟩ := mem_offered.mp hmem
    exact ⟨s, hs, hsniffer⟩
  · rw [mem_offered]
    constructor
    · rintro ⟨ht, s, hs, hwant, htakes, rfl⟩
      obtain ⟨hsa, hmember⟩ := (hL.member_iff hs a).mp ht
      obtain ⟨hsap, hsrc, hdst⟩ := (eligible_iff htype ppa.etheraddr s).mp hwant
      exact ⟨s, hs, hsa, hmember, htakes, hsap, hsrc, hdst, hcopy s⟩
    · rintro ⟨s, hs, hsa, hmember, htakes, hsap, hsrc, hdst, rfl⟩
      exact ⟨(hL.member_iff hs a).mpr ⟨hsa, hmember⟩, s, hs,
        (eligible_iff htype ppa.etheraddr s).mpr ⟨hsap, hsrc, hdst⟩, htakes, (hcopy s).symm⟩

theorem word_words (order : Endian) {n : Nat} (hn : n < 0x100000000) (ns : List Nat)
    (rest : List Byte) : word order (words order (n :: ns) ++ rest) 0 = n := by
  rw [words, List.flatMap_cons, List.append_assoc]
  exact Unix.Dlpi.word_putWord order hn [] _

theorem tunDlpi_setPhysaddr {mp : List Byte} (hlen : 4 ≤ mp.length)
    (hprim : word order mp 0 = Unix.Dlpi.dlSetPhysAddrReq) :
    tunDlpi order d k rq mp = tunSetPhysaddrReq d k rq mp := by
  have hword : readWord order mp 0 = some Unix.Dlpi.dlSetPhysAddrReq := by
    rw [readWord, if_pos (show 0 + 4 ≤ mp.length by omega), hprim]
  simp only [tunDlpi, hword, Option.bind_eq_bind, Option.bind_some]
  rfl

theorem tunDlpi_physaddr {mp : List Byte} (hlen : 4 ≤ mp.length)
    (hprim : word order mp 0 = Unix.Dlpi.dlPhysAddrReq) :
    tunDlpi order d k rq mp = tunPhysaddrReq d k rq mp := by
  have hword : readWord order mp 0 = some Unix.Dlpi.dlPhysAddrReq := by
    rw [readWord, if_pos (show 0 + 4 ≤ mp.length by omega), hprim]
  simp only [tunDlpi, hword, Option.bind_eq_bind, Option.bind_some]
  rfl

/-- The request of `dlpi_set_physaddr` is whole. -/
theorem setPhysaddr_request (order : Endian) (addr : EtherAddr) :
    4 ≤ (addrMessage order Unix.Dlpi.dlSetPhysAddrReq [] addr.toList).length ∧
      word order (addrMessage order Unix.Dlpi.dlSetPhysAddrReq [] addr.toList) 0 =
        Unix.Dlpi.dlSetPhysAddrReq := by
  refine ⟨?_, word_words order (by decide) _ _⟩
  rw [addrMessage, List.length_append, Unix.Dlpi.length_words]
  simp only [List.length_cons, List.length_nil]
  omega

/-- What `dlpi_set_physaddr` puts, the driver takes. -/
theorem set_physaddr (order : Endian) (hstr : d.streams.lookup rq = some str)
    (hat : str.ppa = some a) (hppa : d.ppas.lookup a = some ppa) (k : Kernel) (addr : EtherAddr) :
    tunDlpi order d k rq (addrMessage order Unix.Dlpi.dlSetPhysAddrReq [] addr.toList) =
      some ({ d with ppas := d.ppas.insert a { ppa with etheraddr := addr } },
        tundlokack k rq Unix.Dlpi.dlSetPhysAddrReq) := by
  obtain ⟨hlen, hprim⟩ := setPhysaddr_request order addr
  have hwords :
      (words order [Unix.Dlpi.dlSetPhysAddrReq, addr.toList.length, 12 + 0]).length = 12 :=
    Unix.Dlpi.length_words order _
  have hdrop : (addrMessage order Unix.Dlpi.dlSetPhysAddrReq [] addr.toList).drop 12 =
      addr.toList := List.drop_left' hwords
  have hread : (array 6).read addr.toList = some addr := by
    have hbytes := (array 6).read_bytes addr []
    rwa [List.append_nil] at hbytes
  rw [tunDlpi_setPhysaddr hlen hprim]
  simp only [tunSetPhysaddrReq, hstr, hat, hppa, hdrop, hread, Option.bind_eq_bind,
    Option.bind_some]
  rfl

/-- The request of `dlpi_get_physaddr` is whole. -/
theorem physaddr_request (order : Endian) :
    (words order [Unix.Dlpi.dlPhysAddrReq, Unix.Dlpi.dlCurrPhysAddr]).length = 8 ∧
      word order (words order [Unix.Dlpi.dlPhysAddrReq, Unix.Dlpi.dlCurrPhysAddr]) 0 =
        Unix.Dlpi.dlPhysAddrReq := by
  have hword := word_words order (show Unix.Dlpi.dlPhysAddrReq < 0x100000000 by decide)
    [Unix.Dlpi.dlCurrPhysAddr] []
  rw [List.append_nil] at hword
  exact ⟨Unix.Dlpi.length_words order _, hword⟩

/-- The driver's answer to `dlpi_get_physaddr`. -/
theorem get_physaddr (order : Endian) (hstr : d.streams.lookup rq = some str)
    (hat : str.ppa = some a) (hppa : d.ppas.lookup a = some ppa) (hanswers : k.answers = true) :
    tunDlpi order d k rq (words order [Unix.Dlpi.dlPhysAddrReq, Unix.Dlpi.dlCurrPhysAddr]) =
      some (d, [(rq, .reply (.physAddrAck ppa.etheraddr))]) := by
  obtain ⟨hlen, hprim⟩ := physaddr_request order
  have hwhole : ¬ (words order [Unix.Dlpi.dlPhysAddrReq, Unix.Dlpi.dlCurrPhysAddr]).length < 8 := by
    rw [hlen]
    exact Nat.lt_irrefl 8
  rw [tunDlpi_physaddr (by omega) hprim]
  simp only [tunPhysaddrReq, hstr, hat, hppa, if_neg hwhole, hanswers, if_true, Option.bind_eq_bind,
    Option.bind_some]
  rfl

/-- The library takes the acknowledgement. -/
theorem run_setPhysaddr (order : Endian) (fd : Int) (addr : EtherAddr) (prim : Nat)
    (rest : List Byte) (c : Caller) :
    (dlpiSetPhysaddr order fd addr.toList).run
      (exchange 0 ⟨0, (Reply.okAck prim).bytes order, rest⟩) c = (.ok 0, c) := by
  have haddr : addr.toList.length = 6 := addr.length_toList
  have hword : word order ((Reply.okAck prim).bytes order ++ rest) 0 = Unix.Dlpi.dlOkAck :=
    word_words order (by decide) _ _
  rw [Unix.Dlpi.dlpiSetPhysaddr_eq (by rw [haddr]; decide)]
  unfold Unix.Dlpi.acknowledged
  rw [Prog.bind_eq_bind, Prog.run_bind (Unix.Dlpi.run_transact _)]
  rw [if_neg (show ¬ ((0 : Int) < 0 ∨ (0 : Int) ≠ 0) by decide)]
  dsimp only [Unix.Dlpi.Received.buffer]
  rw [hword]
  rfl

/-! ## The library and the driver -/

/-- A stream with what is behind it: the driver, and the answer at the stream head, which
keeps one of high priority. -/
structure StreamHead where
  driver : Driver
  answer : Option Reply

/-- The first answer that goes up the stream. -/
def answerOn (rq : Nat) (ups : Ups) : Option Reply :=
  ups.findSome? fun up => match up with
    | (dest, .reply r) => if dest = rq then some r else none
    | _ => none

/-- `putmsg` and `getmsg` on the stream `rq`, whose queue is served when something has been
put; `rest` is what the buffer of the caller held. -/
def onStream (order : Endian) (k : Kernel) (rq : Nat) (rest : List Byte) :
    Server StreamHead DlpiCall DlpiCall.Ans
  | head, .putmsg _ ctrl => do
      let (d₁, ups₁) ← tunwput order head.driver k rq (.proto false ctrl none)
      let (d₂, ups₂) ← tunwsrv order d₁ k rq
      some ((0 : Int), ⟨d₂, head.answer <|> answerOn rq (ups₁ ++ ups₂)⟩)
  | head, .getmsg _ maxlen => do
      let r ← head.answer
      let bytes := r.bytes order
      -- `MORECTL` when there is more than the buffer holds
      let ret : Int := if maxlen < bytes.length then 1 else 0
      some (⟨ret, bytes.take maxlen, rest⟩, { head with answer := none })

/-- A request that is put on a stream where nothing waits is carried out at once, on the same
streams and units. -/
theorem onStream_putmsg (hstr : d.streams.lookup rq = some str) (hwq : str.wq = [])
    {mp : List Byte} (hlen : 4 ≤ mp.length) (hprim : word order mp 0 ≠ dlUnitdataReq) (k : Kernel)
    (rest : List Byte) (fd : Int) :
    ∃ d₁, (∀ x, d₁.streams.lookup x = d.streams.lookup x) ∧ d₁.ppas = d.ppas ∧
      ∀ d₂ r, tunDlpi order d₁ k rq mp = some (d₂, [(rq, .reply r)]) →
        onStream order k rq rest ⟨d, none⟩ (.putmsg fd mp) = some ((0 : Int), ⟨d₂, some r⟩) := by
  let put (s : Tunstr) : Tunstr := { s with wq := putq s.wq false mp }
  let got (s : Tunstr) : Tunstr := { s with wq := [] }
  have hput : (adjust rq put d.streams).lookup rq =
      some { str with wq := [.proto false mp] } := by
    rw [lookup_adjust_self, hstr, Option.map_some]
    show some { str with wq := putq str.wq false mp } = _
    rw [hwq]
    rfl
  refine ⟨{ d with streams := adjust rq got (adjust rq put d.streams) }, fun x => ?_, rfl,
    fun d₂ r hdlpi => ?_⟩
  · show (adjust rq got (adjust rq put d.streams)).lookup x = _
    rcases eq_or_ne x rq with rfl | hne
    · rw [lookup_adjust_self, hput, hstr, Option.map_some]
      show some { str with wq := [] } = _
      rw [← hwq]
    · rw [lookup_adjust_ne hne, lookup_adjust_ne hne]
  · have hword : readWord order mp 0 = some (word order mp 0) := if_pos (by omega)
    have hqueued : tunwput order d k rq (.proto false mp none) =
        some ({ d with streams := adjust rq put d.streams }, []) := by
      simp only [tunwput, hword, Option.bind_eq_bind, Option.bind_some, if_neg hprim]
      rfl
    have hserved : tunwsrv order { d with streams := adjust rq put d.streams } k rq =
        some (d₂, [(rq, .reply r)]) := by
      simp only [tunwsrv, hput, Option.bind_eq_bind, Option.bind_some]
      exact hdlpi
    have hanswer : answerOn rq ([] ++ [(rq, .reply r)]) = some r := by
      simp [answerOn]
    simp only [onStream, hqueued, hserved, Option.bind_eq_bind, Option.bind_some, hanswer]
    rfl

theorem onStream_getmsg {r : Reply} {maxlen : Nat} (hfits : (r.bytes order).length ≤ maxlen)
    (k : Kernel) (rest : List Byte) (d : Driver) (fd : Int) :
    onStream order k rq rest ⟨d, some r⟩ (.getmsg fd maxlen) =
      some (⟨0, r.bytes order, rest⟩, ⟨d, none⟩) := by
  simp only [onStream, Option.bind_eq_bind, Option.bind_some, if_neg (Nat.not_lt.mpr hfits),
    List.take_of_length_le hfits]

theorem length_okAck (order : Endian) (prim : Nat) :
    ((Reply.okAck prim).bytes order).length = 8 := Unix.Dlpi.length_words order _

theorem bytes_physAddrAck (order : Endian) (addr : EtherAddr) :
    (Reply.physAddrAck addr).bytes order =
      addrMessage order Unix.Dlpi.dlPhysAddrAck [] addr.toList := by
  rw [addrMessage, addr.length_toList]
  rfl

theorem length_physAddrAck (order : Endian) (addr : EtherAddr) :
    ((Reply.physAddrAck addr).bytes order).length = 18 := by
  rw [bytes_physAddrAck, addrMessage, List.length_append, Unix.Dlpi.length_words, List.nil_append,
    addr.length_toList]
  rfl

/-- `dlpi_set_physaddr` on a stream of the driver. -/
theorem run_set (hstr : d.streams.lookup rq = some str) (hat : str.ppa = some a)
    (hwq : str.wq = []) (hppa : d.ppas.lookup a = some ppa) (hanswers : k.answers = true)
    (addr : EtherAddr) (fd : Int) (rest : List Byte) (c : Caller) :
    ∃ d', (dlpiSetPhysaddr order fd addr.toList).runAgainst (onStream order k rq rest) c ⟨d, none⟩ =
        some (.ok 0, c, ⟨d', none⟩) ∧
      (∀ x, d'.streams.lookup x = d.streams.lookup x) ∧
      d'.ppas = d.ppas.insert a { ppa with etheraddr := addr } := by
  obtain ⟨hlen, hprim⟩ := setPhysaddr_request order addr
  obtain ⟨d₁, hstreams, hppas, hput⟩ :=
    onStream_putmsg hstr hwq hlen (by rw [hprim]; decide) k rest fd
  have hset := set_physaddr order ((hstreams rq).trans hstr) hat
    (by rw [hppas, hppa]) k addr
  rw [tundlokack, reply, if_pos hanswers] at hset
  have hfits : ((Reply.okAck Unix.Dlpi.dlSetPhysAddrReq).bytes order).length ≤
      Unix.Dlpi.dlpiBufSize := by
    rw [length_okAck]
    decide
  have hrun := Unix.Dlpi.runAgainst_exchange (s := c) (Unix.Dlpi.makes_acknowledged order)
    (hput _ _ hset) (onStream_getmsg hfits k rest _ fd) rfl
  have hdone := run_setPhysaddr order fd addr Unix.Dlpi.dlSetPhysAddrReq rest c
  have hroom : 12 + addr.toList.length ≤ Unix.Dlpi.dlpiBufSize := by
    rw [addr.length_toList]
    decide
  rw [Unix.Dlpi.dlpiSetPhysaddr_eq hroom] at hdone ⊢
  refine ⟨{ d₁ with ppas := d₁.ppas.insert a { ppa with etheraddr := addr } }, hrun.trans ?_,
    hstreams, congrArg (AList.insert a _) hppas⟩
  exact congrArg (fun r : Except _ _ × Caller => some (r.1, r.2, _)) hdone

/-- `dlpi_get_physaddr` on a stream of the driver. -/
theorem run_get (hstr : d.streams.lookup rq = some str) (hat : str.ppa = some a)
    (hwq : str.wq = []) (hppa : d.ppas.lookup a = some ppa) (hanswers : k.answers = true)
    (fd : Int) (rest : List Byte) {c : Caller} (hroom : 6 ≤ c.hwaddr.length)
    (hint : c.hwaddr.length ≤ 0x7fffffff) :
    ∃ d', (dlpiGetPhysaddr order fd c.hwaddr.length).runAgainst (onStream order k rq rest) c
        ⟨d, none⟩ = some (.ok 6, {
          hwaddr := ppa.etheraddr.toList ++ c.hwaddr.drop 6
          copied := c.copied ++ [(12, 6)] }, ⟨d', none⟩) ∧
      (∀ x, d'.streams.lookup x = d.streams.lookup x) ∧ d'.ppas = d.ppas := by
  obtain ⟨hlen, hprim⟩ := physaddr_request order
  obtain ⟨d₁, hstreams, hppas, hput⟩ :=
    onStream_putmsg hstr hwq (by rw [hlen]; decide) (by rw [hprim]; decide) k rest fd
  have hget := get_physaddr order ((hstreams rq).trans hstr) hat (by rw [hppas, hppa])
    hanswers
  have hfits : ((Reply.physAddrAck ppa.etheraddr).bytes order).length ≤ Unix.Dlpi.dlpiBufSize := by
    rw [length_physAddrAck]
    decide
  have hrun := Unix.Dlpi.runAgainst_exchange (s := c)
    (Unix.Dlpi.makes_takePhysaddr order c.hwaddr.length) (hput _ _ hget)
    (onStream_getmsg hfits k rest _ fd) rfl
  have haddr : ppa.etheraddr.toList.length = 6 := ppa.etheraddr.length_toList
  have hdone := @Unix.Dlpi.run_addrMessage c order fd [] ppa.etheraddr.toList rest
    (by rw [haddr]; decide) (by rw [haddr]; exact hroom) hint
  rw [haddr, ← bytes_physAddrAck] at hdone
  refine ⟨_, hrun.trans ?_, hstreams, hppas⟩
  exact congrArg (fun r : Except _ _ × Caller => some (r.1, r.2, _)) hdone

/-- The address that the library sets by way of a stream is that of the unit of the stream, and
of no other; and the library gets it back, whole and in its place, by way of any stream of the
unit.  No request waits at the two streams, and there is memory for the answers. -/
theorem address_set_get (order : Endian) :
    ∀ d, Runs Loaded (CarefulStep order) d → ∀ k rq str a (addr : EtherAddr) fd rest c,
      d.streams.lookup rq = some str → str.ppa = some a → str.wq = [] → k.answers = true →
    ∃ d' ppa,
      (dlpiSetPhysaddr order fd addr.toList).runAgainst (onStream order k rq rest) c ⟨d, none⟩ =
        some (.ok 0, c, ⟨d', none⟩) ∧
      (∀ x, d'.streams.lookup x = d.streams.lookup x) ∧
      d.ppas.lookup a = some ppa ∧ d'.ppas.lookup a = some { ppa with etheraddr := addr } ∧
      (∀ x, x ≠ a → d'.ppas.lookup x = d.ppas.lookup x) ∧
      ∀ k' t s fd' rest' (c' : Caller), d.streams.lookup t = some s → s.ppa = some a →
        s.wq = [] → k'.answers = true → 6 ≤ c'.hwaddr.length → c'.hwaddr.length ≤ 0x7fffffff →
        ∃ d'', (dlpiGetPhysaddr order fd' c'.hwaddr.length).runAgainst (onStream order k' t rest')
            c' ⟨d', none⟩ = some (.ok 6, {
              hwaddr := addr.toList ++ c'.hwaddr.drop 6
              copied := c'.copied ++ [(12, 6)] }, ⟨d'', none⟩) ∧
          (∀ x, d''.streams.lookup x = d.streams.lookup x) ∧ d''.ppas = d'.ppas := by
  intro d h k rq str a addr fd rest c hstr hat hwq hanswers
  obtain ⟨strs, members, hL⟩ := linked_of_runs h
  obtain ⟨ppa, hppa⟩ := hL.exists_unit hstr hat
  obtain ⟨d', hset, hstreams, hppas⟩ := run_set hstr hat hwq hppa hanswers addr fd rest c
  have hnew : d'.ppas.lookup a = some { ppa with etheraddr := addr } := by
    rw [hppas, AList.lookup_insert]
  refine ⟨d', ppa, hset, hstreams, hppa, hnew, fun x hx => ?_, ?_⟩
  · rw [hppas, AList.lookup_insert_ne hx]
  · intro k' t s fd' rest' c' hs hsa hsq hanswers' hroom hint
    obtain ⟨d'', hget, hstreams', hppas'⟩ :=
      run_get ((hstreams t).trans hs) hsa hsq hnew hanswers' fd' rest' hroom hint
    exact ⟨d'', hget, fun x => (hstreams' x).trans (hstreams x), hppas'⟩

/-- The address is set by way of stream 2, and got by way of the control stream. -/
theorem address_set_get_host : ∃ d' d'',
    (dlpiSetPhysaddr .little 3 [4, 4, 4, 4, 4, 4]).runAgainst (onStream .little (roomy 9) 2 [])
        Unix.Dlpi.sixBytes ⟨host (Vector.replicate 6 2), none⟩ =
      some (.ok 0, Unix.Dlpi.sixBytes, ⟨d', none⟩) ∧
    (dlpiGetPhysaddr .little 3 6).runAgainst (onStream .little (roomy 9) 1 [])
        Unix.Dlpi.sixBytes ⟨d', none⟩ =
      some (.ok 6, ⟨[4, 4, 4, 4, 4, 4], [(12, 6)]⟩, ⟨d'', none⟩) := by
  obtain ⟨d', -, hset, -, -, -, -, hget⟩ :=
    address_set_get .little _ (host_runs (Vector.replicate 6 2)) (roomy 9) 2 _ 5
      (Vector.replicate 6 4) 3 [] Unix.Dlpi.sixBytes (host_bound _) rfl rfl rfl
  obtain ⟨d'', hrun, -⟩ := hget (roomy 9) 1 _ 3 [] Unix.Dlpi.sixBytes
    (host_control (Vector.replicate 6 2)) rfl rfl rfl (by decide) (by decide)
  exact ⟨d', d'', hset, hrun⟩

end TapCfg.SolarisTun
