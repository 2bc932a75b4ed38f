/-
  TapWin32/Replies.lean --- what the DHCP server of the driver reads and writes.

  Source: drivers/windows/tap-win32/dhcp.c, lines 25-373.

      getDhcpMessageType_eq   the scan stays inside the options, and looks at the
                              first message type among the complete ones
      sendDhcpMsg_verifies    both checksums of a reply verify
      sendDhcpMsg_answers     a reply is sent exactly when its options fit, and a
                              client that reads it finds its request answered
-/
import TapCfg.TapWin32.Dhcp

set_option autoImplicit false

namespace TapCfg.TapWin32

open TapCfg.Foundation
open TapCfg.Foundation.Layout (htons htons_htons u8 u16 u32 array u16_bytes_htons)

/-! ## The scan for the message type -/

/-- Padding and the end mark of DHCP. -/
def dhcpMarks : Marks := ⟨dhcpPad, dhcpEnd, by decide⟩

theorem msgType_ne_end : dhcpMsgType ≠ dhcpEnd := by decide

theorem msgType_ne_pad : dhcpMsgType ≠ dhcpPad := by decide

/-- The value of the first message type; `-1` when there is none, or its length is not one. -/
def messageType : List Item → Int
  | [] => -1
  | .pad :: items => messageType items
  | .option code data :: items =>
      if code = dhcpMsgType then
        match data with
        | [value] => value.toNat
        | _ => -1
      else messageType items

theorem messageTypeLoop_end (p : List Byte) {optlen i : Nat} (turns : Nat) (h : optlen ≤ i) :
    messageTypeLoop p optlen turns i = some (-1) := by
  cases turns with
  | zero => rfl
  | succ turns => rw [messageTypeLoop, if_neg (by omega)]

/-- A turn of the scan, on the options that are left. -/
def messageTypeTurn (loop : Nat → Option Int) (i : Nat) : List Byte → Option Int
  | [] => some (-1)
  | code :: rest =>
      if code = dhcpEnd then some (-1)
      else if code = dhcpPad then loop (i + 1)
      else if code = dhcpMsgType then
        match rest with
        | len :: value :: _ => if len = 1 then some value.toNat else some (-1)
        | _ => some (-1)
      else
        match rest with
        | len :: _ => loop (i + (len.toNat + 1) + 1)
        | [] => loop (i + 1)

theorem messageTypeLoop_succ {p : List Byte} {optlen i : Nat} (turns : Nat)
    (hlen : optlen ≤ p.length) :
    messageTypeLoop p optlen (turns + 1) i =
      messageTypeTurn (messageTypeLoop p optlen turns) i ((p.take optlen).drop i) := by
  generalize hB : (p.take optlen).drop i = B
  have hBlen : B.length = optlen - i := by
    rw [← hB, List.length_drop, List.length_take]
    omega
  have hread : ∀ k, i + k < optlen → p[i + k]? = B[k]? := by
    intro k hk
    rw [← hB, List.getElem?_drop, List.getElem?_take_of_lt hk]
  cases B with
  | nil =>
      simp only [List.length_nil] at hBlen
      rw [messageTypeLoop, if_neg (by omega)]
      rfl
  | cons code rest =>
      simp only [List.length_cons] at hBlen
      have hcode : p[i]? = some code := hread 0 (by omega)
      have hroom : optlen - i - 1 = rest.length := by omega
      rw [messageTypeLoop, if_pos (by omega), hcode]
      unfold messageTypeTurn
      simp only [Option.bind_eq_bind, Option.bind_some, Option.pure_def, hroom]
      cases rest with
      | nil => simp
      | cons len rest =>
          simp only [List.length_cons] at hBlen
          have hl : p[i + 1]? = some len := hread 1 (by omega)
          cases rest with
          | nil => simp [hl]
          | cons value rest =>
              simp only [List.length_cons] at hBlen
              have hv : p[i + 2]? = some value := hread 2 (by omega)
              simp [hl, hv]

/-- From any place on, the scan finds what the rest of the options says. -/
theorem messageTypeLoop_eq {p : List Byte} {optlen turns i : Nat} {items : List Item}
    {tail : List Byte} (hlen : optlen ≤ p.length) (hturns : optlen ≤ i + turns)
    (h : Splits dhcpMarks ((p.take optlen).drop i) items tail) :
    messageTypeLoop p optlen turns i = some (messageType items) := by
  induction turns generalizing i items with
  | zero =>
      have hnil : (p.take optlen).drop i = [] := by
        apply List.drop_eq_nil_of_le
        rw [List.length_take]
        omega
      rw [hnil] at h
      obtain ⟨rfl, -⟩ := h.unique Stops.done.splits
      rfl
  | succ turns ih =>
      rw [messageTypeLoop_succ turns hlen]
      have hlength : ((p.take optlen).drop i).length = optlen - i := by
        rw [List.length_drop, List.length_take]
        omega
      have hnext : ∀ k, (p.take optlen).drop (i + k) = ((p.take optlen).drop i).drop k := by
        intro k
        rw [List.drop_drop]
      generalize (p.take optlen).drop i = B at h hlength hnext
      have heq := h.eq
      cases items with
      | nil =>
          rw [itemBytes_nil, List.nil_append] at heq
          subst heq
          cases h.stops with
          | done => rfl
          | mark junk => rfl
          | @bare code hpad hstop =>
              have hpad' : code ≠ dhcpPad := hpad
              have hstop' : code ≠ dhcpEnd := hstop
              simp only [List.length_singleton] at hlength
              have hend : messageTypeLoop p optlen turns (i + 1) = some (-1) :=
                messageTypeLoop_end p turns (by omega)
              simp [messageTypeTurn, hpad', hstop', messageType, hend]
          | @cut code len data hpad hstop hcut =>
              have hpad' : code ≠ dhcpPad := hpad
              have hstop' : code ≠ dhcpEnd := hstop
              simp only [List.length_cons] at hlength
              have hend : messageTypeLoop p optlen turns (i + (len.toNat + 1) + 1) = some (-1) :=
                messageTypeLoop_end p turns (by omega)
              by_cases htype : code = dhcpMsgType
              · subst htype
                -- one byte of a longer message type is not enough
                cases data with
                | nil => simp [messageTypeTurn, msgType_ne_end, msgType_ne_pad, messageType]
                | cons value data =>
                    have hne : len ≠ 1 := by
                      rintro rfl
                      simp at hcut
                    simp [messageTypeTurn, msgType_ne_end, msgType_ne_pad, messageType, hne]
              · simp [messageTypeTurn, hpad', hstop', htype, messageType, hend]
      | cons item items =>
          have hsub : Splits dhcpMarks (itemBytes dhcpMarks items ++ tail) items tail :=
            ⟨rfl, fun j hj => h.legal j (List.mem_cons_of_mem _ hj), h.stops⟩
          have hitem := h.legal item List.mem_cons_self
          rw [itemBytes_cons, List.append_assoc] at heq
          generalize itemBytes dhcpMarks items ++ tail = rest at heq hsub
          subst heq
          cases item with
          | pad =>
              have hdrop := hnext 1
              rw [Item.bytes, List.singleton_append, List.drop_one, List.tail_cons] at hdrop
              rw [← hdrop] at hsub
              have hrun := ih (by omega) hsub
              have hpad : dhcpPad ≠ dhcpEnd := by decide
              simp [Item.bytes, messageTypeTurn, dhcpMarks, messageType, hrun, hpad]
          | option code data =>
              obtain ⟨hpad, hstop, hbyte⟩ := hitem
              have hpad' : code ≠ dhcpPad := hpad
              have hstop' : code ≠ dhcpEnd := hstop
              have hlength' := toNat_ofNat_length hbyte
              simp only [Item.bytes, List.cons_append] at hnext ⊢
              by_cases htype : code = dhcpMsgType
              · subst htype
                cases data with
                | nil =>
                    cases rest with
                    | nil => simp [messageTypeTurn, msgType_ne_end, msgType_ne_pad, messageType]
                    | cons b rest =>
                        simp [messageTypeTurn, msgType_ne_end, msgType_ne_pad, messageType]
                | cons value data =>
                    have hone : UInt8.ofNat (value :: data).length = 1 ↔ data = [] := by
                      rw [← UInt8.toNat_inj, hlength', ← List.length_eq_zero_iff]
                      simp
                    simp only [messageTypeTurn, msgType_ne_end, msgType_ne_pad, messageType,
                      List.cons_append, if_true, if_false, hone]
                    cases data <;> rfl
              · have hdrop := hnext (data.length + 1 + 1)
                rw [List.drop_succ_cons, List.drop_succ_cons, List.drop_left] at hdrop
                rw [← hdrop] at hsub
                have hrun := ih (by omega) hsub
                simp only [messageTypeTurn, hpad', hstop', htype, messageType, if_false, hlength']
                exact hrun

/-- The scan never leaves the options, whatever they are; and any options are, in one way only,
complete items and a tail: the first message type among the items decides, also when it has
another length than one. -/
theorem getDhcpMessageType_eq (p : List Byte) {optlen : Nat} (hlen : optlen ≤ p.length) :
    ∃ items tail, Splits dhcpMarks (p.take optlen) items tail ∧
      (∀ items' tail', Splits dhcpMarks (p.take optlen) items' tail' →
        items' = items ∧ tail' = tail) ∧
      getDhcpMessageType p optlen = some (messageType items) := by
  obtain ⟨items, tail, h⟩ := exists_splits dhcpMarks (p.take optlen)
  exact ⟨items, tail, h, fun _ _ h' => h'.unique h, messageTypeLoop_eq hlen (by omega) h⟩

/-- A client's request, with an option cut off behind it. -/
theorem getDhcpMessageType_eq_cut :
    ∃ items tail,
      Splits dhcpMarks ([0, 61, 2, 9, 9, 53, 1, 3, 12, 7, 65].take 11) items tail ∧
      (∀ items' tail', Splits dhcpMarks ([0, 61, 2, 9, 9, 53, 1, 3, 12, 7, 65].take 11)
        items' tail' → items' = items ∧ tail' = tail) ∧
      getDhcpMessageType [0, 61, 2, 9, 9, 53, 1, 3, 12, 7, 65] 11 = some (messageType items) :=
  getDhcpMessageType_eq [0, 61, 2, 9, 9, 53, 1, 3, 12, 7, 65] (by decide)

/-! ## Checksums -/

/-- Without overflow the loops add up the words. -/
theorem sumWords_eq {pad : Bool} {l : List Byte} {sum : Nat} (h : sum + wordSum l < 2 ^ 32)
    (hpad : pad = true ∨ l.length % 2 = 0) : sumWords pad l sum = sum + wordSum l := by
  induction l using wordSum.induct generalizing sum with
  | case1 => rfl
  | case2 b =>
      simp only [List.length_singleton] at hpad
      rcases hpad with rfl | hpad
      · simp only [wordSum] at h
        simp only [sumWords, wordSum, if_true]
        omega
      · omega
  | case3 a b rest ih =>
      simp only [wordSum] at h
      simp only [List.length_cons] at hpad
      have hmod : (sum + (256 * a.toNat + b.toNat)) % 2 ^ 32 = sum + (256 * a.toNat + b.toNat) := by
        omega
      have hrest : pad = true ∨ rest.length % 2 = 0 := hpad.imp id fun h => by omega
      rw [sumWords, hmod, ih (by omega) hrest, wordSum]
      omega

theorem invertSum_toNat (s : Nat) : (invertSum s).toNat = complement s := by
  have hlt := foldCarries_lt s
  rw [invertSum, BitVec.toNat_not, BitVec.toNat_ofNat, complement]
  omega

/-- The sum `udp_checksum` and `icmpv6_checksum` take the complement of. -/
def pseudoSum (protocol : Byte) (buf saddr daddr : List Byte) : Nat :=
  wordSum buf + (wordSum saddr + wordSum daddr + protocol.toNat + buf.length)

theorem ipChecksum_toNat (buf : List Byte) (hlen : buf.length < 2 ^ 16)
    (heven : buf.length % 2 = 0) : (ipChecksum buf).toNat = complement (wordSum buf) := by
  have hle := wordSum_le buf
  rw [ipChecksum, invertSum_toNat, sumWords_eq (by omega) (.inr heven), Nat.zero_add]

theorem pseudoChecksum_toNat (protocol : Byte) (buf saddr daddr : List Byte)
    (hbuf : buf.length < 2 ^ 16) (hsrc : saddr.length ≤ 16) (hdst : daddr.length ≤ 16) :
    (pseudoChecksum protocol buf saddr daddr).toNat =
      complement (pseudoSum protocol buf saddr daddr) := by
  have hb := wordSum_le buf
  have hs := wordSum_le saddr
  have hd := wordSum_le daddr
  have hp := protocol.toNat_lt
  have hsum : ((sumWords true daddr (sumWords true saddr (sumWords true buf 0))) +
      (protocol.toNat + buf.length % 2 ^ 16)) % 2 ^ 32 = pseudoSum protocol buf saddr daddr := by
    rw [sumWords_eq (l := buf) (by omega) (.inl rfl), sumWords_eq (l := saddr) (by omega) (.inl rfl),
      sumWords_eq (l := daddr) (by omega) (.inl rfl), pseudoSum]
    omega
  rw [pseudoChecksum, invertSum_toNat, hsum]

/-- A checksum over zeros, stored in network order. -/
theorem complement_bytes {front : List Byte} (hfront : front.length % 2 = 0) (back : List Byte)
    {extra : Nat} {c : BitVec 16}
    (hc : c.toNat = complement (wordSum (front ++ (u16.bytes 0 ++ back)) + extra)) :
    complement (wordSum (front ++ (u16.bytes (htons c) ++ back)) + extra) = 0 := by
  rw [u16_bytes_htons]
  exact complement_stored hfront back hc

/-- The IP header around its checksum. -/
theorem ipHdr_bytes (h : IpHdr) :
    ∃ front back, front.length = 10 ∧ back.length = 8 ∧
      ∀ check, IpHdr.layout.bytes { h with check := check } = front ++ (u16.bytes check ++ back) := by
  refine ⟨u8.bytes h.versionLen ++ u8.bytes h.tos ++ u16.bytes h.totLen ++ u16.bytes h.id ++
    u16.bytes h.fragOff ++ u8.bytes h.ttl ++ u8.bytes h.protocol,
    u32.bytes h.saddr ++ u32.bytes h.daddr, ?_, ?_, ?_⟩
  · simp only [List.length_append, Layout.length_bytes]
    rfl
  · simp only [List.length_append, Layout.length_bytes]
    rfl
  · intro check
    simp only [List.append_assoc]
    rfl

/-- The UDP header around its checksum. -/
theorem udpHdr_bytes (h : UdpHdr) (back : List Byte) :
    ∃ front, front.length = 6 ∧ ∀ check,
      UdpHdr.layout.bytes { h with check := check } ++ back = front ++ (u16.bytes check ++ back) := by
  refine ⟨u16.bytes h.source ++ u16.bytes h.dest ++ u16.bytes h.len, ?_, ?_⟩
  · simp only [List.length_append, Layout.length_bytes]
    rfl
  · intro check
    rw [← List.append_assoc _ _ back]
    congr 1

/-- Both checksums of a message that is not too long verify. -/
theorem setChecksumDhcpMsg_verifies {pre : DhcpPre} {options : List Byte}
    (hip : pre.ip.check = 0) (hudp : pre.udp.check = 0) (hlen : options.length < 2 ^ 15) :
    ipChecksum (IpHdr.layout.bytes (setChecksumDhcpMsg pre options).ip) = 0 ∧
      udpChecksum (UdpHdr.layout.bytes (setChecksumDhcpMsg pre options).udp ++
          Dhcp.layout.bytes pre.dhcp ++ options)
        (u32.bytes pre.ip.saddr) (u32.bytes pre.ip.daddr) = 0 := by
  have hlen4 : ∀ x : BitVec 32, (u32.bytes x).length = 4 := u32.length_bytes
  constructor
  · obtain ⟨front, back, hfront, hback, hbytes⟩ := ipHdr_bytes pre.ip
    have hzero : IpHdr.layout.bytes pre.ip = front ++ (u16.bytes 0 ++ back) := by
      rw [← hbytes, ← hip]
    have hlength : ∀ x, (front ++ (u16.bytes x ++ back)).length = 20 := by
      intro x
      rw [← hbytes x]
      exact IpHdr.layout.length_bytes _
    apply BitVec.eq_of_toNat_eq
    have hc := ipChecksum_toNat (IpHdr.layout.bytes pre.ip)
      (by rw [hzero, hlength]; decide) (by rw [hzero, hlength])
    rw [hzero, ← Nat.add_zero (wordSum _)] at hc
    have hverify := complement_bytes (by rw [hfront]) back hc
    rw [setChecksumDhcpMsg, hbytes, hzero,
      ipChecksum_toNat _ (by rw [hlength]; decide) (by rw [hlength])]
    exact hverify
  · obtain ⟨front, hfront, hbytes⟩ :=
      udpHdr_bytes pre.udp (Dhcp.layout.bytes pre.dhcp ++ options)
    have hlength : ∀ x, (front ++ (u16.bytes x ++
        (Dhcp.layout.bytes pre.dhcp ++ options))).length = 248 + options.length := by
      intro x
      rw [← hbytes x, List.length_append, List.length_append, UdpHdr.layout.length_bytes,
        Dhcp.layout.length_bytes, size_udpHdr, size_dhcp]
      omega
    have hsrc := hlen4 pre.ip.saddr
    have hdst := hlen4 pre.ip.daddr
    have hsum : ∀ x, (pseudoChecksum ipprotoUdp
        (front ++ (u16.bytes x ++ (Dhcp.layout.bytes pre.dhcp ++ options)))
        (u32.bytes pre.ip.saddr) (u32.bytes pre.ip.daddr)).toNat =
        complement (wordSum (front ++ (u16.bytes x ++ (Dhcp.layout.bytes pre.dhcp ++ options))) +
          (wordSum (u32.bytes pre.ip.saddr) + wordSum (u32.bytes pre.ip.daddr) +
            ipprotoUdp.toNat + (248 + options.length))) := by
      intro x
      rw [pseudoChecksum_toNat _ _ _ _ (by rw [hlength]; omega) (by omega) (by omega), pseudoSum,
        hlength]
    have hverify := complement_bytes (by rw [hfront]) _ (hsum 0)
    apply BitVec.eq_of_toNat_eq
    simp only [setChecksumDhcpMsg, List.append_assoc, hbytes, udpChecksum, hudp]
    rw [hsum]
    exact hverify

/-! ## Replies -/

/-- The items of a reply: those of every reply, and behind them what the user supplied. -/
def replyItems (a : TapAdapter) (type : Byte) : List Item :=
  .option dhcpMsgType [type] :: .option dhcpServerId (u32.bytes a.dhcpServerIp) ::
    if type = dhcpNak then []
    else [.option dhcpLeaseTimeOpt (u32.bytes (swapBytes a.dhcpLeaseTime)),
      .option dhcpNetmaskOpt (u32.bytes a.dhcpNetmask)]

/-- The options of the user a reply carries. -/
def userPart (a : TapAdapter) (type : Byte) : List Byte :=
  if type = dhcpNak then [] else a.dhcpUserOptions.data

/-- What `SendDHCPMsg` can be asked to send. -/
def IsReply (type : Byte) : Prop := type = dhcpOffer ∨ type = dhcpAck ∨ type = dhcpNak

/-- Options set one after the other fit exactly when there is room for them all. -/
theorem foldl_setDhcpOpt (parts : List (List Byte)) {options : List Byte}
    (hle : options.length ≤ dhcpOptionsBufferSize) :
    ((parts.foldl setDhcpOpt ⟨options, false⟩).overflow = false ↔
        (options ++ parts.flatten).length ≤ dhcpOptionsBufferSize) ∧
      ((parts.foldl setDhcpOpt ⟨options, false⟩).overflow = false →
        (parts.foldl setDhcpOpt ⟨options, false⟩).options = options ++ parts.flatten) := by
  induction parts generalizing options with
  | nil => simpa using hle
  | cons data parts ih =>
      by_cases hfit : options.length + data.length ≤ dhcpOptionsBufferSize
      · have hset : setDhcpOpt ⟨options, false⟩ data = ⟨options ++ data, false⟩ := by
          rw [setDhcpOpt, if_pos rfl, if_pos hfit]
        have hle' : (options ++ data).length ≤ dhcpOptionsBufferSize := by
          simpa using hfit
        obtain ⟨hiff, hoptions⟩ := ih hle'
        rw [List.foldl_cons, hset, List.flatten_cons, ← List.append_assoc]
        exact ⟨hiff, hoptions⟩
      · have hset : setDhcpOpt ⟨options, false⟩ data = ⟨options, true⟩ := by
          rw [setDhcpOpt, if_pos rfl, if_neg hfit]
        -- nothing more is set, and the flag stays
        have hstuck : parts.foldl setDhcpOpt ⟨options, true⟩ = ⟨options, true⟩ := by
          clear ih
          induction parts with
          | nil => rfl
          | cons next parts ih => rw [List.foldl_cons, setDhcpOpt, if_neg (by simp), ih]
        rw [List.foldl_cons, hset, hstuck]
        simp only [List.flatten_cons, List.length_append, Bool.true_eq_false, false_iff,
          IsEmpty.forall_iff, and_true]
        omega

/-- What `SendDHCPMsg` sets, part by part. -/
def replyParts (a : TapAdapter) (type : Byte) : List (List Byte) :=
  (replyItems a type).map (Item.bytes dhcpMarks) ++
    (if type = dhcpNak then [] else [a.dhcpUserOptions.data]) ++ [[dhcpEnd]]

theorem replyOptions_eq {a : TapAdapter} {type : Byte} (ht : IsReply type) :
    replyOptions a type = (replyParts a type).foldl setDhcpOpt {} := by
  have hoffer : dhcpOffer ≠ dhcpNak := by decide
  have hack : dhcpAck ≠ dhcpNak := by decide
  have hnak : ¬ (dhcpNak = dhcpOffer ∨ dhcpNak = dhcpAck) := by decide
  rcases ht with rfl | rfl | rfl
  · simp [replyOptions, replyParts, replyItems, hoffer, Item.bytes, setDhcpOpt0, setDhcpOpt8,
      setDhcpOpt32, u32.length_bytes]
    rfl
  · simp [replyOptions, replyParts, replyItems, hack, Item.bytes, setDhcpOpt0, setDhcpOpt8,
      setDhcpOpt32]
    rfl
  · simp [replyOptions, replyParts, replyItems, hnak, Item.bytes, setDhcpOpt0, setDhcpOpt8,
      setDhcpOpt32]
    rfl

theorem replyParts_flatten (a : TapAdapter) (type : Byte) :
    (replyParts a type).flatten =
      itemBytes dhcpMarks (replyItems a type) ++ userPart a type ++ [dhcpEnd] := by
  unfold replyParts userPart
  split <;> simp [itemBytes, List.flatMap_def]

/-- The bytes of the options of a reply, without the end mark. -/
theorem replyItems_length (a : TapAdapter) (type : Byte) :
    (itemBytes dhcpMarks (replyItems a type)).length = if type = dhcpNak then 9 else 21 := by
  have hlen : ∀ x : BitVec 32, (u32.bytes x).length = 4 := u32.length_bytes
  unfold replyItems
  split <;> simp [Item.bytes, hlen]

/-- The options of a reply fit unless the user supplied too many. -/
theorem replyOptions_fit {a : TapAdapter} {type : Byte} (ht : IsReply type) :
    ((replyOptions a type).overflow = false ↔ type = dhcpNak ∨ a.dhcpUserOptions.len ≤ 234) ∧
      ((replyOptions a type).overflow = false → (replyOptions a type).options =
        itemBytes dhcpMarks (replyItems a type) ++ userPart a type ++ [dhcpEnd]) := by
  have hnil : ([] : List Byte).length ≤ dhcpOptionsBufferSize := Nat.zero_le _
  obtain ⟨hfit, hoptions⟩ := foldl_setDhcpOpt (replyParts a type) hnil
  rw [← replyOptions_eq ht, List.nil_append, replyParts_flatten] at hfit hoptions
  refine ⟨hfit.trans ?_, hoptions⟩
  rw [List.length_append, List.length_append, replyItems_length, userPart]
  unfold dhcpOptionsBufferSize
  by_cases hnak : type = dhcpNak
  · simp [hnak]
  · simp only [hnak, if_false, UserOptions.data_length, List.length_singleton, false_or]
    omega

/-- A reply is sent exactly when there is memory for it and its options fit: a `DHCPNAK`
always does, the others when the user supplied at most 234 bytes. -/
theorem sendDhcpMsg_isSome_iff (memory : Bool) (a : TapAdapter) (type : Byte) (eth : EthHeader)
    (dhcp : Dhcp) :
    (sendDhcpMsg memory a type eth dhcp).isSome ↔
      memory = true ∧ IsReply type ∧ (type = dhcpNak ∨ a.dhcpUserOptions.len ≤ 234) := by
  unfold sendDhcpMsg
  by_cases ht : IsReply type
  · have ht' : ¬ ¬ (type = dhcpOffer ∨ type = dhcpAck ∨ type = dhcpNak) := not_not.mpr ht
    rw [if_neg ht', ← (replyOptions_fit (a := a) ht).1]
    cases memory <;> cases hover : (replyOptions a type).overflow <;> simp [hover, ht]
  · have ht' : ¬ (type = dhcpOffer ∨ type = dhcpAck ∨ type = dhcpNak) := ht
    simp [ht', ht]

/-- What is sent. -/
theorem sendDhcpMsg_eq_some {memory : Bool} {a : TapAdapter} {type : Byte} {eth : EthHeader}
    {dhcp : Dhcp} {frame : List Byte} (h : sendDhcpMsg memory a type eth dhcp = some frame) :
    IsReply type ∧ ∃ options : List Byte, options.length ≤ 256 ∧
      options = itemBytes dhcpMarks (replyItems a type) ++ userPart a type ++ [dhcpEnd] ∧
      frame = DhcpPre.layout.bytes
        (setChecksumDhcpMsg (buildDhcpPre a eth dhcp options.length type) options) ++ options := by
  obtain ⟨hmem, ht, hroom⟩ := (sendDhcpMsg_isSome_iff memory a type eth dhcp).mp (by simp [h])
  obtain ⟨hfit, hoptions⟩ := replyOptions_fit (a := a) ht
  have hover := hfit.mpr hroom
  have ht' : ¬ ¬ (type = dhcpOffer ∨ type = dhcpAck ∨ type = dhcpNak) := not_not.mpr ht
  rw [sendDhcpMsg, if_neg ht', if_pos hmem, if_pos hover, Option.some.injEq] at h
  refine ⟨ht, (replyOptions a type).options, ?_, hoptions hover, h.symm⟩
  have hlen := congrArg List.length (hoptions hover)
  have huser := a.dhcpUserOptions.data_length
  rw [List.length_append, List.length_append, replyItems_length, userPart] at hlen
  by_cases hnak : type = dhcpNak
  · subst hnak
    simp only [if_true, List.length_nil, List.length_singleton] at hlen
    omega
  · have huser' := hroom.resolve_left hnak
    simp only [hnak, if_false, huser, List.length_singleton] at hlen
    omega

/-- The bytes of a reply after its Ethernet header. -/
theorem dhcpPre_bytes (p : DhcpPre) :
    DhcpPre.layout.bytes p = EthHeader.layout.bytes p.eth ++ (IpHdr.layout.bytes p.ip ++
      (UdpHdr.layout.bytes p.udp ++ Dhcp.layout.bytes p.dhcp)) := rfl

/-- An adapter that leases 10.3.0.7 for an hour. -/
def leasing : TapAdapter where
  mac := #v[0x00, 0xff, 0x11, 0x22, 0x33, 0x44]
  dhcpEnabled := true
  dhcpServerArp := true
  dhcpAddr := 0x0700030a
  dhcpNetmask := 0x00ffffff
  dhcpServerIp := 0xfe00030a
  dhcpServerMac := #v[0x00, 0xff, 0x13, 0x22, 0x33, 0x44]
  dhcpLeaseTime := 3600

/-- The Ethernet header of a request of its client. -/
def requestHeader : EthHeader := ⟨Vector.replicate 6 0xff, leasing.mac, htons ethPIp⟩

/-- A request of its client. -/
def requestDhcp : Dhcp :=
  ⟨bootRequest, 1, 6, 0, 0x12345678, 0, 0, 0, 0, 0, 0, leasing.mac, Vector.replicate 10 0,
    Vector.replicate 64 0, Vector.replicate 128 0, swapBytes dhcpMagic⟩

/-- Whatever is sent passes the checks of its receiver: the checksum of the IP header, and the
checksum of the UDP segment and its pseudo header, are zero. -/
theorem sendDhcpMsg_verifies (memory : Bool) (a : TapAdapter) (type : Byte) (eth : EthHeader)
    (dhcp : Dhcp) :
    ∀ frame, sendDhcpMsg memory a type eth dhcp = some frame →
      ∃ pre, DhcpPre.layout.read frame = some pre ∧
        ipChecksum ((frame.drop 14).take 20) = 0 ∧
        udpChecksum (frame.drop 34) (u32.bytes pre.ip.saddr) (u32.bytes pre.ip.daddr) = 0 := by
  intro frame h
  obtain ⟨-, options, hle, -, rfl⟩ := sendDhcpMsg_eq_some h
  have hip₀ : (buildDhcpPre a eth dhcp options.length type).ip.check = 0 := rfl
  have hverify := setChecksumDhcpMsg_verifies hip₀ rfl (show options.length < 2 ^ 15 by omega)
  have heth : ∀ x, (EthHeader.layout.bytes x).length = 14 := EthHeader.layout.length_bytes
  have hip : ∀ x, (IpHdr.layout.bytes x).length = 20 := IpHdr.layout.length_bytes
  refine ⟨_, DhcpPre.layout.read_bytes _ _, ?_, ?_⟩
  · rw [dhcpPre_bytes, List.append_assoc, List.drop_left' (heth _), List.append_assoc,
      List.take_left' (hip _)]
    exact hverify.1
  · have hdrop : ∀ x : List Byte, x.drop 34 = (x.drop 14).drop 20 := fun x => by
      rw [List.drop_drop]
    rw [hdrop, dhcpPre_bytes, List.append_assoc, List.drop_left' (heth _), List.append_assoc,
      List.drop_left' (hip _)]
    exact hverify.2

/-- An offer verifies. -/
theorem sendDhcpMsg_verifies_offer :
    ∃ frame pre, sendDhcpMsg true leasing dhcpOffer requestHeader requestDhcp = some frame ∧
      DhcpPre.layout.read frame = some pre ∧ ipChecksum ((frame.drop 14).take 20) = 0 ∧
      udpChecksum (frame.drop 34) (u32.bytes pre.ip.saddr) (u32.bytes pre.ip.daddr) = 0 := by
  have hsome : (sendDhcpMsg true leasing dhcpOffer requestHeader requestDhcp).isSome := by
    rw [sendDhcpMsg_isSome_iff]
    exact ⟨rfl, .inl rfl, .inr (by decide)⟩
  obtain ⟨frame, h⟩ := Option.isSome_iff_exists.mp hsome
  obtain ⟨pre, hread, hverify⟩ :=
    sendDhcpMsg_verifies true leasing dhcpOffer requestHeader requestDhcp frame h
  exact ⟨frame, pre, h, hread, hverify⟩

/-- What a client reads from a reply. -/
structure ReplyTo (a : TapAdapter) (type : Byte) (eth : EthHeader) (dhcp : Dhcp)
    (frame : List Byte) (pre : DhcpPre) (options : List Byte) : Prop where
  read : DhcpPre.layout.read frame = some pre
  rest : frame.drop 282 = options
  /-- the lengths in the headers are those of the frame -/
  ip_length : (htons pre.ip.totLen).toNat + 14 = frame.length
  udp_length : (htons pre.udp.len).toNat + 34 = frame.length
  /-- a reply to a broadcast is a broadcast, and so is a `DHCPNAK` -/
  dest : pre.eth.dest =
    if type = dhcpNak ∨ eth.dest = a.macBroadcast then a.macBroadcast else eth.src
  daddr : pre.ip.daddr =
    if type = dhcpNak ∨ eth.dest = a.macBroadcast then BitVec.allOnes 32 else a.dhcpAddr
  ports : htons pre.udp.source = bootpsPort ∧ htons pre.udp.dest = bootpcPort
  /-- the reply comes from the server -/
  src : pre.eth.src = a.dhcpServerMac
  saddr : pre.ip.saddr = a.dhcpServerIp
  /-- the reply belongs to the request, but does not repeat its flags -/
  op : pre.dhcp.op = bootReply
  xid : pre.dhcp.xid = dhcp.xid
  flags : pre.dhcp.flags = 0
  chaddr : pre.dhcp.chaddr = eth.src
  magic : swapBytes pre.dhcp.magic = dhcpMagic
  /-- the address, which a `DHCPNAK` takes back -/
  yiaddr : pre.dhcp.yiaddr = if type = dhcpNak then 0 else a.dhcpAddr
  siaddr : pre.dhcp.siaddr = a.dhcpServerIp
  /-- behind the options of the server are those of the user, byte for byte -/
  content : options = itemBytes dhcpMarks (replyItems a type) ++ userPart a type ++ [dhcpEnd]
  /-- a client that scans them finds those of the server first, whatever the user supplied -/
  items : ∃ more tail, Splits dhcpMarks options (replyItems a type ++ more) tail
  message : getDhcpMessageType options options.length = some (type.toNat : Int)

theorem replyItems_legal {a : TapAdapter} {type : Byte} :
    ∀ i ∈ replyItems a type, i.Legal dhcpMarks := by
  have hlen : ∀ x : BitVec 32, (u32.bytes x).length < 256 := fun x => by
    rw [u32.length_bytes]
    decide
  unfold replyItems
  intro i hi
  split at hi
  · rcases List.mem_cons.mp hi with rfl | hi
    · exact ⟨by decide, by decide, by simp⟩
    rcases List.mem_cons.mp hi with rfl | hi
    · exact ⟨by decide, by decide, hlen _⟩
    cases hi
  · rcases List.mem_cons.mp hi with rfl | hi
    · exact ⟨by decide, by decide, by simp⟩
    rcases List.mem_cons.mp hi with rfl | hi
    · exact ⟨by decide, by decide, hlen _⟩
    rcases List.mem_cons.mp hi with rfl | hi
    · exact ⟨by decide, by decide, hlen _⟩
    rcases List.mem_cons.mp hi with rfl | hi
    · exact ⟨by decide, by decide, hlen _⟩
    cases hi

/-- A word in network order, read back. -/
theorem htons_ofNat_toNat {n : Nat} (h : n < 2 ^ 16) :
    (htons (htons (BitVec.ofNat 16 n))).toNat = n := by
  rw [htons_htons, BitVec.toNat_ofNat, Nat.mod_eq_of_lt h]

theorem sendDhcpMsg_replyTo {memory : Bool} {a : TapAdapter} {type : Byte} {eth : EthHeader}
    {dhcp : Dhcp} {frame : List Byte} (h : sendDhcpMsg memory a type eth dhcp = some frame) :
    ∃ pre options, ReplyTo a type eth dhcp frame pre options := by
  obtain ⟨-, options, hle, hoptions, rfl⟩ := sendDhcpMsg_eq_some h
  have hpre : ∀ x, (DhcpPre.layout.bytes x).length = 282 := DhcpPre.layout.length_bytes
  obtain ⟨more, tail, hmore⟩ := exists_splits dhcpMarks (userPart a type ++ [dhcpEnd])
  have hsplits : Splits dhcpMarks options (replyItems a type ++ more) tail := by
    rw [hoptions, List.append_assoc]
    exact hmore.append replyItems_legal
  have hmessage : messageType (replyItems a type ++ more) = type.toNat := rfl
  refine ⟨_, options, DhcpPre.layout.read_bytes _ _, List.drop_left' (hpre _), ?_, ?_, rfl, rfl,
    ⟨htons_htons _, htons_htons _⟩, rfl, rfl, rfl, rfl, rfl, rfl, ?_, rfl, rfl, hoptions,
    ⟨more, tail, hsplits⟩, ?_⟩
  · rw [List.length_append, hpre]
    show (htons (htons (BitVec.ofNat 16 (20 + 8 + 240 + options.length)))).toNat + 14 = _
    rw [htons_ofNat_toNat (by omega)]
    omega
  · rw [List.length_append, hpre]
    show (htons (htons (BitVec.ofNat 16 (8 + 240 + options.length)))).toNat + 34 = _
    rw [htons_ofNat_toNat (by omega)]
    omega
  · exact swapBytes_swapBytes _
  · rw [← hmessage]
    apply messageTypeLoop_eq (Nat.le_refl _) (by omega)
    rw [List.take_length, List.drop_zero]
    exact hsplits

/-- A reply is sent exactly when there is memory for it and its options fit; and a client that
reads it finds its request answered. -/
theorem sendDhcpMsg_answers (memory : Bool) (a : TapAdapter) (type : Byte) (eth : EthHeader)
    (dhcp : Dhcp) :
    ((sendDhcpMsg memory a type eth dhcp).isSome ↔
      memory = true ∧ IsReply type ∧ (type = dhcpNak ∨ a.dhcpUserOptions.len ≤ 234)) ∧
    ∀ frame, sendDhcpMsg memory a type eth dhcp = some frame →
      ∃ pre options, ReplyTo a type eth dhcp frame pre options := by
  refine ⟨sendDhcpMsg_isSome_iff memory a type eth dhcp, ?_⟩
  intro frame h
  exact sendDhcpMsg_replyTo h

/-- A refusal takes the address back. -/
theorem sendDhcpMsg_answers_nak :
    ∃ frame pre options, sendDhcpMsg true leasing dhcpNak requestHeader requestDhcp = some frame ∧
      ReplyTo leasing dhcpNak requestHeader requestDhcp frame pre options := by
  obtain ⟨hiff, hreads⟩ := sendDhcpMsg_answers true leasing dhcpNak requestHeader requestDhcp
  obtain ⟨frame, h⟩ := Option.isSome_iff_exists.mp
    (hiff.mpr ⟨rfl, .inr (.inr rfl), .inl rfl⟩)
  obtain ⟨pre, options, hreply⟩ := hreads frame h
  exact ⟨frame, pre, options, h, hreply⟩

end TapCfg.TapWin32
