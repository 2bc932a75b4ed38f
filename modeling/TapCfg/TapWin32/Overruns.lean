/-
  TapWin32/Overruns.lean --- which frames make the Windows driver read behind a packet.

  Source: drivers/windows/tap-win32/tapdrvr.c, lines 1480-1583 and 1660-1790.

  Every handler of a frame but one compares the length of the frame with what it
  is about to read.  `HandleIPv6NeighborDiscovery` is called when the frame has
  room for the header of IPv6, and reads a neighbour solicitation behind it.
-/
import TapCfg.TapWin32.Leases

set_option autoImplicit false

namespace TapCfg.TapWin32

open TapCfg.Foundation
open TapCfg.Foundation.Layout (htons u8 u16 u32 array)

variable {memory : Bool} {a : TapAdapter} {data : List Byte}

/-! ## The masquerade -/

/-- The scan of the options never leaves them. -/
theorem getDhcpMessageType_isSome {p : List Byte} {optlen : Nat} (hlen : optlen ≤ p.length) :
    (getDhcpMessageType p optlen).isSome := by
  obtain ⟨items, tail, h⟩ := exists_splits dhcpMarks (p.take optlen)
  have hrun : getDhcpMessageType p optlen = some (messageType items) :=
    messageTypeLoop_eq hlen (by omega) h
  rw [hrun]
  rfl

theorem processDhcp_isSome {eth : EthHeader} {ip : IpHdr} {udp : UdpHdr} {dhcp : Dhcp}
    {options : List Byte} {optlen : Nat} (hlen : optlen ≤ options.length) :
    (processDhcp memory a eth ip udp dhcp options optlen).isSome := by
  obtain ⟨msgType, htype⟩ := Option.isSome_iff_exists.mp (getDhcpMessageType_isSome hlen)
  unfold processDhcp
  split
  · rfl
  split
  · rfl
  rw [htype]
  simp only [Option.bind_eq_bind, Option.bind_some]
  split
  · rfl
  split <;> rfl

/-- The masquerade reads no frame behind its end. -/
theorem masquerade_isSome (h : ethernetHeaderSize ≤ data.length) :
    (masquerade memory a data).isSome := by
  obtain ⟨eth, heth, -⟩ := EthHeader.layout.exists_read h
  unfold masquerade
  rw [heth]
  simp only [Option.bind_eq_bind, Option.bind_some]
  split
  · rename_i harp
    obtain ⟨arp, hread, -⟩ := ArpPacket.layout.exists_read (Nat.le_of_eq harp.1.symm)
    rw [hread]
    rfl
  split
  · rename_i hdhcp
    have hlen : 282 ≤ data.length := hdhcp.1
    obtain ⟨ip, hip, -⟩ := IpHdr.layout.exists_read (l := data.drop 14) (by simp; omega)
    obtain ⟨udp, hudp, -⟩ := UdpHdr.layout.exists_read (l := data.drop 34) (by simp; omega)
    obtain ⟨dhcp, hd, -⟩ := Dhcp.layout.exists_read (l := data.drop 42) (by simp; omega)
    rw [hip, hudp, hd]
    simp only [Option.bind_some]
    split
    · split
      · have hsome : (processDhcp memory a eth ip udp dhcp (data.drop dhcpHeadersSize)
            (data.length - dhcpHeadersSize)).isSome := processDhcp_isSome (by simp)
        obtain ⟨handled, hrun⟩ := Option.isSome_iff_exists.mp hsome
        rw [hrun]
        rfl
      · rfl
    · rfl
  · rfl

/-- The masquerade leaves the frames of IPv6. -/
theorem masquerade_ipv6 {eth : EthHeader} (h : EthHeader.layout.read data = some eth)
    (hproto : eth.proto = htons ethPIpv6) : masquerade memory a data = some none := by
  have harp : htons ethPIpv6 ≠ htons ethPArp := by decide
  have hip : htons ethPIpv6 ≠ htons ethPIp := by decide
  unfold masquerade
  rw [h]
  simp [hproto, harp, hip]

/-! ## Neighbour discovery -/

/-- A frame ends in front of what is read of a neighbour solicitation: it has no type; or the
type of a solicitation, and no code; or both of a solicitation, and not all of a target. -/
def EndsInside (data : List Byte) : Prop :=
  data.length < 55 ∨ data[54]? = some icmpv6TypeNs ∧
    (data.length < 56 ∨ data.length < 78 ∧ data[55]? = some icmpv6Code0)

/-- A frame is a neighbour solicitation as far as it goes, which is not as far as it is read. -/
structure Truncated (data : List Byte) : Prop where
  ipv6 : ∃ eth, EthHeader.layout.read data = some eth ∧ eth.proto = htons ethPIpv6
  solicits : ∃ ip, Ipv6Hdr.layout.read (data.drop 14) = some ip ∧
    (ip.daddr = ipv6NsTargetMcast ∨ ip.daddr = ipv6NsTargetUnicast) ∧ ip.nexthdr = ipprotoIcmpv6
  short : EndsInside data

/-- The type, the code and the target are read one after the other. -/
theorem endsInside_iff {type code : Byte} (htype : data[54]? = some type)
    (hcode : data[55]? = some code) :
    EndsInside data ↔ type = icmpv6TypeNs ∧ code = icmpv6Code0 ∧ data.length < 78 := by
  obtain ⟨hlen, -⟩ := List.getElem?_eq_some_iff.mp hcode
  have h55 : ¬ data.length < 55 := by omega
  have h56 : ¬ data.length < 56 := by omega
  simp only [EndsInside, htype, hcode, h55, h56, false_or, Option.some.injEq]
  exact and_congr_right fun _ => and_comm

theorem handleIpv6NeighborDiscovery_none_iff {ip : Ipv6Hdr}
    (hip : Ipv6Hdr.layout.read (data.drop 14) = some ip) :
    handleIpv6NeighborDiscovery memory a data = none ↔
      (ip.daddr = ipv6NsTargetMcast ∨ ip.daddr = ipv6NsTargetUnicast) ∧
      ip.nexthdr = ipprotoIcmpv6 ∧ EndsInside data := by
  unfold handleIpv6NeighborDiscovery
  rw [hip]
  simp only [Option.bind_eq_bind, Option.bind_some]
  by_cases hdaddr : ip.daddr ≠ ipv6NsTargetMcast ∧ ip.daddr ≠ ipv6NsTargetUnicast
  · rw [if_pos hdaddr]
    simp [hdaddr]
  by_cases hnext : ip.nexthdr ≠ ipprotoIcmpv6
  · rw [if_neg hdaddr, if_pos hnext]
    simp [hnext]
  rw [if_neg hdaddr, if_neg hnext]
  have hdaddr' : ip.daddr = ipv6NsTargetMcast ∨ ip.daddr = ipv6NsTargetUnicast := by
    by_contra hne
    exact hdaddr (not_or.mp hne)
  simp only [hdaddr', not_not.mp hnext, true_and]
  cases htype : data[54]? with
  | none =>
      have hshort := List.getElem?_eq_none_iff.mp htype
      have hends : EndsInside data := .inl (by omega)
      simp [hends]
  | some type =>
      obtain ⟨hlen, -⟩ := List.getElem?_eq_some_iff.mp htype
      rw [Option.bind_some]
      by_cases hns : type = icmpv6TypeNs
      · rw [if_neg (not_not.mpr hns)]
        cases hcode : data[55]? with
        | none =>
            have hshort := List.getElem?_eq_none_iff.mp hcode
            have hends : EndsInside data := .inr ⟨by rw [htype, hns], .inl (by omega)⟩
            simp [hends]
        | some code =>
            rw [Option.bind_some, endsInside_iff htype hcode]
            by_cases hzero : code = icmpv6Code0
            · rw [if_neg (not_not.mpr hzero)]
              simp only [hns, hzero, true_and]
              by_cases htarget : data.length < 78
              · have hnone : (array 16).read (data.drop 62) = none := by
                  apply Layout.read_eq_none
                  rw [List.length_drop]
                  show data.length - 62 < 16
                  omega
                rw [hnone]
                simp [htarget]
              · have hle : (array 16).size ≤ (data.drop 62).length := by
                  rw [List.length_drop]
                  show 16 ≤ data.length - 62
                  omega
                obtain ⟨target, htarget', -⟩ := (array 16).exists_read hle
                rw [htarget']
                simp only [Option.bind_some, htarget, iff_false]
                split
                · simp
                split <;> simp
            · simp [hzero]
      · -- no code is looked at behind another type
        have hends : ¬ EndsInside data := by
          rintro (h | ⟨h, -⟩)
          · omega
          · rw [htype, Option.some.injEq] at h
            exact hns h
        simp [hns, hends]

/-! ## All frames -/

theorem pointToPoint_none_iff {packet : TapPacket} (h : ethernetHeaderSize ≤ data.length) :
    pointToPoint memory a data packet = none ↔ Truncated data := by
  obtain ⟨eth, heth, -⟩ := EthHeader.layout.exists_read h
  have harp : htons ethPIpv6 ≠ htons ethPArp := by decide
  have hip : htons ethPIpv6 ≠ htons ethPIp := by decide
  have hother : eth.proto ≠ htons ethPIpv6 → ¬ Truncated data := by
    rintro hne ⟨⟨eth', heth', hproto⟩, -, -⟩
    rw [heth, Option.some.injEq] at heth'
    exact hne (heth' ▸ hproto)
  unfold pointToPoint
  rw [if_neg (by omega), heth]
  simp only [Option.bind_eq_bind, Option.bind_some]
  by_cases hproto : eth.proto = htons ethPIpv6
  · rw [hproto, if_neg harp, if_neg hip, if_pos rfl]
    by_cases hlen : data.length < ethernetHeaderSize + ipv6HeaderSize
    · rw [if_pos hlen]
      have hnot : ¬ Truncated data := by
        rintro ⟨-, ⟨ip, hread, -⟩, -⟩
        have hle := Ipv6Hdr.layout.le_of_read hread
        rw [size_ipv6Hdr, List.length_drop] at hle
        unfold ethernetHeaderSize ipv6HeaderSize at hlen
        omega
      simp [hnot]
    · rw [if_neg hlen]
      have hroom : Ipv6Hdr.layout.size ≤ (data.drop 14).length := by
        unfold ethernetHeaderSize ipv6HeaderSize at hlen
        rw [size_ipv6Hdr, List.length_drop]
        omega
      obtain ⟨ip, hread, -⟩ := Ipv6Hdr.layout.exists_read hroom
      have hnone : handleIpv6NeighborDiscovery memory a data = none ↔ _ :=
        handleIpv6NeighborDiscovery_none_iff hread
      have htruncated : Truncated data ↔
          (ip.daddr = ipv6NsTargetMcast ∨ ip.daddr = ipv6NsTargetUnicast) ∧
          ip.nexthdr = ipprotoIcmpv6 ∧ EndsInside data := by
        constructor
        · rintro ⟨-, ⟨ip', hread', hdaddr, hnext⟩, hshort⟩
          rw [hread, Option.some.injEq] at hread'
          subst hread'
          exact ⟨hdaddr, hnext, hshort⟩
        · rintro ⟨hdaddr, hnext, hshort⟩
          exact ⟨⟨eth, heth, hproto⟩, ⟨ip, hread, hdaddr, hnext⟩, hshort⟩
      rw [htruncated, ← hnone]
      cases handleIpv6NeighborDiscovery memory a data with
      | none => simp
      | some handled =>
          simp only [Option.bind_some, reduceCtorEq, iff_false]
          split <;> simp
  · have hnot := hother hproto
    simp only [hnot, iff_false]
    split
    · rename_i hproto'
      split
      · simp
      · rename_i hsize
        obtain ⟨arp, hread, -⟩ := ArpPacket.layout.exists_read (Nat.le_of_eq (not_not.mp hsize).symm)
        rw [hread]
        simp
    split
    · split
      · simp
      split <;> simp
    · simp

/-- The first sixty bytes of a solicitation for `fe80::8`. -/
def cutSolicitation : List Byte :=
  EthHeader.layout.bytes ⟨Vector.replicate 6 0x33, Vector.replicate 6 2, htons ethPIpv6⟩ ++
    Ipv6Hdr.layout.bytes
      ⟨0x60, Vector.replicate 3 0, htons 24, ipprotoIcmpv6, 255, Vector.replicate 16 0,
        ipv6NsTargetMcast⟩ ++
    [icmpv6TypeNs, icmpv6Code0, 0, 0, 0, 0]

theorem cutSolicitation_truncated : Truncated cutSolicitation := by
  refine ⟨⟨⟨Vector.replicate 6 0x33, Vector.replicate 6 2, htons ethPIpv6⟩, ?_, rfl⟩,
    ⟨⟨0x60, Vector.replicate 3 0, htons 24, ipprotoIcmpv6, 255, Vector.replicate 16 0,
      ipv6NsTargetMcast⟩, ?_, .inl rfl, rfl⟩, .inr ⟨?_, .inr ⟨by decide, ?_⟩⟩⟩
  · decide +kernel
  · decide +kernel
  · decide +kernel
  · decide +kernel

end TapCfg.TapWin32
