/-
  Bindings/Headers.lean --- which arrays `EthernetFrame` accepts, and what its
  fields say about them.

  Source: src/bindings/EthernetFrame.cs, lines 66-166.

  The results are about the array alone: where its header ends, what its length
  field is and which encapsulation its next bytes announce.

      frame_accepted    the arrays the constructor completes on, and the payload
      frame_restored    the fields written back are the array, unless OUI bits are lost
      frame_tagged      a tag in front of the type changes the tag fields only
-/
import TapCfg.Bindings.EthernetFrame

set_option autoImplicit false

namespace TapCfg.Bindings

open TapCfg.Foundation

/-! ## Accepted arrays -/

/-- The two bytes at an offset are 0xff 0xff. -/
def RawAt (data : List Byte) (i : Nat) : Prop :=
  data.getD i 0 = 0xff ∧ data.getD (i + 1) 0 = 0xff

/-- The two bytes at an offset are 0xaa with any lowest bit. -/
def SnapAt (data : List Byte) (i : Nat) : Prop :=
  data.getD i 0 &&& 0xfe = 0xaa ∧ data.getD (i + 1) 0 &&& 0xfe = 0xaa

instance (data : List Byte) (i : Nat) : Decidable (RawAt data i) :=
  inferInstanceAs (Decidable (_ ∧ _))

instance (data : List Byte) (i : Nat) : Decidable (SnapAt data i) :=
  inferInstanceAs (Decidable (_ ∧ _))

/-- The arrays the constructor completes on. -/
structure Accepted (data : List Byte) : Prop where
  untagged : 14 ≤ data.length
  tagged : wordAt data 12 ∈ tagTypes → 18 ≤ data.length
  twice : headerEnd data = 22 → 22 ≤ data.length
  length : lengthField data < 0x0800 →
    (RawAt data (headerEnd data) ∧ headerEnd data + lengthField data ≤ data.length) ∨
    (¬ RawAt data (headerEnd data) ∧ 3 ≤ lengthField data ∧
      (SnapAt data (headerEnd data) → 8 ≤ lengthField data) ∧
      headerEnd data + lengthField data ≤ data.length)

/-- The encapsulation an array announces. -/
def typeOf (data : List Byte) : FrameType :=
  if 0x0800 ≤ lengthField data then .ethernetII
  else if RawAt data (headerEnd data) then .ethernetRAW
  else if SnapAt data (headerEnd data) then .ethernetSNAP
  else .ethernetIEEE

/-- The bytes of the encapsulation behind the length. -/
def encapsulated : FrameType → Nat
  | .ethernetII => 0
  | .ethernetRAW => 0
  | .ethernetIEEE => 3
  | .ethernetSNAP => 8

/-- The bytes from one offset to another. -/
def bytes (data : List Byte) (first last : Nat) : List Byte := (data.drop first).take (last - first)

section

variable {data : List Byte}

theorem getD_drop (data : List Byte) (h i : Nat) :
    (data.drop h).getD i 0 = data.getD (h + i) 0 := by
  simp [List.getD_eq_getElem?_getD]

theorem rawBody_drop : RawBody (data.drop (headerEnd data)) ↔ RawAt data (headerEnd data) := by
  unfold RawBody RawAt
  rw [getD_drop, getD_drop]
  exact Iff.rfl

theorem snapBody_drop : SnapBody (data.drop (headerEnd data)) ↔ SnapAt data (headerEnd data) := by
  unfold SnapBody SnapAt IsSnap
  rw [getD_drop, getD_drop]
  exact Iff.rfl

theorem encapsulation_drop :
    encapsulation (data.drop (headerEnd data)) (lengthField data) = typeOf data := by
  unfold encapsulation typeOf
  simp only [rawBody_drop, snapBody_drop]

theorem accepted_iff :
    Accepted data ↔
      TagsFit data ∧ BodyFits (data.drop (headerEnd data)) (lengthField data) := by
  constructor
  · intro h
    have hfit : TagsFit data := ⟨h.untagged, h.tagged, h.twice⟩
    have hend := hfit.headerEnd_le
    refine ⟨hfit, fun hlt => ?_⟩
    rw [List.length_drop, rawBody_drop, snapBody_drop]
    rcases h.length hlt with ⟨hraw, hlen⟩ | ⟨hraw, h₃, h₈, hlen⟩
    · exact ⟨by omega, fun hnot => absurd hraw hnot⟩
    · exact ⟨by omega, fun _ => ⟨h₃, h₈⟩⟩
  · rintro ⟨hfit, hbody⟩
    have hend := hfit.headerEnd_le
    refine ⟨hfit.1, hfit.2.1, hfit.2.2, fun hlt => ?_⟩
    obtain ⟨hlen, hheaders⟩ := hbody hlt
    rw [List.length_drop] at hlen
    rw [rawBody_drop, snapBody_drop] at hheaders
    by_cases hraw : RawAt data (headerEnd data)
    · exact .inl ⟨hraw, by omega⟩
    · exact .inr ⟨hraw, (hheaders hraw).1, (hheaders hraw).2, by omega⟩

/-- The payload of a body, behind the headers of its encapsulation. -/
theorem bodyOf_type (rest : List Byte) (etherType : Nat) :
    (bodyOf rest etherType).type = encapsulation rest etherType := by
  unfold bodyOf
  cases encapsulation rest etherType <;> rfl

theorem bodyOf_payload (rest : List Byte) (etherType : Nat) :
    (bodyOf rest etherType).payload =
      if 0x0800 ≤ etherType then rest
      else bytes rest (encapsulated (encapsulation rest etherType)) etherType := by
  by_cases hii : 0x0800 ≤ etherType
  · rw [if_pos hii, bodyOf, encapsulation_ii hii]
  · rw [if_neg hii]
    by_cases hraw : RawBody rest
    · rw [bodyOf, encapsulation_raw hii hraw]
      rfl
    · by_cases hsnap : SnapBody rest
      · rw [bodyOf, encapsulation_snap hii hraw hsnap]
        rfl
      · rw [bodyOf, encapsulation_ieee hii hraw hsnap]
        rfl

theorem bytes_drop (data : List Byte) (h first last : Nat) :
    bytes (data.drop h) first last = bytes data (h + first) (h + last) := by
  unfold bytes
  rw [List.drop_drop, Nat.add_sub_add_left]

/-- The constructor completes on just these arrays, and what it says about them. -/
theorem frame_accepted (data : List Byte) :
    ((∃ f, ethernetFrame data = .ok f) ↔ Accepted data) ∧
    ∀ f, ethernetFrame data = .ok f →
      f.type = typeOf data ∧
      f.payload =
        (if 0x0800 ≤ lengthField data then data.drop (headerEnd data)
        else bytes data (headerEnd data + encapsulated f.type)
          (headerEnd data + lengthField data)) ∧
      (f.hasVLAN = true ↔ headerEnd data ≠ 14) ∧
      (f.hasQinQ = true ↔ headerEnd data = 22) ∧
      f.qinQType = (if headerEnd data = 22 then wordAt data 12 else 0) ∧
      f.qinQValue = (if headerEnd data = 22 then wordAt data 14 else 0) := by
  constructor
  · rw [accepted_iff]
    constructor
    · rintro ⟨f, hf⟩
      exact (frame_ok_iff.mp hf).1
    · intro hfit
      exact ⟨frameOf data, frame_ok_iff.mpr ⟨hfit, rfl⟩⟩
  · intro f hf
    obtain ⟨-, rfl⟩ := frame_ok_iff.mp hf
    have htype : (frameOf data).type = typeOf data := by
      rw [← encapsulation_drop]
      exact bodyOf_type _ _
    refine ⟨htype, ?_, decide_eq_true_iff, decide_eq_true_iff, rfl, rfl⟩
    have hpayload := bodyOf_payload (data.drop (headerEnd data)) (lengthField data)
    rw [encapsulation_drop, bytes_drop] at hpayload
    rw [htype]
    exact hpayload

/-! ## Writing a frame back -/

/-- The 16 bits of a tag. -/
def packTag (pcp : Byte) (cfi : Bool) (vid : Nat) : Nat :=
  pcp.toNat * 8192 + cfi.toNat * 4096 + vid

/-- The three big-endian bytes of an OUI. -/
def ouiBytes (oui : Nat) : List Byte :=
  [UInt8.ofNat (oui / 65536), UInt8.ofNat (oui / 256), UInt8.ofNat oui]

/-- The tags of a frame, written back. -/
def writeTags (f : EthernetFrame) : List Byte :=
  (if f.hasQinQ then header f.qinQType ++ header f.qinQValue else []) ++
    (if f.hasVLAN then header 0x8100 ++ header (packTag f.pcp f.cfi f.vid) else [])

/-- What follows the tags of a frame, written back. -/
def writeBody (f : EthernetFrame) : List Byte :=
  match f.type with
  | .ethernetII => header f.etherType ++ f.payload
  | .ethernetRAW => header f.payload.length ++ f.payload
  | .ethernetIEEE => header f.etherType ++ [f.dsap, f.ssap, f.ctrl] ++ f.payload
  | .ethernetSNAP =>
      header (f.payload.length + 8) ++ [f.dsap, f.ssap, f.ctrl] ++ ouiBytes f.oui ++
        header f.etherType ++ f.payload

/-- A frame, written back from its fields. -/
def writeBack (f : EthernetFrame) : List Byte :=
  f.destination ++ f.source ++ writeTags f ++ writeBody f

/-- The fields determine the header: written back, they begin the array; an
Ethernet II frame is the whole array. -/
def Restores (f : EthernetFrame) (data : List Byte) : Prop :=
  writeBack f <+: data ∧ (f.type = .ethernetII → writeBack f = data)

instance (f : EthernetFrame) (data : List Byte) : Decidable (Restores f data) :=
  inferInstanceAs (Decidable (_ ∧ _))

/-- The array announces a SNAP header. -/
def SnapHeader (data : List Byte) : Prop :=
  lengthField data < 0x0800 ∧ ¬ RawAt data (headerEnd data) ∧ SnapAt data (headerEnd data)

/-! ## Words -/

theorem wordAt_lt (data : List Byte) (i : Nat) : wordAt data i < 65536 := by
  unfold wordAt
  match data.drop i with
  | [] => exact Nat.zero_lt_succ _
  | [_] => exact Nat.zero_lt_succ _
  | b₀ :: b₁ :: _ =>
      have h₀ := b₀.toNat_lt
      have h₁ := b₁.toNat_lt
      show b₀.toNat * 256 + b₁.toNat < 65536
      omega

/-- What is at an offset begins with the word there. -/
theorem drop_eq_header {i : Nat} (h : i + 2 ≤ data.length) :
    data.drop i = header (wordAt data i) ++ data.drop (i + 2) := by
  have h₀ : i < data.length := by omega
  have h₁ : i + 1 < data.length := by omega
  rw [wordAt, List.drop_eq_getElem_cons h₀, List.drop_eq_getElem_cons h₁]
  show _ = header (headerValue [_, _]) ++ _
  rw [header_headerValue]
  rfl

/-- The word at an offset behind a front part. -/
theorem wordAt_append {front : List Byte} {k : Nat} (hfront : front.length = k)
    (rest : List Byte) (i : Nat) : wordAt (front ++ rest) (k + i) = wordAt rest i := by
  unfold wordAt
  rw [← hfront, List.drop_append, List.drop_eq_nil_of_le (by omega)]
  simp

theorem wordAt_header {n : Nat} (h : n < 65536) (rest : List Byte) :
    wordAt (header n ++ rest) 0 = n := headerValue_header h rest

/-! ## The tag bits -/

theorem tag_pcp {v : Nat} (h : v < 65536) : (UInt8.ofNat (v >>> 13 &&& 0x07)).toNat = v / 8192 := by
  have hmask : v >>> 13 &&& 0x07 = v / 8192 := by
    rw [Nat.shiftRight_eq_div_pow, show 0x07 = 2 ^ 3 - 1 from rfl, Nat.and_two_pow_sub_one_eq_mod]
    exact Nat.mod_eq_of_lt (by omega)
  rw [hmask, UInt8.toNat_ofNat']
  exact Nat.mod_eq_of_lt (by omega)

theorem tag_cfi (v : Nat) : v >>> 12 &&& 0x01 = v / 4096 % 2 := by
  rw [Nat.shiftRight_eq_div_pow, show 0x01 = 2 ^ 1 - 1 from rfl, Nat.and_two_pow_sub_one_eq_mod]

theorem tag_vid (v : Nat) : v &&& 0xfff = v % 4096 := by
  rw [show 0xfff = 2 ^ 12 - 1 from rfl, Nat.and_two_pow_sub_one_eq_mod]

/-- The fields of a tag, packed again. -/
theorem packTag_eq {v : Nat} (h : v < 65536) :
    packTag (UInt8.ofNat (v >>> 13 &&& 0x07)) (decide (v >>> 12 &&& 0x01 ≠ 0)) (v &&& 0xfff) =
      v := by
  have hcfi : (decide (v / 4096 % 2 ≠ 0)).toNat = v / 4096 % 2 := by
    rcases Nat.mod_two_eq_zero_or_one (v / 4096) with hbit | hbit <;> rw [hbit] <;> rfl
  rw [packTag, tag_pcp h, tag_cfi, tag_vid, hcfi]
  omega

/-! ## The OUI -/

/-- The bytes of an OUI come back just when the first two are zero. -/
theorem ouiBytes_ouiOf_iff (b₀ b₁ b₂ : Byte) :
    ouiBytes (ouiOf b₀ b₁ b₂) = [b₀, b₁, b₂] ↔ b₀ = 0 ∧ b₁ = 0 := by
  have h₀ : b₀.toNat < 2 ^ 8 := b₀.toNat_lt
  have h₁ : b₁.toNat < 2 ^ 8 := b₁.toNat_lt
  have h₂ : b₂.toNat < 2 ^ 8 := b₂.toNat_lt
  have hbyte : ∀ b : Byte, b = 0 ↔ b.toNat = 0 := fun b => UInt8.toNat_inj.symm
  constructor
  · intro h
    simp only [ouiBytes, List.cons.injEq, and_true] at h
    obtain ⟨hhigh, hmiddle, -⟩ := h
    have hlt : ouiOf b₀ b₁ b₂ < 2 ^ 16 := by
      refine Nat.or_lt_two_pow (Nat.or_lt_two_pow ?_ ?_) (by omega)
      · rw [Nat.shiftLeft_eq]
        omega
      · rw [Nat.shiftLeft_eq]
        omega
    have hzero : b₀ = 0 := by
      have hquot : ouiOf b₀ b₁ b₂ / 65536 = 0 := Nat.div_eq_of_lt hlt
      rw [← hhigh, hquot]
      rfl
    subst hzero
    refine ⟨rfl, ?_⟩
    have hshift : ouiOf 0 b₁ b₂ / 256 = b₁.toNat / 16 := by
      have hlow : b₂.toNat / 2 ^ 8 = 0 := Nat.div_eq_of_lt h₂
      have hsum : ouiOf 0 b₁ b₂ >>> 8 = b₁.toNat <<< 4 >>> 8 ||| b₂.toNat >>> 8 := by
        rw [ouiOf, Nat.shiftRight_or_distrib, Nat.shiftRight_or_distrib]
        exact congrArg (· ||| _) (Nat.zero_or _)
      rw [Nat.shiftRight_eq_div_pow, Nat.shiftRight_eq_div_pow, Nat.shiftRight_eq_div_pow, hlow,
        Nat.or_zero, Nat.shiftLeft_eq] at hsum
      omega
    have hmiddle := congrArg UInt8.toNat hmiddle
    rw [hshift, UInt8.toNat_ofNat', Nat.mod_eq_of_lt (by omega)] at hmiddle
    exact (hbyte b₁).mpr (by omega)
  · rintro ⟨rfl, rfl⟩
    have hoi : ouiOf 0 0 b₂ = b₂.toNat := by
      show 0 <<< 8 ||| 0 <<< 4 ||| b₂.toNat = _
      rw [Nat.zero_shiftLeft, Nat.zero_shiftLeft, Nat.zero_or, Nat.zero_or]
    have hhigh : b₂.toNat / 65536 = 0 := by omega
    have hmiddle : b₂.toNat / 256 = 0 := by omega
    rw [hoi, ouiBytes, hhigh, hmiddle, UInt8.ofNat_toNat]
    rfl

/-! ## The body, written back -/

section

variable {rest destination source : List Byte} {tags : Tags} {etherType : Nat}

/-- The first bytes, one by one. -/
theorem take_three (h : 3 ≤ rest.length) :
    rest.take 3 = [rest.getD 0 0, rest.getD 1 0, rest.getD 2 0] := by
  match rest, h with
  | _ :: _ :: _ :: _, _ => rfl

theorem writeBody_ii (h : 0x0800 ≤ etherType) :
    writeBody (assemble data destination source tags (bodyOf rest etherType)) =
      header etherType ++ rest := by
  rw [bodyOf, encapsulation_ii h]
  rfl

theorem writeBody_raw (h : ¬ 0x0800 ≤ etherType) (hraw : RawBody rest)
    (hlen : etherType ≤ rest.length) :
    writeBody (assemble data destination source tags (bodyOf rest etherType)) =
      header etherType ++ rest.take etherType := by
  rw [bodyOf, encapsulation_raw h hraw]
  show header (rest.take etherType).length ++ rest.take etherType = _
  rw [List.length_take_of_le hlen]

theorem writeBody_ieee (h : ¬ 0x0800 ≤ etherType) (hraw : ¬ RawBody rest)
    (hsnap : ¬ SnapBody rest) (h₃ : 3 ≤ etherType) (hlen : etherType ≤ rest.length) :
    writeBody (assemble data destination source tags (bodyOf rest etherType)) =
      header etherType ++ rest.take etherType := by
  rw [bodyOf, encapsulation_ieee h hraw hsnap]
  show header etherType ++ [rest.getD 0 0, rest.getD 1 0, rest.getD 2 0] ++
    (rest.drop 3).take (etherType - 3) = _
  rw [← take_three (by omega), List.append_assoc, ← List.take_add]
  congr 2
  omega

/-- The bytes of a SNAP frame behind the OUI. -/
theorem snap_tail (h₈ : 8 ≤ etherType) (hlen : etherType ≤ rest.length) :
    header (wordAt rest 6) ++ (rest.drop 8).take (etherType - 8) =
      (rest.drop 6).take (etherType - 6) := by
  have hcount : etherType - 6 = (header (wordAt rest 6)).length + (etherType - 8) := by
    rw [header_length]
    omega
  have hword : rest.drop 6 = header (wordAt rest 6) ++ rest.drop 8 := drop_eq_header (by omega)
  rw [hword, hcount, List.take_length_add_append]

theorem writeBody_snap (h : ¬ 0x0800 ≤ etherType) (hraw : ¬ RawBody rest) (hsnap : SnapBody rest)
    (h₈ : 8 ≤ etherType) (hlen : etherType ≤ rest.length) :
    writeBody (assemble data destination source tags (bodyOf rest etherType)) =
      header etherType ++ (rest.take 3 ++
        (ouiBytes (ouiOf (rest.getD 3 0) (rest.getD 4 0) (rest.getD 5 0)) ++
          (rest.drop 6).take (etherType - 6))) := by
  have hcount : ((rest.drop 8).take (etherType - 8)).length + 8 = etherType := by
    rw [List.length_take, List.length_drop]
    omega
  rw [bodyOf, encapsulation_snap h hraw hsnap, ← snap_tail h₈ hlen, take_three (by omega)]
  show header (((rest.drop 8).take (etherType - 8)).length + 8) ++ _ ++ _ ++ _ ++ _ = _
  rw [hcount]
  simp only [List.append_assoc]
  rfl

/-- The OUI bytes of a SNAP frame, where they stand in it. -/
theorem snap_middle (h : 8 ≤ rest.length) :
    rest = rest.take 3 ++ ([rest.getD 3 0, rest.getD 4 0, rest.getD 5 0] ++ rest.drop 6) := by
  match rest, h with
  | _ :: _ :: _ :: _ :: _ :: _ :: _ :: _ :: _, _ => rfl

/-- A body that fits is written back, unless it is of a SNAP frame whose OUI is not. -/
theorem body_restored (hfit : BodyFits rest etherType) (f : EthernetFrame)
    (hf : f = assemble data destination source tags (bodyOf rest etherType)) :
    (writeBody f <+: header etherType ++ rest ∧
      (f.type = .ethernetII → writeBody f = header etherType ++ rest)) ↔
    (etherType < 0x0800 ∧ ¬ RawBody rest ∧ SnapBody rest →
      rest.getD 3 0 = 0 ∧ rest.getD 4 0 = 0) := by
  subst hf
  by_cases hii : 0x0800 ≤ etherType
  · rw [writeBody_ii hii]
    exact ⟨fun _ hsnap => by omega, fun _ => ⟨List.prefix_rfl, fun _ => rfl⟩⟩
  · have htype : ∀ type, encapsulation rest etherType = type → type ≠ .ethernetII →
        (assemble data destination source tags (bodyOf rest etherType)).type ≠ .ethernetII := by
      intro type htype hne
      show (bodyOf rest etherType).type ≠ _
      rw [bodyOf_type, htype]
      exact hne
    obtain ⟨hlen, hheaders⟩ := hfit (by omega)
    by_cases hraw : RawBody rest
    · have hne := htype _ (encapsulation_raw hii hraw) (by decide)
      rw [writeBody_raw hii hraw hlen]
      refine ⟨fun _ hsnap => absurd hraw hsnap.2.1, fun _ => ⟨?_, fun h => absurd h hne⟩⟩
      exact (List.prefix_append_right_inj _).mpr (List.take_prefix _ _)
    · obtain ⟨h₃, h₈⟩ := hheaders hraw
      by_cases hsnap : SnapBody rest
      · have hne := htype _ (encapsulation_snap hii hraw hsnap) (by decide)
        have h₈ := h₈ hsnap
        have hsplit : header etherType ++ rest = header etherType ++ (rest.take 3 ++
            ([rest.getD 3 0, rest.getD 4 0, rest.getD 5 0] ++ rest.drop 6)) := by
          rw [← snap_middle (by omega)]
        rw [writeBody_snap hii hraw hsnap h₈ hlen, hsplit, List.prefix_append_right_inj,
          List.prefix_append_right_inj]
        constructor
        · rintro ⟨⟨tail, htail⟩, -⟩ -
          rw [List.append_assoc] at htail
          have hoi := (List.append_inj htail rfl).1
          exact (ouiBytes_ouiOf_iff _ _ _).mp hoi
        · intro hzero
          have hoi := (ouiBytes_ouiOf_iff _ _ (rest.getD 5 0)).mpr (hzero ⟨by omega, hraw, hsnap⟩)
          rw [hoi]
          refine ⟨?_, fun h => absurd h hne⟩
          exact (List.prefix_append_right_inj _).mpr (List.take_prefix _ _)
      · have hne := htype _ (encapsulation_ieee hii hraw hsnap) (by decide)
        rw [writeBody_ieee hii hraw hsnap h₃ hlen]
        refine ⟨fun _ h => absurd h.2.2 hsnap, fun _ => ⟨?_, fun h => absurd h hne⟩⟩
        exact (List.prefix_append_right_inj _).mpr (List.take_prefix _ _)

end

/-! ## The tags, written back -/

/-- The VLAN fields of a frame pack to the tag they were read from. -/
theorem frameOf_packTag (data : List Byte) (h : headerEnd data ≠ 14) :
    packTag (frameOf data).pcp (frameOf data).cfi (frameOf data).vid =
      wordAt data (headerEnd data - 4) := by
  have hvlan : (tagsOf data).hasVLAN = true := decide_eq_true h
  have hdata : (tagsOf data).vlanData = wordAt data (headerEnd data - 4) := if_neg h
  show packTag (if (tagsOf data).hasVLAN then _ else 0) ((tagsOf data).hasVLAN && _)
    (if (tagsOf data).hasVLAN then _ else 0) = _
  rw [hvlan, if_pos rfl, if_pos rfl, Bool.true_and, hdata]
  exact packTag_eq (wordAt_lt _ _)

theorem writeTags_two (h : headerEnd data = 22) :
    writeTags (frameOf data) = header (wordAt data 12) ++ header (wordAt data 14) ++
      (header 0x8100 ++ header (wordAt data 18)) := by
  have hpack := frameOf_packTag data (by omega)
  unfold writeTags
  rw [hpack]
  simp [frameOf, assemble, tagsOf, h]

theorem writeTags_one (h : headerEnd data = 18) :
    writeTags (frameOf data) = header 0x8100 ++ header (wordAt data 14) := by
  have hpack := frameOf_packTag data (by omega)
  unfold writeTags
  rw [hpack]
  simp [frameOf, assemble, tagsOf, h]

theorem writeTags_none (h : headerEnd data = 14) : writeTags (frameOf data) = [] := by
  unfold writeTags
  simp [frameOf, assemble, tagsOf, h]

/-- The tags and the length field are the array from its type on. -/
theorem tags_restored (hfit : TagsFit data) :
    writeTags (frameOf data) ++ (header (lengthField data) ++ data.drop (headerEnd data)) =
      data.drop 12 := by
  have hlen := hfit.headerEnd_le
  unfold lengthField
  rcases headerEnd_cases data with ⟨hend, -, hinner⟩ | ⟨hend, htype, -⟩ | ⟨hend, -⟩
  · rw [writeTags_two hend, hend, drop_eq_header (i := 12) (by omega),
      drop_eq_header (i := 14) (by omega), drop_eq_header (i := 16) (by omega),
      drop_eq_header (i := 18) (by omega), drop_eq_header (i := 20) (by omega), hinner]
    simp only [List.append_assoc]
  · rw [writeTags_one hend, hend, drop_eq_header (i := 12) (by omega),
      drop_eq_header (i := 14) (by omega), drop_eq_header (i := 16) (by omega), htype]
    simp only [List.append_assoc]
  · rw [writeTags_none hend, hend, drop_eq_header (i := 12) (by omega)]
    rfl

/-- Only what follows a common front part matters. -/
theorem behind_front {front back all : List Byte} (h : front ++ back = all) (body : List Byte) :
    (front ++ body <+: all ↔ body <+: back) ∧ (front ++ body = all ↔ body = back) := by
  subst h
  exact ⟨List.prefix_append_right_inj _, List.append_cancel_left_eq front body back ▸ Iff.rfl⟩

/-- A frame is written back on its array just when its body is. -/
theorem restores_iff (hfit : TagsFit data) :
    Restores (frameOf data) data ↔
      writeBody (frameOf data) <+: header (lengthField data) ++ data.drop (headerEnd data) ∧
        ((frameOf data).type = .ethernetII →
          writeBody (frameOf data) = header (lengthField data) ++ data.drop (headerEnd data)) := by
  have haddresses : data.take 6 ++ (data.drop 6).take 6 = data.take 12 :=
    (List.take_add (i := 6) (j := 6) (l := data)).symm
  have hfront : writeBack (frameOf data) =
      data.take 12 ++ writeTags (frameOf data) ++ writeBody (frameOf data) := by
    rw [← haddresses]
    rfl
  have hdata : data.take 12 ++ writeTags (frameOf data) ++
      (header (lengthField data) ++ data.drop (headerEnd data)) = data := by
    rw [List.append_assoc, tags_restored hfit, List.take_append_drop]
  obtain ⟨hread, heq⟩ := behind_front hdata (writeBody (frameOf data))
  unfold Restores
  rw [hfront, hread, heq]

/-- A SNAP header in front of a nonzero OUI byte other than the last is not written back;
every other accepted array is. -/
theorem frame_restored (f : EthernetFrame) (h : ethernetFrame data = .ok f) :
    Restores f data ↔
      (SnapHeader data →
        data.getD (headerEnd data + 3) 0 = 0 ∧ data.getD (headerEnd data + 4) 0 = 0) := by
  obtain ⟨⟨hfit, hbody⟩, rfl⟩ := frame_ok_iff.mp h
  rw [restores_iff hfit, body_restored hbody (frameOf data) rfl, rawBody_drop, snapBody_drop,
    getD_drop, getD_drop]
  exact Iff.rfl

/-- A SNAP frame without payload: the OUI, and an EtherType. -/
def snapFrame (b₀ b₁ b₂ : Byte) (etherType : Nat) : List Byte :=
  List.replicate 12 0 ++ header 8 ++ [0xaa, 0xaa, 0x03, b₀, b₁, b₂] ++ header etherType

/-- An IPv4 frame is written back. -/
theorem frame_restored_ipv4 :
    ∃ f, ethernetFrame (snapFrame 0 0 0 0x0800) = .ok f ∧ Restores f (snapFrame 0 0 0 0x0800) :=
  ⟨frameOf (snapFrame 0 0 0 0x0800), by decide +kernel,
    (frame_restored _ (by decide +kernel)).mpr fun _ => by decide +kernel⟩

/-- An AppleTalk frame is not: of its OUI 08-00-07, the fields keep 0x0807. -/
theorem frame_not_restored :
    ∃ f, ethernetFrame (snapFrame 0x08 0x00 0x07 0x809b) = .ok f ∧ f.oui = 0x0807 ∧
      ¬ Restores f (snapFrame 0x08 0x00 0x07 0x809b) :=
  ⟨frameOf (snapFrame 0x08 0x00 0x07 0x809b), by decide +kernel, by decide +kernel,
    by decide +kernel⟩

/-! ## Tags inserted into a frame -/

/-- A tag in front of the type of a frame. -/
def insertTags (data tags : List Byte) : List Byte := data.take 12 ++ tags ++ data.drop 12

/-- The four bytes of a tag. -/
def tagBytes (type value : Nat) : List Byte := header type ++ header value

/-- What does not depend on the tags is the same. -/
structure SameFrame (f g : EthernetFrame) : Prop where
  type : g.type = f.type
  etherType : g.etherType = f.etherType
  dsap : g.dsap = f.dsap
  ssap : g.ssap = f.ssap
  ctrl : g.ctrl = f.ctrl
  oui : g.oui = f.oui
  payload : g.payload = f.payload
  source : g.source = f.source
  destination : g.destination = f.destination

/-- The frame is of the VLAN of a 16-bit tag. -/
structure InVlan (g : EthernetFrame) (c : Nat) : Prop where
  hasVLAN : g.hasVLAN = true
  pcp : g.pcp.toNat = c / 8192
  cfi : g.cfi = decide (c / 4096 % 2 = 1)
  vid : g.vid = c % 4096

section

variable {c t s : Nat}

/-- The words of an array whose tags are two bytes longer and more. -/
theorem word_inserted (h : 12 ≤ data.length) (tags : List Byte) (i : Nat) :
    wordAt (insertTags data tags) (12 + i) = wordAt (tags ++ data.drop 12) i := by
  rw [insertTags, List.append_assoc]
  exact wordAt_append (List.length_take_of_le h) _ _

theorem drop_inserted (h : 12 ≤ data.length) (tags : List Byte) (i : Nat) :
    (insertTags data tags).drop (12 + (tags.length + i)) = data.drop (12 + i) := by
  have hfront : (data.take 12 ++ tags).length = 12 + tags.length := by
    rw [List.length_append, List.length_take_of_le h]
  rw [insertTags, ← Nat.add_assoc, ← hfront, List.drop_length_add_append, List.drop_drop]

/-- The frames of two arrays with the same addresses, the same length field and the same rest. -/
theorem sameFrame_of {data' : List Byte} (haddresses : data'.take 12 = data.take 12)
    (hlength : lengthField data' = lengthField data)
    (hrest : data'.drop (headerEnd data') = data.drop (headerEnd data)) :
    SameFrame (frameOf data) (frameOf data') := by
  have hdestination : data'.take 6 = data.take 6 := by
    have := congrArg (List.take 6) haddresses
    rwa [List.take_take, List.take_take] at this
  have hsource : (data'.drop 6).take 6 = (data.drop 6).take 6 := by
    have := congrArg (List.drop 6) haddresses
    rwa [List.drop_take, List.drop_take] at this
  have hbody : bodyOf (data'.drop (headerEnd data')) (lengthField data') =
      bodyOf (data.drop (headerEnd data)) (lengthField data) := by rw [hrest, hlength]
  exact ⟨congrArg Body.type hbody, congrArg Body.etherType hbody, congrArg Body.dsap hbody,
    congrArg Body.ssap hbody, congrArg Body.ctrl hbody, congrArg Body.oui hbody,
    congrArg Body.payload hbody, hsource, hdestination⟩

/-- The VLAN fields of a frame are those of the tag before its length field. -/
theorem inVlan_of (data : List Byte) (h : headerEnd data ≠ 14) :
    InVlan (frameOf data) (wordAt data (headerEnd data - 4)) := by
  have hvlan : (tagsOf data).hasVLAN = true := decide_eq_true h
  have hdata : (tagsOf data).vlanData = wordAt data (headerEnd data - 4) := if_neg h
  have hpcp : (frameOf data).pcp = UInt8.ofNat ((tagsOf data).vlanData >>> 13 &&& 0x07) :=
    if_pos hvlan
  have hvid : (frameOf data).vid = (tagsOf data).vlanData &&& 0xfff := if_pos hvlan
  have hcfi : (frameOf data).cfi = decide ((tagsOf data).vlanData >>> 12 &&& 0x01 ≠ 0) := by
    show ((tagsOf data).hasVLAN && _) = _
    rw [hvlan, Bool.true_and]
  refine ⟨hvlan, ?_, ?_, ?_⟩
  · rw [hpcp, hdata, tag_pcp (wordAt_lt _ _)]
  · rw [hcfi, hdata, tag_cfi]
    exact decide_eq_decide.mpr (by omega)
  · rw [hvid, hdata, tag_vid]

/-- An untagged frame with tags the constructor takes for its header. -/
theorem frame_inserted (tags : List Byte) (hfit : TagsFit data)
    (hbody : BodyFits (data.drop (headerEnd data)) (lengthField data))
    (htype : wordAt data 12 ∉ tagTypes) (htags : 4 ≤ tags.length)
    (hend : headerEnd (insertTags data tags) = 14 + tags.length) :
    ethernetFrame (insertTags data tags) = .ok (frameOf (insertTags data tags)) ∧
      SameFrame (frameOf data) (frameOf (insertTags data tags)) := by
  have h₁₄ : 14 ≤ data.length := hfit.1
  have hend₁₄ := headerEnd_untagged htype
  have hlen : (insertTags data tags).length = data.length + tags.length := by
    simp only [insertTags, List.length_append, List.length_take, List.length_drop]
    omega
  have hfit' : TagsFit (insertTags data tags) := by
    unfold TagsFit
    rw [hlen, hend]
    exact ⟨by omega, fun _ => by omega, fun _ => by omega⟩
  have hlength : lengthField (insertTags data tags) = lengthField data := by
    have hoffset : 14 + tags.length - 2 = 12 + (tags.length + 0) := by omega
    rw [lengthField, lengthField, hend, hend₁₄, hoffset, word_inserted (by omega),
      wordAt_append rfl, wordAt, List.drop_drop]
    rfl
  have hrest : (insertTags data tags).drop (headerEnd (insertTags data tags)) =
      data.drop (headerEnd data) := by
    have hoffset : 14 + tags.length = 12 + (tags.length + 2) := by omega
    rw [hend, hend₁₄, hoffset, drop_inserted (by omega)]
  have haddresses : (insertTags data tags).take 12 = data.take 12 := by
    rw [insertTags, List.append_assoc]
    exact List.take_left' (List.length_take_of_le (by omega))
  refine ⟨frame_ok_iff.mpr ⟨⟨hfit', ?_⟩, rfl⟩, sameFrame_of haddresses hlength hrest⟩
  rw [hrest, hlength]
  exact hbody

/-- The words of an array with one tag. -/
theorem word_tagged (h : 12 ≤ data.length) (i : Nat) :
    wordAt (insertTags data (tagBytes 0x8100 c)) (12 + i) =
      wordAt (header 0x8100 ++ (header c ++ data.drop 12)) i := by
  rw [word_inserted h, tagBytes, List.append_assoc]

/-- The words of an array with two tags. -/
theorem word_tagged_twice (h : 12 ≤ data.length) (i : Nat) :
    wordAt (insertTags data (tagBytes t s ++ tagBytes 0x8100 c)) (12 + i) =
      wordAt (header t ++ (header s ++ (header 0x8100 ++ (header c ++ data.drop 12)))) i := by
  rw [word_inserted h]
  simp only [tagBytes, List.append_assoc]

/-- One tag is read as the VLAN tag. -/
theorem single_tag (hfit : TagsFit data)
    (hbody : BodyFits (data.drop (headerEnd data)) (lengthField data))
    (htype : wordAt data 12 ∉ tagTypes) (hc : c < 65536) :
    ∃ g, ethernetFrame (insertTags data (tagBytes 0x8100 c)) = .ok g ∧
      SameFrame (frameOf data) g ∧ InVlan g c ∧
      g.hasQinQ = false ∧ g.qinQType = 0 ∧ g.qinQValue = 0 := by
  have h₁₂ : 12 ≤ data.length := Nat.le_trans (by decide) hfit.1
  have hdata₁₂ : wordAt (data.drop 12) 0 = wordAt data 12 := by
    rw [wordAt, List.drop_drop]
    rfl
  have hnot : ¬ wordAt data 12 = 0x8100 := fun heq => htype (by rw [heq]; decide)
  have h₀ : wordAt (insertTags data (tagBytes 0x8100 c)) 12 = 0x8100 :=
    (word_tagged h₁₂ 0).trans (wordAt_header (by decide) _)
  have h₂ : wordAt (insertTags data (tagBytes 0x8100 c)) 14 = c :=
    (word_tagged h₁₂ 2).trans ((wordAt_append rfl _ 0).trans (wordAt_header hc _))
  have h₄ : wordAt (insertTags data (tagBytes 0x8100 c)) 16 = wordAt data 12 :=
    (word_tagged h₁₂ 4).trans
      ((wordAt_append rfl _ 2).trans ((wordAt_append rfl _ 0).trans hdata₁₂))
  have hend : headerEnd (insertTags data (tagBytes 0x8100 c)) = 18 :=
    headerEnd_single h₀ (by rw [h₄]; exact hnot)
  obtain ⟨hok, hsame⟩ := frame_inserted (tagBytes 0x8100 c) hfit hbody htype (Nat.le_refl 4) hend
  have hvlan := inVlan_of (insertTags data (tagBytes 0x8100 c)) (by omega)
  rw [hend, h₂] at hvlan
  have hqinq : ¬ headerEnd (insertTags data (tagBytes 0x8100 c)) = 22 := by omega
  exact ⟨_, hok, hsame, hvlan, decide_eq_false hqinq, if_neg hqinq, if_neg hqinq⟩

/-- Of two tags the outer one is read as the Q-in-Q tag. -/
theorem double_tag (hfit : TagsFit data)
    (hbody : BodyFits (data.drop (headerEnd data)) (lengthField data))
    (htype : wordAt data 12 ∉ tagTypes) (hc : c < 65536) (ht : t ∈ tagTypes) (hs : s < 65536) :
    ∃ g, ethernetFrame (insertTags data (tagBytes t s ++ tagBytes 0x8100 c)) = .ok g ∧
      SameFrame (frameOf data) g ∧ InVlan g c ∧
      g.hasQinQ = true ∧ g.qinQType = t ∧ g.qinQValue = s := by
  have h₁₂ : 12 ≤ data.length := Nat.le_trans (by decide) hfit.1
  have ht' : t < 65536 := by
    have hall : ∀ type ∈ tagTypes, type < 65536 := by decide
    exact hall t ht
  have h₀ : wordAt (insertTags data (tagBytes t s ++ tagBytes 0x8100 c)) 12 = t :=
    (word_tagged_twice h₁₂ 0).trans (wordAt_header ht' _)
  have h₂ : wordAt (insertTags data (tagBytes t s ++ tagBytes 0x8100 c)) 14 = s :=
    (word_tagged_twice h₁₂ 2).trans ((wordAt_append rfl _ 0).trans (wordAt_header hs _))
  have h₄ : wordAt (insertTags data (tagBytes t s ++ tagBytes 0x8100 c)) 16 = 0x8100 :=
    (word_tagged_twice h₁₂ 4).trans ((wordAt_append rfl _ 2).trans
      ((wordAt_append rfl _ 0).trans (wordAt_header (by decide) _)))
  have h₆ : wordAt (insertTags data (tagBytes t s ++ tagBytes 0x8100 c)) 18 = c :=
    (word_tagged_twice h₁₂ 6).trans ((wordAt_append rfl _ 4).trans ((wordAt_append rfl _ 2).trans
      ((wordAt_append rfl _ 0).trans (wordAt_header hc _))))
  have hend : headerEnd (insertTags data (tagBytes t s ++ tagBytes 0x8100 c)) = 22 :=
    headerEnd_double (by rw [h₀]; exact ht) h₄
  obtain ⟨hok, hsame⟩ := frame_inserted (tagBytes t s ++ tagBytes 0x8100 c) hfit hbody htype
    (by decide : 4 ≤ 8) hend
  have hvlan := inVlan_of (insertTags data (tagBytes t s ++ tagBytes 0x8100 c)) (by omega)
  rw [hend, h₆] at hvlan
  exact ⟨_, hok, hsame, hvlan, decide_eq_true hend, (if_pos hend).trans h₀, (if_pos hend).trans h₂⟩

/-- A tag in front of the type, or two, change nothing else: they are read as the
VLAN tag, and the outer one as the Q-in-Q tag. -/
theorem frame_tagged (f : EthernetFrame) (h : ethernetFrame data = .ok f)
    (htype : wordAt data 12 ∉ tagTypes) (hc : c < 65536) (ht : t ∈ tagTypes) (hs : s < 65536) :
    (∃ g, ethernetFrame (insertTags data (tagBytes 0x8100 c)) = .ok g ∧
      SameFrame f g ∧ InVlan g c ∧
      g.hasQinQ = false ∧ g.qinQType = 0 ∧ g.qinQValue = 0) ∧
    (∃ g, ethernetFrame (insertTags data (tagBytes t s ++ tagBytes 0x8100 c)) = .ok g ∧
      SameFrame f g ∧ InVlan g c ∧
      g.hasQinQ = true ∧ g.qinQType = t ∧ g.qinQValue = s) := by
  obtain ⟨⟨hfit, hbody⟩, rfl⟩ := frame_ok_iff.mp h
  exact ⟨single_tag hfit hbody htype hc, double_tag hfit hbody htype hc ht hs⟩

/-- An IPv4 frame of no payload. -/
def ipv4Frame : List Byte := List.replicate 12 0 ++ header 0x0800

/-- It may be tagged twice. -/
theorem frame_tagged_ipv4 :
    ∃ g, ethernetFrame (insertTags ipv4Frame (tagBytes 0x88a8 7 ++ tagBytes 0x8100 0x3001)) =
      .ok g ∧ g.type = .ethernetII ∧ g.qinQValue = 7 ∧ g.vid = 1 := by
  have hf : ethernetFrame ipv4Frame = .ok (frameOf ipv4Frame) := by decide +kernel
  have hc : 0x3001 < 65536 := by decide
  have ht : 0x88a8 ∈ tagTypes := by decide
  have hs : 7 < 65536 := by decide
  obtain ⟨-, g, hok, hsame, hvlan, -, -, hvalue⟩ := frame_tagged _ hf (by decide) hc ht hs
  exact ⟨g, hok, hsame.type.trans (by decide +kernel), hvalue, hvlan.vid⟩

end

end

end TapCfg.Bindings
