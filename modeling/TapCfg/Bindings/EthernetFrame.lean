/-
  Bindings/EthernetFrame.lean --- the constructor of `EthernetFrame`.

  Source: src/bindings/EthernetFrame.cs, lines 36-167.

  The constructor reads the tags and then the body of a frame.  An exception of
  the runtime is an `Exn`, so that "the constructor completes" is a statement
  about its result.  The fields of the object are collected in two stages, as
  the constructor sets them: `Tags` and `Body`.

      tags_ok_iff    the tags are read just when they fit, and are these
      body_ok_iff    the body is read just when it fits, and is this
      frame_ok_iff   the constructor completes just when both fit
-/
import TapCfg.Foundation.Framing

set_option autoImplicit false

namespace TapCfg.Bindings

open TapCfg.Foundation

/-- `FrameType` -/
inductive FrameType where
  | ethernetII
  | ethernetRAW
  | ethernetIEEE
  | ethernetSNAP
  deriving DecidableEq, Repr

/-- What the runtime throws. -/
inductive Exn where
  /-- an index past the end of an array -/
  | indexOutOfRange
  /-- `Array.Copy` past the end of an array -/
  | argument
  /-- a new array of negative length -/
  | overflow
  deriving DecidableEq, Repr

/-! ## The runtime -/

/-- `data[i]` -/
def index (data : List Byte) (i : Nat) : Except Exn Byte :=
  if i < data.length then .ok (data.getD i 0) else .error .indexOutOfRange

/-- `(data[i] << 8) | data[i+1]` -/
def word (data : List Byte) (i : Nat) : Except Exn Nat := do
  let high ← index data i
  let low ← index data (i + 1)
  return high.toNat <<< 8 ||| low.toNat

/-- `Array.Copy(data, i, array, 0, n)`, for a new array of `n` bytes. -/
def copy (data : List Byte) (i n : Nat) : Except Exn (List Byte) :=
  if i + n ≤ data.length then .ok ((data.drop i).take n) else .error .argument

/-- `new byte[n]`, filled by `Array.Copy(data, i, array, 0, array.Length)`. -/
def copyNew (data : List Byte) (i : Nat) (n : Int) : Except Exn (List Byte) :=
  if n < 0 then .error .overflow else copy data i n.toNat

/-! ## Tags -/

/-- The cases of the `switch`. -/
def tagTypes : List Nat := [0x8100, 0x88a8, 0x9100, 0x9200]

/-- What the constructor has read of the tags, with its local `hdrlen` and `vlanData`. -/
structure Tags where
  etherType : Nat
  hdrlen : Nat
  hasQinQ : Bool := false
  qinQType : Nat := 0
  qinQValue : Nat := 0
  hasVLAN : Bool := false
  vlanData : Nat := 0
  deriving DecidableEq, Repr

/-- IEEE 802.1QinQ (VLAN) tagged frame -/
def outerTag (data : List Byte) (etherType : Nat) : Except Exn Tags :=
  if etherType ∈ tagTypes then do
    let value ← word data 14
    let inner ← word data 16
    return { etherType := inner, hdrlen := 18, hasQinQ := true, qinQType := etherType,
             qinQValue := value }
  else return { etherType, hdrlen := 14 }

/-- IEEE 802.1Q (VLAN) tagged frame detection -/
def innerTag (data : List Byte) (tags : Tags) : Except Exn Tags :=
  if tags.etherType = 0x8100 then do
    let vlanData ← word data tags.hdrlen
    let etherType ← word data (tags.hdrlen + 2)
    return { tags with hasVLAN := true, vlanData, etherType, hdrlen := tags.hdrlen + 4 }
  else if tags.hasQinQ ∧ tags.qinQType = 0x8100 then
    return { tags with hasVLAN := true, vlanData := tags.qinQValue, hasQinQ := false,
                       qinQType := 0, qinQValue := 0 }
  else if tags.hasQinQ then do
    -- QinQ detected incorrectly, reset to defaults
    let etherType ← word data 12
    return { tags with hasQinQ := false, qinQType := 0, qinQValue := 0, etherType, hdrlen := 14 }
  else return tags

/-- Everything before the body. -/
def readTags (data : List Byte) : Except Exn Tags := do
  let etherType ← word data 12
  let outer ← outerTag data etherType
  innerTag data outer

/-! ## The body -/

/-- What the constructor has read of the body. -/
structure Body where
  type : FrameType
  etherType : Nat
  dsap : Byte := 0
  ssap : Byte := 0
  ctrl : Byte := 0
  oui : Nat := 0
  payload : List Byte
  deriving DecidableEq, Repr

/-- `data[hdrlen] == 0xff && data[hdrlen+1] == 0xff` -/
def isRaw (data : List Byte) (hdrlen : Nat) : Except Exn Bool := do
  let first ← index data hdrlen
  if first = 0xff then
    let second ← index data (hdrlen + 1)
    return decide (second = 0xff)
  else return false

/-- `(DSAP & 0xfe) == 0xaa && (SSAP & 0xfe) == 0xaa` -/
def IsSnap (dsap ssap : Byte) : Prop := dsap &&& 0xfe = 0xaa ∧ ssap &&& 0xfe = 0xaa

instance (dsap ssap : Byte) : Decidable (IsSnap dsap ssap) :=
  inferInstanceAs (Decidable (_ ∧ _))

/-- The `OUI` of three bytes, as the constructor puts it together. -/
def ouiOf (b₀ b₁ b₂ : Byte) : Nat := b₀.toNat <<< 8 ||| b₁.toNat <<< 4 ||| b₂.toNat

/-- IEEE 802.2/802.3 Ethernet -/
def readIeee (data : List Byte) (hdrlen etherType : Nat) : Except Exn Body := do
  let payloadlen : Int := etherType
  let dsap ← index data hdrlen
  let ssap ← index data (hdrlen + 1)
  let ctrl ← index data (hdrlen + 2)
  if IsSnap dsap ssap then
    let b₀ ← index data (hdrlen + 3)
    let b₁ ← index data (hdrlen + 4)
    let b₂ ← index data (hdrlen + 5)
    let etherType ← word data (hdrlen + 6)
    let payload ← copyNew data (hdrlen + 8) (payloadlen - 3 - 3 - 2)
    return { type := .ethernetSNAP, etherType, dsap, ssap, ctrl, oui := ouiOf b₀ b₁ b₂, payload }
  else
    let payload ← copyNew data (hdrlen + 3) (payloadlen - 3)
    return { type := .ethernetIEEE, etherType, dsap, ssap, ctrl, payload }

/-- Everything behind the tags. -/
def readBody (data : List Byte) (hdrlen etherType : Nat) : Except Exn Body :=
  if 0x0800 ≤ etherType then do
    -- This is a common Ethernet II frame
    let payload ← copyNew data hdrlen (data.length - hdrlen)
    return { type := .ethernetII, etherType, payload }
  else do
    -- In IEEE frames etherType is the length
    let raw ← isRaw data hdrlen
    if raw then
      let payload ← copyNew data hdrlen etherType
      return { type := .ethernetRAW, etherType := 0x8137, payload }
    else readIeee data hdrlen etherType

/-! ## The object -/

/-- The fields of `EthernetFrame`. -/
structure EthernetFrame where
  type : FrameType
  data : List Byte
  source : List Byte
  destination : List Byte
  etherType : Nat
  payload : List Byte
  hasQinQ : Bool
  qinQType : Nat
  qinQValue : Nat
  hasVLAN : Bool
  pcp : Byte
  cfi : Bool
  vid : Nat
  dsap : Byte
  ssap : Byte
  ctrl : Byte
  oui : Nat
  deriving DecidableEq, Repr

/-- The fields as they are set; those of the VLAN are parsed only when there is one. -/
def assemble (data destination source : List Byte) (tags : Tags) (body : Body) : EthernetFrame where
  type := body.type
  data := data
  source := source
  destination := destination
  etherType := body.etherType
  payload := body.payload
  hasQinQ := tags.hasQinQ
  qinQType := tags.qinQType
  qinQValue := tags.qinQValue
  hasVLAN := tags.hasVLAN
  pcp := if tags.hasVLAN then UInt8.ofNat (tags.vlanData >>> 13 &&& 0x07) else 0
  cfi := tags.hasVLAN && decide (tags.vlanData >>> 12 &&& 0x01 ≠ 0)
  vid := if tags.hasVLAN then tags.vlanData &&& 0xfff else 0
  dsap := body.dsap
  ssap := body.ssap
  ctrl := body.ctrl
  oui := body.oui

/-- The constructor `EthernetFrame(byte[] data)` -/
def ethernetFrame (data : List Byte) : Except Exn EthernetFrame := do
  let destination ← copy data 0 6
  let source ← copy data 6 6
  let tags ← readTags data
  let body ← readBody data tags.hdrlen tags.etherType
  return assemble data destination source tags body

/-! ## What is read -/

/-- The big-endian 16-bit value at an offset. -/
def wordAt (data : List Byte) (i : Nat) : Nat := headerValue (data.drop i)

/-- The end of the header, by the tags. -/
def headerEnd (data : List Byte) : Nat :=
  if wordAt data 12 ∈ tagTypes ∧ wordAt data 16 = 0x8100 then 22
  else if wordAt data 12 = 0x8100 then 18
  else 14

/-- The array is long enough for its tags. -/
def TagsFit (data : List Byte) : Prop :=
  14 ≤ data.length ∧ (wordAt data 12 ∈ tagTypes → 18 ≤ data.length) ∧
    (headerEnd data = 22 → 22 ≤ data.length)

/-- What the constructor reads of tags that fit. -/
def tagsOf (data : List Byte) : Tags where
  etherType := wordAt data (headerEnd data - 2)
  hdrlen := headerEnd data
  hasQinQ := decide (headerEnd data = 22)
  qinQType := if headerEnd data = 22 then wordAt data 12 else 0
  qinQValue := if headerEnd data = 22 then wordAt data 14 else 0
  hasVLAN := decide (headerEnd data ≠ 14)
  vlanData := if headerEnd data = 14 then 0 else wordAt data (headerEnd data - 4)

theorem index_eq {data : List Byte} {i : Nat} (h : i < data.length) :
    index data i = .ok (data.getD i 0) := if_pos h

theorem index_error {data : List Byte} {i : Nat} (h : ¬ i < data.length) :
    index data i = .error .indexOutOfRange := if_neg h

theorem wordAt_eq (data : List Byte) {i : Nat} (h : i + 2 ≤ data.length) :
    wordAt data i = (data.getD i 0).toNat * 256 + (data.getD (i + 1) 0).toNat := by
  have h₀ : i < data.length := by omega
  have h₁ : i + 1 < data.length := by omega
  rw [wordAt, List.drop_eq_getElem_cons h₀, List.drop_eq_getElem_cons h₁]
  simp [headerValue, h₀, h₁]

/-- Two bytes shifted together. -/
theorem shift_or (high low : Byte) :
    high.toNat <<< 8 ||| low.toNat = high.toNat * 256 + low.toNat := by
  have hlow : low.toNat < 2 ^ 8 := low.toNat_lt
  rw [← Nat.shiftLeft_add_eq_or_of_lt hlow, Nat.shiftLeft_eq]

theorem word_eq {data : List Byte} {i : Nat} (h : i + 2 ≤ data.length) :
    word data i = .ok (wordAt data i) := by
  rw [word, index_eq (by omega), index_eq (by omega), wordAt_eq data h]
  exact congrArg Except.ok (shift_or _ _)

theorem word_error {data : List Byte} {i : Nat} (h : ¬ i + 2 ≤ data.length) :
    word data i = .error .indexOutOfRange := by
  by_cases h₀ : i < data.length
  · rw [word, index_eq h₀, index_error (by omega)]
    rfl
  · rw [word, index_error h₀]
    rfl

/-! ## The tags -/

section

variable {data : List Byte}

theorem outerTag_untagged {etherType : Nat} (h : etherType ∉ tagTypes) :
    outerTag data etherType = .ok { etherType, hdrlen := 14 } := if_neg h

theorem outerTag_tagged {etherType : Nat} (h : etherType ∈ tagTypes) (hlen : 18 ≤ data.length) :
    outerTag data etherType =
      .ok { etherType := wordAt data 16, hdrlen := 18, hasQinQ := true, qinQType := etherType,
            qinQValue := wordAt data 14 } := by
  rw [outerTag, if_pos h, word_eq (by omega), word_eq (by omega)]
  rfl

theorem outerTag_error {etherType : Nat} (h : etherType ∈ tagTypes) (hlen : ¬ 18 ≤ data.length) :
    outerTag data etherType = .error .indexOutOfRange := by
  rw [outerTag, if_pos h]
  by_cases h₁₆ : 16 ≤ data.length
  · rw [word_eq (by omega), word_error (by omega)]
    rfl
  · rw [word_error (by omega)]
    rfl

theorem headerEnd_untagged (h : wordAt data 12 ∉ tagTypes) : headerEnd data = 14 := by
  have h₈₁₀₀ : ¬ wordAt data 12 = 0x8100 := fun heq => h (by rw [heq]; decide)
  rw [headerEnd, if_neg (fun hboth => h hboth.1), if_neg h₈₁₀₀]

theorem headerEnd_double (h : wordAt data 12 ∈ tagTypes) (hinner : wordAt data 16 = 0x8100) :
    headerEnd data = 22 := if_pos ⟨h, hinner⟩

theorem headerEnd_single (h : wordAt data 12 = 0x8100) (hinner : ¬ wordAt data 16 = 0x8100) :
    headerEnd data = 18 := by
  rw [headerEnd, if_neg (fun hboth => hinner hboth.2), if_pos h]

theorem headerEnd_reset (h : ¬ wordAt data 12 = 0x8100) (hinner : ¬ wordAt data 16 = 0x8100) :
    headerEnd data = 14 := by
  rw [headerEnd, if_neg (fun hboth => hinner hboth.2), if_neg h]

/-- Tags that fit are read. -/
theorem readTags_eq (hfit : TagsFit data) : readTags data = .ok (tagsOf data) := by
  obtain ⟨h₁₄, h₁₈, h₂₂⟩ := hfit
  rw [readTags, word_eq (by omega)]
  show (outerTag data (wordAt data 12)).bind (innerTag data) = _
  by_cases htagged : wordAt data 12 ∈ tagTypes
  · rw [outerTag_tagged htagged (h₁₈ htagged)]
    show innerTag data _ = _
    unfold innerTag tagsOf
    by_cases hinner : wordAt data 16 = 0x8100
    · have hend := headerEnd_double htagged hinner
      have h₂₂ := h₂₂ hend
      rw [if_pos hinner, word_eq (i := 18) (by omega), word_eq (i := 20) (by omega), hend]
      rfl
    · rw [if_neg hinner]
      by_cases h₈₁₀₀ : wordAt data 12 = 0x8100
      · rw [if_pos ⟨rfl, h₈₁₀₀⟩, headerEnd_single h₈₁₀₀ hinner]
        rfl
      · rw [if_neg (fun hboth => h₈₁₀₀ hboth.2), if_pos rfl, word_eq (by omega),
          headerEnd_reset h₈₁₀₀ hinner]
        rfl
  · rw [outerTag_untagged htagged]
    show innerTag data _ = _
    have h₈₁₀₀ : ¬ wordAt data 12 = 0x8100 := fun heq => htagged (by rw [heq]; decide)
    unfold innerTag tagsOf
    rw [if_neg h₈₁₀₀, if_neg (fun hboth => by cases hboth.1), if_neg Bool.false_ne_true,
      headerEnd_untagged htagged]
    rfl

/-- Tags that do not fit are an index out of range. -/
theorem readTags_error (hfit : ¬ TagsFit data) :
    readTags data = .error .indexOutOfRange := by
  unfold readTags
  by_cases h₁₄ : 14 ≤ data.length
  · rw [word_eq (by omega)]
    show (outerTag data (wordAt data 12)).bind (innerTag data) = _
    by_cases htagged : wordAt data 12 ∈ tagTypes
    · by_cases h₁₈ : 18 ≤ data.length
      · have hend : headerEnd data = 22 ∧ ¬ 22 ≤ data.length := by
          by_contra hnot
          exact hfit ⟨h₁₄, fun _ => h₁₈, fun hend => by_contra fun hlen => hnot ⟨hend, hlen⟩⟩
        have hinner : wordAt data 16 = 0x8100 := by
          by_contra hinner
          by_cases h₈₁₀₀ : wordAt data 12 = 0x8100
          · have := headerEnd_single h₈₁₀₀ hinner
            omega
          · have := headerEnd_reset h₈₁₀₀ hinner
            omega
        rw [outerTag_tagged htagged h₁₈]
        show innerTag data _ = _
        unfold innerTag
        rw [if_pos hinner]
        by_cases h₂₀ : 20 ≤ data.length
        · rw [word_eq (i := 18) (by omega), word_error (i := 20) (by omega)]
          rfl
        · rw [word_error (i := 18) (by omega)]
          rfl
      · rw [outerTag_error htagged h₁₈]
        rfl
    · have hend := headerEnd_untagged htagged
      exact absurd ⟨h₁₄, fun h => absurd h htagged, fun h => by omega⟩ hfit
  · rw [word_error (by omega)]
    rfl

/-- The tags are read just when they fit. -/
theorem tags_ok_iff {tags : Tags} :
    readTags data = .ok tags ↔ TagsFit data ∧ tags = tagsOf data := by
  by_cases hfit : TagsFit data
  · rw [readTags_eq hfit]
    exact ⟨fun h => ⟨hfit, (Except.ok.inj h).symm⟩, fun h => congrArg Except.ok h.2.symm⟩
  · rw [readTags_error hfit]
    exact ⟨fun h => (by cases h), fun h => absurd h.1 hfit⟩

end

/-! ## The body -/

/-- The bytes behind the header are those of a raw frame. -/
def RawBody (rest : List Byte) : Prop := rest.getD 0 0 = 0xff ∧ rest.getD 1 0 = 0xff

/-- The bytes behind the header are those of a SNAP header. -/
def SnapBody (rest : List Byte) : Prop := IsSnap (rest.getD 0 0) (rest.getD 1 0)

instance (rest : List Byte) : Decidable (RawBody rest) := inferInstanceAs (Decidable (_ ∧ _))

instance (rest : List Byte) : Decidable (SnapBody rest) := inferInstanceAs (Decidable (_ ∧ _))

/-- The array is long enough for its body, and the length covers the headers in it. -/
def BodyFits (rest : List Byte) (etherType : Nat) : Prop :=
  etherType < 0x0800 → etherType ≤ rest.length ∧
    (¬ RawBody rest → 3 ≤ etherType ∧ (SnapBody rest → 8 ≤ etherType))

/-- The encapsulation of a body. -/
def encapsulation (rest : List Byte) (etherType : Nat) : FrameType :=
  if 0x0800 ≤ etherType then .ethernetII
  else if RawBody rest then .ethernetRAW
  else if SnapBody rest then .ethernetSNAP
  else .ethernetIEEE

/-- What the constructor reads of a body that fits. -/
def bodyOf (rest : List Byte) (etherType : Nat) : Body :=
  match encapsulation rest etherType with
  | .ethernetII => { type := .ethernetII, etherType, payload := rest }
  | .ethernetRAW => { type := .ethernetRAW, etherType := 0x8137, payload := rest.take etherType }
  | .ethernetIEEE =>
      { type := .ethernetIEEE, etherType, dsap := rest.getD 0 0, ssap := rest.getD 1 0,
        ctrl := rest.getD 2 0, payload := (rest.drop 3).take (etherType - 3) }
  | .ethernetSNAP =>
      { type := .ethernetSNAP, etherType := wordAt rest 6, dsap := rest.getD 0 0,
        ssap := rest.getD 1 0, ctrl := rest.getD 2 0,
        oui := ouiOf (rest.getD 3 0) (rest.getD 4 0) (rest.getD 5 0),
        payload := (rest.drop 8).take (etherType - 8) }

section

variable {data rest : List Byte} {etherType hdrlen : Nat} {body : Body}

theorem bind_ok {α β : Type} {x : Except Exn α} {f : α → Except Exn β} {b : β}
    (h : x.bind f = .ok b) : ∃ a, x = .ok a ∧ f a = .ok b := by
  cases x with
  | error e => cases h
  | ok a => exact ⟨a, rfl, h⟩

theorem index_ok {i : Nat} {b : Byte} (h : index data i = .ok b) :
    i < data.length ∧ b = data.getD i 0 := by
  unfold index at h
  split at h
  · exact ⟨‹_›, (Except.ok.inj h).symm⟩
  · cases h

theorem word_ok {i n : Nat} (h : word data i = .ok n) : i + 2 ≤ data.length := by
  by_contra hlen
  rw [word_error hlen] at h
  cases h

theorem copyNew_eq {i n : Nat} (h : i + n ≤ data.length) :
    copyNew data i n = .ok ((data.drop i).take n) := by
  have hn : ¬ (n : Int) < 0 := by omega
  rw [copyNew, if_neg hn, copy, Int.toNat_natCast, if_pos h]

theorem copyNew_ok {i : Nat} {n : Int} {a : List Byte} (h : copyNew data i n = .ok a) :
    0 ≤ n ∧ i + n.toNat ≤ data.length := by
  unfold copyNew copy at h
  split at h
  · cases h
  · split at h
    · exact ⟨by omega, ‹_›⟩
    · cases h

theorem index_drop (data : List Byte) (hdrlen i : Nat) :
    index (data.drop hdrlen) i = index data (hdrlen + i) := by
  have hlen : i < (data.drop hdrlen).length ↔ hdrlen + i < data.length := by
    rw [List.length_drop]
    omega
  by_cases h : hdrlen + i < data.length
  · rw [index_eq h, index_eq (hlen.mpr h)]
    simp [List.getD_eq_getElem?_getD]
  · rw [index_error h, index_error (fun h' => h (hlen.mp h'))]

theorem word_drop (data : List Byte) (hdrlen i : Nat) :
    word (data.drop hdrlen) i = word data (hdrlen + i) := by
  rw [word, index_drop, index_drop]
  rfl

theorem copyNew_drop (h : hdrlen ≤ data.length) (i : Nat) (n : Int) :
    copyNew (data.drop hdrlen) i n = copyNew data (hdrlen + i) n := by
  have hlen : i + n.toNat ≤ (data.drop hdrlen).length ↔ hdrlen + i + n.toNat ≤ data.length := by
    rw [List.length_drop]
    omega
  unfold copyNew copy
  simp only [hlen, List.drop_drop]

/-- Only what is behind the header matters. -/
theorem readBody_drop (h : hdrlen ≤ data.length) :
    readBody (data.drop hdrlen) 0 etherType = readBody data hdrlen etherType := by
  have hrest : ((data.drop hdrlen).length : Int) - (0 : Nat) = data.length - hdrlen := by
    rw [List.length_drop]
    omega
  unfold readBody isRaw readIeee
  rw [hrest]
  simp only [index_drop, word_drop, copyNew_drop h, Nat.zero_add, Nat.add_zero]

theorem encapsulation_ii (h : 0x0800 ≤ etherType) :
    encapsulation rest etherType = .ethernetII := if_pos h

theorem encapsulation_raw (h : ¬ 0x0800 ≤ etherType) (hraw : RawBody rest) :
    encapsulation rest etherType = .ethernetRAW := by
  rw [encapsulation, if_neg h, if_pos hraw]

theorem encapsulation_snap (h : ¬ 0x0800 ≤ etherType) (hraw : ¬ RawBody rest)
    (hsnap : SnapBody rest) : encapsulation rest etherType = .ethernetSNAP := by
  rw [encapsulation, if_neg h, if_neg hraw, if_pos hsnap]

theorem encapsulation_ieee (h : ¬ 0x0800 ≤ etherType) (hraw : ¬ RawBody rest)
    (hsnap : ¬ SnapBody rest) : encapsulation rest etherType = .ethernetIEEE := by
  rw [encapsulation, if_neg h, if_neg hraw, if_neg hsnap]

/-- A raw frame has its two bytes. -/
theorem RawBody.two_le (h : RawBody rest) : 2 ≤ rest.length := by
  by_contra hlen
  have hdefault : rest.getD 1 0 = 0 := by
    rw [List.getD_eq_getElem?_getD, List.getElem?_eq_none (by omega)]
    rfl
  have hff : rest.getD 1 0 = 0xff := h.2
  rw [hdefault] at hff
  exact absurd hff (by decide)

theorem isRaw_eq (h : 2 ≤ rest.length) : isRaw rest 0 = .ok (decide (RawBody rest)) := by
  rw [isRaw, index_eq (by omega)]
  show (if rest.getD 0 0 = 0xff then _ else _) = _
  by_cases hfirst : rest.getD 0 0 = 0xff
  · rw [if_pos hfirst, index_eq (by omega)]
    show Except.ok _ = _
    congr 1
    exact decide_eq_decide.mpr ⟨fun hsecond => ⟨hfirst, hsecond⟩, fun hraw => hraw.2⟩
  · rw [if_neg hfirst, decide_eq_false (fun hraw => hfirst hraw.1)]
    rfl

theorem readIeee_snap (hraw : ¬ RawBody rest) (hsnap : SnapBody rest) (h : ¬ 0x0800 ≤ etherType)
    (h₈ : 8 ≤ etherType) (hlen : etherType ≤ rest.length) :
    readIeee rest 0 etherType = .ok (bodyOf rest etherType) := by
  have hcount : (etherType : Int) - 3 - 3 - 2 = (etherType - 8 : Nat) := by omega
  rw [bodyOf, encapsulation_snap h hraw hsnap, readIeee, index_eq (by omega), index_eq (by omega),
    index_eq (by omega)]
  have hboth : IsSnap (rest.getD 0 0) (rest.getD 1 0) := hsnap
  show (if IsSnap (rest.getD 0 0) (rest.getD 1 0) then _ else _) = _
  rw [if_pos hboth, index_eq (by omega), index_eq (by omega), index_eq (by omega),
    word_eq (by omega), hcount, copyNew_eq (by omega)]
  rfl

theorem readIeee_ieee (hraw : ¬ RawBody rest) (hsnap : ¬ SnapBody rest)
    (h : ¬ 0x0800 ≤ etherType) (h₃ : 3 ≤ etherType) (hlen : etherType ≤ rest.length) :
    readIeee rest 0 etherType = .ok (bodyOf rest etherType) := by
  have hcount : (etherType : Int) - 3 = (etherType - 3 : Nat) := by omega
  rw [bodyOf, encapsulation_ieee h hraw hsnap, readIeee, index_eq (by omega), index_eq (by omega),
    index_eq (by omega)]
  have hnot : ¬ IsSnap (rest.getD 0 0) (rest.getD 1 0) := hsnap
  show (if IsSnap (rest.getD 0 0) (rest.getD 1 0) then _ else _) = _
  rw [if_neg hnot, hcount, copyNew_eq (by omega)]
  rfl

/-- A body that fits is read. -/
theorem readBody_eq (hfit : BodyFits rest etherType) :
    readBody rest 0 etherType = .ok (bodyOf rest etherType) := by
  unfold readBody
  by_cases hii : 0x0800 ≤ etherType
  · have hcount : (rest.length : Int) - (0 : Nat) = rest.length := by omega
    rw [if_pos hii, hcount, copyNew_eq (by omega), bodyOf, encapsulation_ii hii,
      List.take_of_length_le (by simp)]
    rfl
  · obtain ⟨hlen, hheaders⟩ := hfit (by omega)
    rw [if_neg hii]
    by_cases hraw : RawBody rest
    · rw [isRaw_eq hraw.two_le, decide_eq_true hraw, bodyOf, encapsulation_raw hii hraw]
      show (copyNew rest 0 etherType).bind _ = _
      rw [copyNew_eq (by omega)]
      rfl
    · obtain ⟨h₃, h₈⟩ := hheaders hraw
      rw [isRaw_eq (by omega), decide_eq_false hraw]
      show readIeee rest 0 etherType = _
      by_cases hsnap : SnapBody rest
      · exact readIeee_snap hraw hsnap hii (h₈ hsnap) hlen
      · exact readIeee_ieee hraw hsnap hii h₃ hlen

/-- A body that is read as one of IEEE 802.2 covers its headers. -/
theorem readIeee_fits (h : readIeee rest 0 etherType = .ok body) :
    etherType ≤ rest.length ∧ 3 ≤ etherType ∧ (SnapBody rest → 8 ≤ etherType) := by
  unfold readIeee at h
  obtain ⟨dsap, hdsap, h⟩ := bind_ok h
  obtain ⟨ssap, hssap, h⟩ := bind_ok h
  obtain ⟨ctrl, hctrl, h⟩ := bind_ok h
  obtain ⟨-, rfl⟩ := index_ok hdsap
  obtain ⟨-, rfl⟩ := index_ok hssap
  have hlen := (index_ok hctrl).1
  split at h
  · obtain ⟨_, -, h⟩ := bind_ok h
    obtain ⟨_, -, h⟩ := bind_ok h
    obtain ⟨_, -, h⟩ := bind_ok h
    obtain ⟨_, hword, h⟩ := bind_ok h
    obtain ⟨_, hcopy, -⟩ := bind_ok h
    have hlen₈ := word_ok hword
    have hcount := copyNew_ok hcopy
    exact ⟨by omega, by omega, fun _ => by omega⟩
  · obtain ⟨_, hcopy, -⟩ := bind_ok h
    have hcount := copyNew_ok hcopy
    exact ⟨by omega, by omega, fun hsnap => absurd hsnap ‹_›⟩

/-- A body that is read fits. -/
theorem readBody_fits (h : readBody rest 0 etherType = .ok body) : BodyFits rest etherType := by
  intro hlt
  unfold readBody at h
  rw [if_neg (by omega)] at h
  obtain ⟨raw, hisRaw, h⟩ := bind_ok h
  by_cases hraw : RawBody rest
  · rw [isRaw_eq hraw.two_le, decide_eq_true hraw] at hisRaw
    cases hisRaw
    obtain ⟨_, hcopy, -⟩ := bind_ok h
    have hcount := copyNew_ok hcopy
    exact ⟨by omega, fun hnot => absurd hraw hnot⟩
  · cases raw with
    | true =>
        by_cases h₂ : 2 ≤ rest.length
        · rw [isRaw_eq h₂, decide_eq_false hraw] at hisRaw
          cases hisRaw
        · unfold isRaw at hisRaw
          obtain ⟨first, -, hisRaw⟩ := bind_ok hisRaw
          split at hisRaw
          · obtain ⟨second, hsecond, -⟩ := bind_ok hisRaw
            have := (index_ok hsecond).1
            omega
          · cases hisRaw
    | false =>
        obtain ⟨hlen, hheaders⟩ := readIeee_fits h
        exact ⟨hlen, fun _ => hheaders⟩

/-- The body is read just when it fits. -/
theorem body_ok_iff (h : hdrlen ≤ data.length) :
    readBody data hdrlen etherType = .ok body ↔
      BodyFits (data.drop hdrlen) etherType ∧ body = bodyOf (data.drop hdrlen) etherType := by
  rw [← readBody_drop h]
  constructor
  · intro hbody
    have hfit := readBody_fits hbody
    rw [readBody_eq hfit] at hbody
    exact ⟨hfit, (Except.ok.inj hbody).symm⟩
  · rintro ⟨hfit, rfl⟩
    exact readBody_eq hfit

end

/-! ## The whole frame -/

/-- The value before the end of the header: a type, or a length. -/
def lengthField (data : List Byte) : Nat := wordAt data (headerEnd data - 2)

/-- What the constructor builds of an array that fits. -/
def frameOf (data : List Byte) : EthernetFrame :=
  assemble data (data.take 6) ((data.drop 6).take 6) (tagsOf data)
    (bodyOf (data.drop (headerEnd data)) (lengthField data))

section

variable {data : List Byte}

theorem headerEnd_cases (data : List Byte) :
    (headerEnd data = 22 ∧ wordAt data 12 ∈ tagTypes ∧ wordAt data 16 = 0x8100) ∨
    (headerEnd data = 18 ∧ wordAt data 12 = 0x8100 ∧ ¬ wordAt data 16 = 0x8100) ∨
    (headerEnd data = 14 ∧ ¬ wordAt data 12 = 0x8100) := by
  by_cases hinner : wordAt data 16 = 0x8100
  · by_cases htagged : wordAt data 12 ∈ tagTypes
    · exact .inl ⟨headerEnd_double htagged hinner, htagged, hinner⟩
    · exact .inr (.inr ⟨headerEnd_untagged htagged, fun h => htagged (by rw [h]; decide)⟩)
  · by_cases h₈₁₀₀ : wordAt data 12 = 0x8100
    · exact .inr (.inl ⟨headerEnd_single h₈₁₀₀ hinner, h₈₁₀₀, hinner⟩)
    · exact .inr (.inr ⟨headerEnd_reset h₈₁₀₀ hinner, h₈₁₀₀⟩)

theorem TagsFit.headerEnd_le (h : TagsFit data) : headerEnd data ≤ data.length := by
  obtain ⟨h₁₄, h₁₈, h₂₂⟩ := h
  rcases headerEnd_cases data with ⟨hend, -, -⟩ | ⟨hend, htype, -⟩ | ⟨hend, -⟩
  · have := h₂₂ hend
    omega
  · have := h₁₈ (by rw [htype]; decide)
    omega
  · omega

theorem copy_eq {i n : Nat} (h : i + n ≤ data.length) :
    copy data i n = .ok ((data.drop i).take n) := if_pos h

/-- The constructor completes just when tags and body fit. -/
theorem frame_ok_iff {f : EthernetFrame} :
    ethernetFrame data = .ok f ↔
      (TagsFit data ∧ BodyFits (data.drop (headerEnd data)) (lengthField data)) ∧
        f = frameOf data := by
  constructor
  · intro h
    unfold ethernetFrame at h
    obtain ⟨destination, hdestination, h⟩ := bind_ok h
    obtain ⟨source, hsource, h⟩ := bind_ok h
    obtain ⟨tags, htags, h⟩ := bind_ok h
    obtain ⟨hfit, rfl⟩ := tags_ok_iff.mp htags
    have h₁₄ : 14 ≤ data.length := hfit.1
    rw [copy_eq (by omega)] at hdestination hsource
    obtain ⟨body, hbody, h⟩ := bind_ok h
    obtain ⟨hbodyFits, rfl⟩ := (body_ok_iff hfit.headerEnd_le).mp hbody
    cases hdestination
    cases hsource
    cases h
    exact ⟨⟨hfit, hbodyFits⟩, rfl⟩
  · rintro ⟨⟨hfit, hbodyFits⟩, rfl⟩
    have h₁₄ : 14 ≤ data.length := hfit.1
    have hbody : readBody data (tagsOf data).hdrlen (tagsOf data).etherType = _ :=
      (body_ok_iff hfit.headerEnd_le).mpr ⟨hbodyFits, rfl⟩
    unfold ethernetFrame
    rw [copy_eq (by omega), copy_eq (by omega), readTags_eq hfit]
    show (readBody data (tagsOf data).hdrlen (tagsOf data).etherType).bind _ = _
    rw [hbody]
    rfl

end

end TapCfg.Bindings
