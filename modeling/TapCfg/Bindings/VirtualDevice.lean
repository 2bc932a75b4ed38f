/-
  Bindings/VirtualDevice.lean --- reading and writing frames from .NET.

  Source: src/bindings/VirtualDevice.cs, lines 87-129; the functions of the
  library are those of Unix/Reading.lean and Unix/Writing.lean.

  The runtime pins a managed buffer and hands its address to the library, so the
  buffer of `ReadTo` is the memory of the caller there.  `WriteFrom` sends the
  first `length` bytes of its buffer, and compares what the library has written
  with the length of the whole buffer.
-/
import TapCfg.Unix.Writing

set_option autoImplicit false

namespace TapCfg.Bindings

open TapCfg.Foundation TapCfg.Unix
open Prog hiding ret

/-- The exceptions of the binding, with their messages. -/
inductive DeviceExn where
  | io (message : String)
  | endOfStream (message : String)
  deriving DecidableEq, Repr

/-! ## The program -/

/-- `ReadTo`, for a buffer of `length` bytes. -/
def readTo (length : Nat) : ReadIo (Except DeviceExn Int) := do
  let ret ← tapcfgRead length
  if ret < 0 then return .error (.io "Error reading frame")
  if ret = 0 then return .error (.endOfStream "Unexpected EOF")
  return .ok ret

/-- `WriteFrom` -/
def writeFrom (buffer : List Byte) (length : Int) : SendIo (Except DeviceExn Unit) := do
  let ret ← tapcfgWrite buffer length
  if ret < 0 then return .error (.io "Error writing frame")
  -- This shouldn't be possible, writes are blocking
  if ret ≠ buffer.length then return .error (.io "Incomplete write when writing frame")
  return .ok ()

/-- `Write` -/
def write (buffer : List Byte) : SendIo (Except DeviceExn Unit) := writeFrom buffer buffer.length

/-- What `ReadTo` returns and throws, by what the library returns. -/
def readResult (r : Int) : Except DeviceExn Int :=
  if r < 0 then .error (.io "Error reading frame")
  else if r = 0 then .error (.endOfStream "Unexpected EOF")
  else .ok r

theorem readTo_eq (length : Nat) :
    readTo length = (tapcfgRead length).bind fun r => .ret (readResult r) := by
  unfold readTo
  refine congrArg _ (funext fun r => ?_)
  unfold readResult
  split
  · rfl
  split
  · rfl
  · rfl

/-- What `WriteFrom` comes to, by what the library returns. -/
def writeResult (length : Nat) (r : Int) : Except DeviceExn Unit :=
  if r < 0 then .error (.io "Error writing frame")
  else if r ≠ length then .error (.io "Incomplete write when writing frame")
  else .ok ()

theorem writeFrom_eq (buffer : List Byte) (length : Int) :
    writeFrom buffer length =
      (tapcfgWrite buffer length).bind fun r => .ret (writeResult buffer.length r) := by
  unfold writeFrom
  refine congrArg _ (funext fun r => ?_)
  unfold writeResult
  split
  · rfl
  split
  · rfl
  · rfl

/-! ## The frame that is read -/

/-- The next read may give the frame: it is held, or ready, or still to arrive. -/
inductive Delivers (s : Reader) (f : List Byte) : Prop where
  | held (h : s.held = [f])
  | ready {rest : List Outcome} (hempty : s.buflen = 0) (hfd : s.cfg.tapFd = s.device)
      (h : s.ready = some f :: rest)
  | arriving (hempty : s.buflen = 0) (hfd : s.cfg.tapFd = s.device) (h : s.ready = [])

/-- A call of `ReadTo` with the buffer, in which the frame is the one at hand. -/
structure ReadsTo (s : Reader) (buffer f : List Byte) (x : Except DeviceExn Int) (s' : Reader) :
    Prop where
  run : Reaches deviceEnv (readTo buffer.length, { s with user := buffer }) (.ret x, s')
  atHand : ∃ τ, s'.log = s.log ++ τ ∧ s.held ++ taken τ = [f]

section

variable {buffer f : List Byte} {s s' : Reader} {x : Except DeviceExn Int}

theorem device_answers (s : Reader) (c : ReadCall) : ∃ a s', deviceEnv s c a s' :=
  ⟨_, _, serving_follows s c⟩

/-- A read of the device that gives the frame. -/
theorem Delivers.reads {n : Nat} (h : Delivers s f) (hempty : s.buflen = 0) (hn : f.length ≤ n)
    (hf : f ≠ []) : ∃ s₁ τ, DeviceReads s s.cfg.tapFd n (some f) s₁ ∧ s₁.log = s.log ++ τ ∧
      taken τ = [f] := by
  have htake : (some f).map (·.take n) = some f := congrArg some (List.take_of_length_le hn)
  have htaken : taken (tookMoves (some f)) = [f] := by
    rw [tookMoves, taken_cons]
    simp [Move.tookItem, nonEmpty_toList hf]
  cases h with
  | held hheld => simp [Reader.held, hempty] at hheld
  | ready _ hfd hready =>
      have hreads := DeviceReads.ready (n := n) hfd hready
      rw [htake] at hreads
      exact ⟨_, _, hreads, rfl, htaken⟩
  | arriving _ hfd hready =>
      have hreads := DeviceReads.arriving (n := n) (some f) hfd hready
      rw [htake] at hreads
      exact ⟨_, _, hreads, rfl, htaken⟩

/-- The frame gets into the buffer of the library. -/
theorem Delivers.fills (h : Delivers s f) (hf : f ≠ []) (hle : f.length ≤ tapcfgBufsize) :
    ∃ s₁ τ, Reaches deviceEnv (fillBuffer, s) (.ret none, s₁) ∧ s₁.log = s.log ++ τ ∧
      s.held ++ taken τ = [f] := by
  by_cases hempty : s.buflen = 0
  · obtain ⟨s₁, τ, hreads, hlog, htaken⟩ := h.reads hempty hle hf
    have hpos : ¬ readRet (some f) ≤ 0 := by
      have := List.length_pos_iff.mpr hf
      simp only [readRet]
      omega
    have hfilled : Reaches deviceEnv (fillBuffer, s)
        (.ret none, { s₁ with buffer := splice s₁.buffer 0 f, buflen := f.length }) := by
      unfold fillBuffer
      refine reaches_load_bind ?_
      rw [if_neg (not_not_intro hempty)]
      refine reaches_call_bind (a := some f) (by exact hreads) ?_
      rw [if_neg hpos]
      exact reaches_update_bind rfl .refl
    refine ⟨_, τ, hfilled, hlog, ?_⟩
    rw [Reader.held, if_pos hempty]
    exact htaken
  · cases h with
    | held hheld =>
        refine ⟨s, [], ?_, by simp, by simpa using hheld⟩
        unfold fillBuffer
        refine reaches_load_bind ?_
        rw [if_pos hempty]
        exact .refl
    | ready h _ _ => exact absurd h hempty
    | arriving h _ _ => exact absurd h hempty

/-- A call of `ReadTo` can have the frame at hand. -/
theorem Delivers.readsTo (h : Delivers s f) (buffer : List Byte) (hs : s.InRange)
    (hup : s.cfg.started = true) (hf : f ≠ []) (hle : f.length ≤ tapcfgBufsize) :
    ∃ x s', ReadsTo s buffer f x s' := by
  let s₀ : Reader := { s with user := buffer }
  have hs₀ : s₀.InRange := ⟨hs.1, hs.2, hs.3⟩
  have h₀ : Delivers s₀ f := by
    cases h with
    | held h => exact .held h
    | ready h hfd hready => exact .ready h hfd hready
    | arriving h hfd hready => exact .arriving h hfd hready
  obtain ⟨s₁, τ, hfill, hlog, hhand⟩ := h₀.fills hf hle
  have hfilled : Filled s₀ none s₁ := ((sat_fillBuffer hs₀).reaches hfill).2
  obtain ⟨τ', hlog', -, -, ⟨ret, hearly, -⟩ | ⟨-, g, -, hg⟩⟩ := hfilled.moves
  · cases hearly
  · have huser : (buffer.length : Int) ≤ s₁.user.length := Int.le_of_eq (by rw [hfilled.user])
    obtain ⟨r, s', hdeliver, -, -, hlog₁, -⟩ :=
      (sat_deliverFrame (buffer.length : Int) hg huser).returns device_answers
    refine ⟨readResult r, s', ?_, τ, by rw [hlog₁, hlog], hhand⟩
    rw [readTo_eq]
    have hread : Reaches deviceEnv (tapcfgRead buffer.length, s₀) (.ret r, s') := by
      unfold tapcfgRead
      refine reaches_load_bind ?_
      rw [if_neg (by simp [s₀, hup])]
      exact (hfill.bind _).trans hdeliver
    exact hread.bind _

/-- A call with room for the frame hands it over. -/
theorem frame_fits {count r : Int} {mem mem' : List Byte} {handed held : List (List Byte)}
    (hfit : f.length ≤ count) (h : CallEnds count mem [f] r mem' handed held) :
    r = f.length ∧ mem' = f ++ mem.drop f.length := by
  cases h with
  | tooSmall hne hlt => omega
  | handed hne hle => exact ⟨rfl, rfl⟩

/-- A frame that fits is returned, and is in the first bytes of the buffer. -/
theorem ReadsTo.returned (h : ReadsTo s buffer f x s') (hs : s.InRange)
    (hup : s.cfg.started = true) (hf : f ≠ []) (hfit : f.length ≤ buffer.length) :
    x = .ok f.length ∧ s'.user = f ++ buffer.drop f.length := by
  obtain ⟨τ, hlog, hhand⟩ := h.atHand
  have hsat := sat_tapcfgRead (s := { s with user := buffer }) (buffer.length : Int)
    ⟨hs.1, hs.2, hs.3⟩ hup (Int.le_refl _)
  have hrun := h.run
  rw [readTo_eq] at hrun
  have hpost : Sat deviceEnv (fun _ => True)
      (fun x s' => ∃ r, x = readResult r ∧ Reads buffer.length { s with user := buffer } r s')
      (fun _ _ => False) ((tapcfgRead buffer.length).bind fun r => .ret (readResult r))
      { s with user := buffer } :=
    sat_seq hsat fun r s' hreads => sat_ret trivial ⟨r, rfl, hreads⟩
  obtain ⟨r, rfl, hreads⟩ := (hpost.reaches hrun).2
  obtain ⟨τ', hlog', -, -, handed, hends⟩ := hreads.moves
  have hsame : τ' = τ := List.append_cancel_left (hlog'.symm.trans hlog)
  have hhand' : Reader.held { s with user := buffer } ++ taken τ' = [f] := by
    rw [hsame]
    exact hhand
  rw [hhand'] at hends
  obtain ⟨hr, huser⟩ := frame_fits (by omega) hends
  have hpos := List.length_pos_iff.mpr hf
  exact ⟨by rw [readResult, if_neg (by omega), if_neg (by omega), hr], huser⟩

end

/-! ## The bytes that are written -/

section

variable {buffer f : List Byte} {n : Nat} {t t' : Sender}

theorem toSize_of_le (hn : n ≤ tapcfgBufsize) : toSize n = n := by
  have hle : n ≤ 4096 := hn
  unfold toSize
  omega

/-- `WriteFrom` returns just when the device has taken all the bytes and there are no others. -/
theorem sat_writeFrom {F : Empty → Sender → Prop} (hup : t.cfg.started = true)
    (hn : n ≤ buffer.length) :
    Sat sendEnv (fun _ => True)
      (fun y t' => y = .ok () ↔ t'.sent = t.sent ++ [buffer.take n] ∧ buffer.length = n) F
      (writeFrom buffer n) t := by
  rw [writeFrom_eq]
  refine sat_seq (sat_tapcfgWrite hup hn) fun r t' hwrote => sat_ret trivial ?_
  obtain ⟨-, hret, htook⟩ := hwrote
  rw [← htook, writeResult]
  split
  · -- the library has failed
    exact iff_of_false (by simp) (by omega)
  split
  · exact iff_of_false (by simp) (by omega)
  · exact iff_of_true rfl (by omega)

/-- `Write` returns just when the device has taken the whole buffer. -/
theorem sat_write {F : Empty → Sender → Prop} (hup : t.cfg.started = true) :
    Sat sendEnv (fun _ => True) (fun y t' => y = .ok () ↔ t'.sent = t.sent ++ [buffer]) F
      (write buffer) t := by
  refine (sat_writeFrom hup (Nat.le_refl buffer.length)).post fun y t' h => ?_
  rw [h, List.take_length]
  exact and_iff_left rfl

/-- It asks the device to take just the first `n` bytes. -/
theorem asks_writeFrom_iff (hup : t.cfg.started = true) (hn : n ≤ tapcfgBufsize) {c : SendCall} :
    Asks sendEnv (writeFrom buffer n) t c ↔ c = .write t.cfg.tapFd buffer n := by
  -- whatever is written, nothing more is asked for
  have hquiet : ∀ ret : Int, Makes (fun _ => False)
      ((if ret ≠ (n : Int) then .ret (-1) else .ret ret : SendIo Int).bind
        fun r => .ret (writeResult buffer.length r)) := by
    intro ret
    split
    · trivial
    · trivial
  rw [writeFrom_eq, tapcfgWrite, bind_eq_bind, bind_assoc, asks_load_bind,
    if_neg (by simp [hup]), toSize_of_le hn]
  refine asks_call.trans ⟨?_, .inl⟩
  rintro (h | ⟨ret, t', -, h⟩)
  · exact h
  · exact ((hquiet ret).asks h).elim

/-- The device can take all the bytes. -/
theorem writeFrom_taken (buffer : List Byte) (hup : t.cfg.started = true) (hn : n ≤ tapcfgBufsize) :
    Reaches sendEnv (writeFrom buffer n, t)
      (.ret (writeResult buffer.length n), { t with sent := t.sent ++ [buffer.take n] }) := by
  have hwrite : Reaches sendEnv (tapcfgWrite buffer n, t)
      (.ret (n : Int), { t with sent := t.sent ++ [buffer.take n] }) := by
    unfold tapcfgWrite
    refine reaches_load_bind ?_
    rw [if_neg (by simp [hup]), toSize_of_le hn]
    refine reaches_call_bind (a := (n : Int)) (by exact .took n (Nat.le_refl n)) ?_
    rw [if_neg (not_not_intro rfl)]
    exact .refl
  rw [writeFrom_eq]
  exact hwrite.bind _

/-! ## Relaying a frame -/

/-- `ReadTo` gives the frame and its length, and `WriteFrom` sends just these bytes and
returns just when the device has taken them. -/
structure Relays (f buffer : List Byte) (s : Reader) (t : Sender) : Prop where
  returned : ∀ x s', ReadsTo s buffer f x s' → x = .ok f.length ∧ s'.user.take f.length = f
  passed : ∀ x s', ReadsTo s buffer f x s' → ∀ c,
    Asks sendEnv (writeFrom s'.user f.length) t c ↔ c = .write t.cfg.tapFd s'.user f.length
  reported : ∀ x s', ReadsTo s buffer f x s' → ∀ y t',
    Reaches sendEnv (writeFrom s'.user f.length, t) (.ret y, t') →
      (y = .ok () ↔ t'.sent = t.sent ++ [f])

/-- A frame is relayed just when the buffer has no more room than it needs. -/
theorem relays_iff (f buffer : List Byte) (s : Reader) (t : Sender) (hs : s.InRange)
    (hup : s.cfg.started = true) (ht : t.cfg = s.cfg) (hlen : 1 ≤ f.length ∧ f.length ≤ 4096)
    (hfit : f.length ≤ buffer.length) (hdelivers : Delivers s f) :
    Relays f buffer s t ↔ buffer.length = f.length := by
  have hf : f ≠ [] := List.length_pos_iff.mp hlen.1
  have hup' : t.cfg.started = true := by rw [ht, hup]
  have hgot : ∀ x s', ReadsTo s buffer f x s' →
      x = .ok f.length ∧ s'.user.take f.length = f ∧ s'.user.length = buffer.length := by
    intro x s' h
    obtain ⟨hx, huser⟩ := h.returned hs hup hf hfit
    refine ⟨hx, by rw [huser, List.take_left], ?_⟩
    rw [huser, List.length_append, List.length_drop]
    omega
  constructor
  · intro h
    -- the device takes all of the frame
    obtain ⟨x, s', hread⟩ := hdelivers.readsTo buffer hs hup hf hlen.2
    obtain ⟨-, htake, hroom⟩ := hgot x s' hread
    have hrun := writeFrom_taken s'.user hup' hlen.2
    have hreturns := (h.reported x s' hread _ _ hrun).mpr (by rw [htake])
    have hall := ((sat_writeFrom (F := fun _ _ => True) hup' (by omega)).reaches hrun).2.mp hreturns
    exact hroom.symm.trans hall.2
  · intro hroom
    refine ⟨fun x s' hread => ?_, fun x s' _ c => asks_writeFrom_iff hup' hlen.2, ?_⟩
    · obtain ⟨hx, htake, -⟩ := hgot x s' hread
      exact ⟨hx, htake⟩
    · intro x s' hread y t' hrun
      obtain ⟨-, htake, hroom'⟩ := hgot x s' hread
      have hreported := ((sat_writeFrom (F := fun _ _ => True) hup' (by omega)).reaches hrun).2
      rw [hreported, htake]
      exact and_iff_left (hroom'.trans hroom)

end

/-- The object of a reader, before anything is sent. -/
def senderOf (s : Reader) : Sender := ⟨s.cfg, []⟩

/-- A buffer of the size of the frame. -/
theorem relays_exact :
    Relays [1, 2, 3] [0, 0, 0] (servingReader [some [1, 2, 3]])
      (senderOf (servingReader [some [1, 2, 3]])) :=
  (relays_iff [1, 2, 3] [0, 0, 0] _ _ (servingReader_begun _).range rfl rfl (by decide) (by decide)
    (.ready rfl rfl rfl)).mpr rfl

/-- A buffer with room for one byte more: the device takes all of the frame, and
`WriteFrom` reports an incomplete write. -/
theorem relays_not_larger :
    ¬ Relays [1, 2, 3] [0, 0, 0, 0] (servingReader [some [1, 2, 3]])
        (senderOf (servingReader [some [1, 2, 3]])) ∧
      ∃ x s', ReadsTo (servingReader [some [1, 2, 3]]) [0, 0, 0, 0] [1, 2, 3] x s' ∧
        s'.user = [1, 2, 3, 0] ∧
        Reaches sendEnv (writeFrom s'.user 3, senderOf (servingReader [some [1, 2, 3]]))
          (.ret (.error (.io "Incomplete write when writing frame")),
            { senderOf (servingReader [some [1, 2, 3]]) with sent := [[1, 2, 3]] }) := by
  have hdelivers : Delivers (servingReader [some [1, 2, 3]]) [1, 2, 3] := .ready rfl rfl rfl
  have hrange := (servingReader_begun [some [1, 2, 3]]).range
  obtain ⟨x, s', hread⟩ :=
    hdelivers.readsTo [0, 0, 0, 0] hrange rfl (by decide) (by decide)
  obtain ⟨-, huser⟩ := hread.returned hrange rfl (by decide) (by decide)
  replace huser : s'.user = [1, 2, 3, 0] := huser
  have hwrite : Reaches sendEnv
      (writeFrom s'.user (3 : Nat), senderOf (servingReader [some [1, 2, 3]]))
      (.ret (.error (.io "Incomplete write when writing frame")),
        { senderOf (servingReader [some [1, 2, 3]]) with sent := [[1, 2, 3]] }) := by
    rw [huser]
    exact writeFrom_taken [1, 2, 3, 0] rfl (by decide)
  refine ⟨fun h => ?_, x, s', hread, huser, hwrite⟩
  have hreturns := (h.reported x s' hread _ _ hwrite).mpr rfl
  cases hreturns

end TapCfg.Bindings
