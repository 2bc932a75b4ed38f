/-
  Unix/Reading.lean --- `tapcfg_wait_readable` and `tapcfg_read` on Unix, and
  the frame the library holds between two reads.

  Source: src/lib/tapcfg_unix.c, lines 43-56 and 169-233.

  A read of the device gives one frame, nothing, or an error; `ready` is what it
  gives without waiting.  The frame goes to `buffer`, and from there to the
  caller, whose memory from `buf` on is `user`.

      sat_tapcfgRead       what one call does with the frame at hand
      reading_accounts     what any number of them do
-/
import TapCfg.Foundation.Delivery
import TapCfg.Foundation.Memory
import TapCfg.Unix.Device

set_option autoImplicit false

namespace TapCfg.Unix

open TapCfg.Foundation
open Prog hiding ret

/-- `TAPCFG_BUFSIZE` -/
def tapcfgBufsize : Nat := 4096

/-- What a read of the device comes to: a frame, nothing (the empty frame), or an error. -/
abbrev Outcome : Type := Option (List Byte)

/-- The device object with its frame buffer, the memory of the caller, and the device. -/
structure Reader where
  cfg : Tapcfg
  buffer : List Byte
  buflen : Int
  /-- what the backend has done -/
  hist : List Event
  /-- the memory of the caller from `buf` on -/
  user : List Byte
  /-- the descriptor of the device that was opened last -/
  device : Int
  /-- what the device gives without waiting -/
  ready : List Outcome
  log : List (Move Byte)

/-! ## System calls -/

inductive ReadCall where
  | read (fd : Int) (n : Nat)
  /-- `select` on the one descriptor -/
  | select (fd : Int) (sec usec : Int)
  deriving DecidableEq, Repr

/-- What `select` leaves: its result, and `FD_ISSET`. -/
structure Selected where
  ret : Int
  isset : Bool
  deriving DecidableEq, Repr

/-- The descriptor is reported readable. -/
def Selected.readable (a : Selected) : Bool := decide (a.ret ≠ -1) && a.isset

def ReadCall.Ans : ReadCall → Type
  | .read _ _ => Outcome
  | .select _ _ _ => Selected

/-- What is taken over from the device. -/
def tookMoves : Outcome → List (Move Byte)
  | some f => [.took f]
  | none => []

/-- A `read` of at most `n` bytes. -/
inductive DeviceReads (s : Reader) (fd : Int) (n : Nat) : Outcome → Reader → Prop where
  | ready {o : Outcome} {rest : List Outcome} (hfd : fd = s.device) (h : s.ready = o :: rest) :
      DeviceReads s fd n (o.map (·.take n))
        { s with ready := rest, log := s.log ++ tookMoves (o.map (·.take n)) }
  | arriving (o : Outcome) (hfd : fd = s.device) (h : s.ready = []) :
      DeviceReads s fd n (o.map (·.take n))
        { s with log := s.log ++ .blocked :: tookMoves (o.map (·.take n)) }
  | closed (hfd : fd ≠ s.device) : DeviceReads s fd n none s

/-- A `select`: a descriptor it reports readable can be read without waiting. -/
inductive DeviceSelects (s : Reader) (fd : Int) (a : Selected) : Reader → Prop where
  | intro (arrived : List Outcome)
      (h : a.readable = true → fd = s.device ∧ s.ready ++ arrived ≠ []) :
      DeviceSelects s fd a
        { s with ready := s.ready ++ arrived, log := s.log ++ [.polled a.readable] }

/-- The operating system. -/
def deviceEnv : Env Reader ReadCall ReadCall.Ans := fun s c =>
  match c with
  | .read fd n => DeviceReads s fd n
  | .select fd _ _ => DeviceSelects s fd

/-- The memory of the caller is left. -/
inductive ReadFault where
  | overrun
  deriving DecidableEq, Repr

abbrev ReadIo (α : Type) : Type := Prog Reader ReadCall ReadCall.Ans ReadFault α

def read (fd : Int) (n : Nat) : ReadIo Outcome := .call (.read fd n) .ret

def select (fd sec usec : Int) : ReadIo Selected := .call (.select fd sec usec) .ret

/-! ## The program -/

/-- `tapcfg_wait_readable` -/
def tapcfgWaitReadable (msec : Int) : ReadIo Int := do
  let s ← load
  if s.cfg.started = false then return 0
  let a ← select s.cfg.tapFd (msec.tdiv 1000) (msec.tmod 1000 * 1000)
  -- Error selecting, no data available
  if a.ret = -1 then return 0
  return if a.isset then 1 else 0

/-- What `read` returns. -/
def readRet : Outcome → Int
  | some f => f.length
  | none => -1

/-- The first part of `tapcfg_read`, which gets a frame unless there is one; `some`
is its early `return`. -/
def fillBuffer : ReadIo (Option Int) := do
  let s ← load
  if s.buflen ≠ 0 then return none
  let o ← read s.cfg.tapFd tapcfgBufsize
  if readRet o ≤ 0 then return some (readRet o)
  update fun s => .ok { s with buffer := splice s.buffer 0 (o.getD []), buflen := readRet o }
  return none

/-- The second part, which hands the frame to the caller. -/
def deliverFrame (count : Int) : ReadIo Int := do
  let s ← load
  if count < s.buflen then return -1
  let ret := s.buflen
  update fun s =>
    match memcpy s.user s.buffer s.buflen with
    | some user => .ok { s with user := user }
    | none => .error .overrun
  update fun s => .ok { s with buflen := 0 }
  return ret

/-- `tapcfg_read` -/
def tapcfgRead (count : Int) : ReadIo Int := do
  let s ← load
  if s.cfg.started = false then return -1
  let early ← fillBuffer
  match early with
  | some ret => return ret
  | none => deliverFrame count

/-! ## The frame held -/

/-- The frame the library holds. -/
def Reader.held (s : Reader) : List (List Byte) :=
  if s.buflen = 0 then [] else [s.buffer.take s.buflen.toNat]

/-- The buffer is as long as declared, and `buflen` within it. -/
structure Reader.InRange (s : Reader) : Prop where
  size : s.buffer.length = tapcfgBufsize
  nonneg : 0 ≤ s.buflen
  le : s.buflen ≤ tapcfgBufsize

/-- What the reading functions leave alone. -/
structure Same (s s' : Reader) : Prop where
  cfg : s'.cfg = s.cfg
  hist : s'.hist = s.hist
  device : s'.device = s.device

theorem Same.refl (s : Reader) : Same s s := ⟨rfl, rfl, rfl⟩

theorem Same.trans {s₁ s₂ s₃ : Reader} (h : Same s₁ s₂) (h' : Same s₂ s₃) : Same s₁ s₃ :=
  ⟨h'.cfg.trans h.cfg, h'.hist.trans h.hist, h'.device.trans h.device⟩

/-- The library holds the frame `f`. -/
structure Holding (f : List Byte) (s : Reader) : Prop where
  range : s.InRange
  nonempty : f ≠ []
  len : s.buflen = f.length
  bytes : s.buffer.take f.length = f

theorem Holding.held {f : List Byte} {s : Reader} (h : Holding f s) : s.held = [f] := by
  have hlen : s.buflen ≠ 0 := by
    have hpos := List.length_pos_iff.mpr h.nonempty
    rw [h.len]
    omega
  rw [Reader.held, if_neg hlen, h.len, Int.toNat_natCast, h.bytes]

/-- A length other than 0 is that of the frame held. -/
theorem Reader.InRange.holding {s : Reader} (h : s.InRange) (hlen : s.buflen ≠ 0) :
    Holding (s.buffer.take s.buflen.toNat) s := by
  have hnonneg := h.nonneg
  have hle := h.le
  have htake : (s.buffer.take s.buflen.toNat).length = s.buflen.toNat := by
    rw [List.length_take, h.size]
    omega
  refine ⟨h, fun hnil => ?_, by omega, by rw [htake]⟩
  rw [hnil] at htake
  simp only [List.length_nil] at htake
  omega

theorem memcpy_frame {f : List Byte} {s : Reader} (h : Holding f s)
    (huser : f.length ≤ s.user.length) :
    memcpy s.user s.buffer s.buflen = some (f ++ s.user.drop f.length) := by
  have hsize := h.range.size
  have hle := h.range.le
  have hlen := h.len
  unfold memcpy
  rw [if_pos ⟨by omega, by omega, by omega⟩, h.len, Int.toNat_natCast, h.bytes]

/-! ## One call -/

/-- The moves of a reading function: nothing is opened, and the device is not waited for
when it has something ready or a frame is held. -/
structure ReadMoves (s : Reader) (τ : List (Move Byte)) : Prop where
  opened : ∀ e ∈ τ, e.isOpened = false
  blocked : s.ready ≠ [] ∨ s.buflen ≠ 0 → .blocked ∉ τ

theorem ReadMoves.nil (s : Reader) : ReadMoves s [] := ⟨by simp, fun _ => by simp⟩

/-- What `fillBuffer` leaves: its early return, or a frame at hand. -/
structure Filled (s : Reader) (early : Option Int) (s' : Reader) : Prop where
  same : Same s s'
  user : s'.user = s.user
  moves : ∃ τ, s'.log = s.log ++ τ ∧ given τ = [] ∧ ReadMoves s τ ∧
    ((∃ ret, early = some ret ∧ ret ≤ 0 ∧ s.held ++ taken τ = [] ∧ s'.held = [] ∧ s'.InRange) ∨
      (early = none ∧ ∃ f, s.held ++ taken τ = [f] ∧ Holding f s'))

section

variable {s s' : Reader}

/-- What a read of the device does. -/
theorem DeviceReads.cases {fd : Int} {n : Nat} {o : Outcome} (hempty : s.buflen = 0)
    (h : DeviceReads s fd n o s') :
    (∀ f, o = some f → f.length ≤ n) ∧
      ∃ τ rest, s' = { s with ready := rest, log := s.log ++ τ } ∧ given τ = [] ∧
        ReadMoves s τ ∧ taken τ = taken (tookMoves o) := by
  have htake : ∀ o : Outcome, ∀ f, o.map (·.take n) = some f → f.length ≤ n := by
    intro o f hf
    obtain ⟨g, -, rfl⟩ := Option.map_eq_some_iff.mp hf
    exact List.length_take_le n g
  have hgiven : ∀ o : Outcome, given (tookMoves o) = [] := fun o => by cases o <;> rfl
  have hquiet : ∀ o : Outcome, ReadMoves s (tookMoves o) := by
    intro o
    cases o with
    | none => exact .nil s
    | some f => exact ⟨by simp [tookMoves, Move.isOpened], fun _ => by simp [tookMoves]⟩
  cases h with
  | @ready o rest hfd hready =>
      exact ⟨htake o, _, rest, rfl, hgiven _, hquiet _, rfl⟩
  | arriving o hfd h =>
      refine ⟨htake o, _, s.ready, rfl, ?_, ?_, ?_⟩
      · rw [given_cons, hgiven]
        rfl
      · refine ⟨fun e he => ?_, fun hsome => ?_⟩
        · rcases List.mem_cons.mp he with rfl | he
          · rfl
          · exact (hquiet _).opened e he
        · rcases hsome with hne | hne
          · exact absurd h hne
          · exact absurd hempty hne
      · rw [taken_cons]
        rfl
  | closed hfd =>
      refine ⟨fun f hf => (by cases hf), [], s.ready, ?_, rfl, .nil s, rfl⟩
      simp

theorem sat_read {fd : Int} {n : Nat} {Q : Outcome → Reader → Prop} {F : ReadFault → Reader → Prop}
    (hQ : ∀ o s', DeviceReads s fd n o s' → Q o s') :
    Sat deviceEnv (fun _ => True) Q F (read fd n) s :=
  ⟨trivial, fun o s' h => ⟨trivial, hQ o s' h⟩⟩

theorem sat_select {fd sec usec : Int} {Q : Selected → Reader → Prop}
    {F : ReadFault → Reader → Prop} (hQ : ∀ a s', DeviceSelects s fd a s' → Q a s') :
    Sat deviceEnv (fun _ => True) Q F (select fd sec usec) s :=
  ⟨trivial, fun a s' h => ⟨trivial, hQ a s' h⟩⟩

theorem sat_fillBuffer (hs : s.InRange) :
    Sat deviceEnv (fun _ => True) (Filled s) (fun _ _ => False) fillBuffer s := by
  unfold fillBuffer
  refine sat_bind (sat_load trivial ?_)
  by_cases hlen : s.buflen = 0
  · rw [if_neg (not_not_intro hlen)]
    have hnone : s.held = [] := if_pos hlen
    refine sat_bind (sat_read fun o s₁ hread => ?_)
    obtain ⟨hfit, τ, rest, rfl, hgiven, hquiet, htaken⟩ := hread.cases hlen
    by_cases hret : readRet o ≤ 0
    · have hempty : taken (tookMoves o) = [] := by
        cases o with
        | none => rfl
        | some f =>
            have hf : f = [] := List.length_eq_zero_iff.mp (by simp only [readRet] at hret; omega)
            rw [hf]
            rfl
      rw [if_pos hret]
      refine sat_ret trivial ⟨⟨rfl, rfl, rfl⟩, rfl, τ, rfl, hgiven, hquiet, .inl ?_⟩
      exact ⟨readRet o, rfl, hret, by rw [hnone, htaken, hempty]; rfl, hnone, ⟨hs.1, hs.2, hs.3⟩⟩
    · cases o with
      | none => exact absurd (show readRet none ≤ 0 by decide) hret
      | some f =>
          have hpos : 0 < f.length := by simp only [readRet] at hret; omega
          have hf : f ≠ [] := List.length_pos_iff.mp hpos
          have hfit' : f.length ≤ tapcfgBufsize := hfit f rfl
          have hsplice : 0 + f.length ≤ s.buffer.length := by rw [hs.size]; omega
          rw [if_neg hret]
          refine sat_bind (sat_update rfl trivial trivial (sat_ret trivial ?_))
          refine ⟨⟨rfl, rfl, rfl⟩, rfl, τ, rfl, hgiven, hquiet, .inr ⟨rfl, f, ?_, ?_⟩⟩
          · rw [hnone, htaken, tookMoves, taken_cons]
            simp [Move.tookItem, nonEmpty_toList hf]
          · refine ⟨⟨?_, ?_, ?_⟩, hf, rfl, ?_⟩
            · exact (splice_length hsplice).trans hs.size
            · exact Int.natCast_nonneg _
            · exact Int.ofNat_le.mpr hfit'
            · simp [splice]
  · rw [if_pos hlen]
    have hheld := hs.holding hlen
    refine sat_ret trivial ⟨.refl s, rfl, [], by simp, rfl, .nil s, .inr ⟨rfl, _, ?_, hheld⟩⟩
    rw [hheld.held]
    rfl

theorem sat_deliverFrame {f : List Byte} (count : Int) (hs : Holding f s)
    (huser : count ≤ s.user.length) :
    Sat deviceEnv (fun _ => True)
      (fun r s' => Same s s' ∧ s'.InRange ∧ s'.log = s.log ∧
        ∃ handed, CallEnds count s.user [f] r s'.user handed s'.held)
      (fun _ _ => False) (deliverFrame count) s := by
  unfold deliverFrame
  refine sat_bind (sat_load trivial ?_)
  have hlen := hs.len
  by_cases hcount : count < s.buflen
  · rw [if_pos hcount]
    refine sat_ret trivial ⟨.refl s, hs.range, rfl, [], ?_⟩
    rw [hs.held]
    exact .tooSmall hs.nonempty (by omega)
  · rw [if_neg hcount]
    have hcopy := memcpy_frame hs (by omega)
    refine sat_bind (sat_update (by rw [hcopy]) trivial trivial ?_)
    refine sat_bind (sat_update rfl trivial trivial (sat_ret trivial ?_))
    refine ⟨⟨rfl, rfl, rfl⟩, ⟨hs.range.size, Int.le_refl 0, Int.natCast_nonneg _⟩, rfl, [f], ?_⟩
    rw [hlen]
    exact .handed hs.nonempty (by omega)

/-- What one call of `tapcfg_read` does. -/
structure Reads (count : Int) (s : Reader) (r : Int) (s' : Reader) : Prop where
  same : Same s s'
  range : s'.InRange
  moves : ∃ τ, s'.log = s.log ++ τ ∧ given τ = [] ∧ ReadMoves s τ ∧
    ∃ handed, CallEnds count s.user (s.held ++ taken τ) r s'.user handed s'.held

theorem sat_tapcfgRead (count : Int) (hs : s.InRange) (hstarted : s.cfg.started = true)
    (huser : count ≤ s.user.length) :
    Sat deviceEnv (fun _ => True) (Reads count s) (fun _ _ => False) (tapcfgRead count) s := by
  unfold tapcfgRead
  refine sat_bind (sat_load trivial ?_)
  rw [if_neg (by simp [hstarted])]
  refine sat_seq (sat_fillBuffer hs) fun early s₁ hfill => ?_
  obtain ⟨τ, hlog, hgiven, hquiet, ⟨ret, rfl, hret, hhand, hheld, hrange⟩ | ⟨rfl, f, hhand, hf⟩⟩ :=
    hfill.moves
  · refine sat_ret trivial ⟨hfill.same, hrange, τ, hlog, hgiven, hquiet, [], ?_⟩
    rw [hhand, hheld, hfill.user]
    exact .nothing hret
  · have huser₁ : count ≤ s₁.user.length := by rw [hfill.user]; exact huser
    refine (sat_deliverFrame count hf huser₁).post fun r s' => ?_
    rintro ⟨hsame, hrange, hlog', handed, hends⟩
    refine ⟨hfill.same.trans hsame, hrange, τ, by rw [hlog', hlog], hgiven, hquiet, handed, ?_⟩
    rw [hhand, ← hfill.user]
    exact hends

/-- A device that is not started is not read. -/
theorem sat_tapcfgRead_idle (count : Int) (hidle : s.cfg.started = false) :
    Sat deviceEnv (fun _ => True) (fun r s' => r = -1 ∧ s' = s) (fun _ _ => False)
      (tapcfgRead count) s := by
  unfold tapcfgRead
  refine sat_bind (sat_load trivial ?_)
  rw [if_pos hidle]
  exact sat_ret trivial ⟨rfl, rfl⟩

/-- A device that is not started is not waited for. -/
theorem sat_tapcfgWaitReadable_idle (msec : Int) (hidle : s.cfg.started = false) :
    Sat deviceEnv (fun _ => True) (fun r s' => r = 0 ∧ s' = s) (fun _ _ => False)
      (tapcfgWaitReadable msec) s := by
  unfold tapcfgWaitReadable
  refine sat_bind (sat_load trivial ?_)
  rw [if_pos hidle]
  exact sat_ret trivial ⟨rfl, rfl⟩

/-- Waiting takes nothing over. -/
structure Waits (s : Reader) (s' : Reader) : Prop where
  same : Same s s'
  buffer : s'.buffer = s.buffer
  buflen : s'.buflen = s.buflen

/-- What one call of `tapcfg_wait_readable` does. -/
theorem sat_tapcfgWaitReadable (msec : Int) (hstarted : s.cfg.started = true) :
    Sat deviceEnv (fun _ => True)
      (fun r s' => Waits s s' ∧ ∃ a : Selected, s'.log = s.log ++ [.polled a.readable] ∧
        r = (if a.readable then 1 else 0) ∧
        (a.readable = true → s.cfg.tapFd = s.device ∧ s'.ready ≠ []))
      (fun _ _ => False) (tapcfgWaitReadable msec) s := by
  unfold tapcfgWaitReadable
  refine sat_bind (sat_load trivial ?_)
  rw [if_neg (by simp [hstarted])]
  refine sat_bind (sat_select ?_)
  rintro a s₁ ⟨arrived, hready⟩
  have hwaits : Waits s { s with
      ready := s.ready ++ arrived, log := s.log ++ [.polled a.readable] } :=
    ⟨⟨rfl, rfl, rfl⟩, rfl, rfl⟩
  by_cases hret : a.ret = -1
  · have hnone : a.readable = false := by simp [Selected.readable, hret]
    rw [if_pos hret]
    exact sat_ret trivial ⟨hwaits, a, rfl, by rw [hnone]; rfl, hready⟩
  · have hset : a.readable = a.isset := by simp [Selected.readable, hret]
    rw [if_neg hret]
    exact sat_ret trivial ⟨hwaits, a, rfl, by rw [hset], hready⟩

end

/-! ## One session -/

/-- A call of a reading function, by a caller with memory `user` from `buf` on, or
something that becomes ready. -/
inductive ReadAct where
  | wait (msec : Int)
  | read (count : Int) (user : List Byte)
  | arrive (arrived : List Outcome)

/-- One of these, with what it returns.  The caller has room for `count` bytes. -/
inductive ReadStep : Reader → ReadAct → Int → Reader → Prop where
  | wait {s s' : Reader} {msec r : Int}
      (hr : Reaches deviceEnv (tapcfgWaitReadable msec, s) (.ret r, s')) :
      ReadStep s (.wait msec) r s'
  | read {s s' : Reader} {count r : Int} {user : List Byte} (huser : count ≤ user.length)
      (hr : Reaches deviceEnv (tapcfgRead count, { s with user := user }) (.ret r, s')) :
      ReadStep s (.read count user) r { s' with log := s'.log ++ handedMoves r s'.user }
  | arrive {s : Reader} {arrived : List Outcome} :
      ReadStep s (.arrive arrived) 0 { s with ready := s.ready ++ arrived }

/-- Some of these. -/
def ReadSteps (s s' : Reader) : Prop := ∃ a r, ReadStep s a r s'

section

variable {s₀ s s' : Reader}

theorem Reader.InRange.of_eq (hs : s.InRange) (hbuffer : s'.buffer = s.buffer)
    (hbuflen : s'.buflen = s.buflen) : s'.InRange :=
  ⟨hbuffer ▸ hs.size, hbuflen ▸ hs.nonneg, hbuflen ▸ hs.le⟩

theorem Reader.held_of_eq (hbuffer : s'.buffer = s.buffer) (hbuflen : s'.buflen = s.buflen) :
    s'.held = s.held := by
  unfold Reader.held
  rw [hbuffer, hbuflen]

/-- A call of `tapcfg_read` on a started device. -/
theorem ReadStep.read_ends {count r : Int} {user : List Byte} (hs : s.InRange)
    (hstarted : s.cfg.started = true) (h : ReadStep s (.read count user) r s') :
    Same s s' ∧ s'.InRange ∧ ∃ τ, s'.log = s.log ++ τ ∧ ReadMoves s τ ∧
      CallEnds count user (s.held ++ taken τ) r s'.user (given τ) s'.held := by
  cases h with
  | read huser hr =>
      rename_i s₁
      have hsat := sat_tapcfgRead (s := { s with user := user }) count ⟨hs.1, hs.2, hs.3⟩
        hstarted huser
      have hreads : Reads count { s with user := user } r s₁ := (hsat.reaches hr).2
      obtain ⟨τ, hlog, hgiven, hquiet, handed, hends⟩ := hreads.moves
      have hquiet' : ReadMoves s (handedMoves r s₁.user) := by
        unfold handedMoves
        split
        · exact ⟨by simp [Move.isOpened], fun _ => by simp⟩
        · exact .nil s
      refine ⟨⟨hreads.same.1, hreads.same.2, hreads.same.3⟩,
        ⟨hreads.range.1, hreads.range.2, hreads.range.3⟩, τ ++ handedMoves r s₁.user, ?_, ?_, ?_⟩
      · show s₁.log ++ _ = _
        rw [hlog, List.append_assoc]
      · refine ⟨fun e he => ?_, fun hsome he => ?_⟩
        · rcases List.mem_append.mp he with he | he
          · exact hquiet.opened e he
          · exact hquiet'.opened e he
        · rcases List.mem_append.mp he with he | he
          · exact hquiet.blocked hsome he
          · exact hquiet'.blocked hsome he
      · rw [taken_append, given_append, hgiven, taken_handedMoves, List.append_nil,
          hends.given_handedMoves]
        exact hends

/-- A call on a device that is not started. -/
theorem ReadStep.read_idle {count r : Int} {user : List Byte} (hidle : s.cfg.started = false)
    (h : ReadStep s (.read count user) r s') : r = -1 ∧ s' = { s with user := user } := by
  cases h with
  | read huser hr =>
      have hsat := sat_tapcfgRead_idle (s := { s with user := user }) count hidle
      obtain ⟨rfl, rfl⟩ := (hsat.reaches hr).2
      refine ⟨rfl, ?_⟩
      simp [handedMoves]

theorem ReadStep.wait_idle {msec r : Int} (hidle : s.cfg.started = false)
    (h : ReadStep s (.wait msec) r s') : r = 0 ∧ s' = s := by
  cases h with
  | wait hr => exact ((sat_tapcfgWaitReadable_idle msec hidle).reaches hr).2

/-- A call of `tapcfg_wait_readable` on a started device. -/
theorem ReadStep.wait_polls {msec r : Int} (hstarted : s.cfg.started = true)
    (h : ReadStep s (.wait msec) r s') :
    Waits s s' ∧ ∃ ready, s'.log = s.log ++ [.polled ready] ∧ r = (if ready then 1 else 0) ∧
      (ready = true → s.cfg.tapFd = s.device ∧ s'.ready ≠ []) := by
  cases h with
  | wait hr =>
      obtain ⟨hwaits, a, hlog, hr', hready⟩ :=
        ((sat_tapcfgWaitReadable msec hstarted).reaches hr).2
      exact ⟨hwaits, a.readable, hlog, hr', hready⟩

/-- The session of a device begins: nothing is logged of it. -/
structure Begun (s : Reader) : Prop where
  started : s.cfg.started = true
  range : s.InRange
  log : s.log = []

/-- What holds between two calls of a session. -/
structure InSession (s₀ s : Reader) : Prop where
  started : s.cfg.started = true
  range : s.InRange
  accounts : Accounts s₀.held s.held s.log

theorem InSession.step {a : ReadAct} {r : Int} (hs : InSession s₀ s) (h : ReadStep s a r s') :
    InSession s₀ s' := by
  cases a with
  | wait msec =>
      obtain ⟨hwaits, ready, hlog, -, -⟩ := h.wait_polls hs.started
      refine ⟨by rw [hwaits.same.cfg]; exact hs.started,
        hs.range.of_eq hwaits.buffer hwaits.buflen, ?_⟩
      rw [hlog, Reader.held_of_eq hwaits.buffer hwaits.buflen]
      exact hs.accounts.append (by simp [taken_cons, given_cons, Move.tookItem, Move.gaveItem])
  | read count user =>
      obtain ⟨hsame, hrange, τ, hlog, -, hends⟩ := h.read_ends hs.range hs.started
      refine ⟨by rw [hsame.cfg]; exact hs.started, hrange, ?_⟩
      rw [hlog]
      exact hs.accounts.append hends.split
  | arrive arrived =>
      cases h
      exact ⟨hs.started, hs.range.of_eq rfl rfl, hs.accounts⟩

/-- In a session of reads and waits: the frames handed to the caller are, in order,
the frame the session began with, if there was one, and then those the device has
delivered, but for the last one, which is then held.  A call leaves the memory of its
caller alone unless it hands a frame over, and then it writes just that frame. -/
theorem reading_accounts (h₀ : Begun s₀) (h : Runs (· = s₀) ReadSteps s) :
    s.InRange ∧ Accounts s₀.held s.held s.log ∧
      (s₀.buflen = 0 → taken s.log = given s.log ++ s.held) ∧
      ∀ (count : Int) (user : List Byte), count ≤ user.length →
        (∀ r s', ReadStep s (.read count user) r s' → ∃ τ, s'.log = s.log ++ τ ∧
          CallEnds count user (s.held ++ taken τ) r s'.user (given τ) s'.held) ∧
        ∀ e s', ¬ Reaches deviceEnv (tapcfgRead count, { s with user := user }) (.fault e, s') := by
  have hs : InSession s₀ s := by
    refine h.invariant (I := InSession s₀) (fun s hs => ?_) fun s s' hs ⟨a, r, hstep⟩ => ?_
    · subst hs
      refine ⟨h₀.started, h₀.range, ?_⟩
      rw [h₀.log]
      exact .start _
    · exact hs.step hstep
  refine ⟨hs.range, hs.accounts, fun hempty => ?_, fun count user huser => ⟨?_, ?_⟩⟩
  · have hnone : s₀.held = [] := if_pos hempty
    have haccounts := hs.accounts
    rw [hnone] at haccounts
    exact haccounts
  · intro r s' hstep
    obtain ⟨-, -, τ, hlog, -, hends⟩ := hstep.read_ends hs.range hs.started
    exact ⟨τ, hlog, hends⟩
  · intro e s' hfault
    exact ((sat_tapcfgRead (s := { s with user := user }) count ⟨hs.range.1, hs.range.2, hs.range.3⟩
      hs.started huser).reaches hfault).2

end

/-! ## Runs against a device that gives what is ready -/

/-- A read of a device that gives what is ready, and fails when it would have to wait. -/
def servingRead (s : Reader) (fd : Int) (n : Nat) : Outcome × Reader :=
  if fd = s.device then
    match s.ready with
    | o :: rest =>
        let o := o.map (·.take n)
        (o, { s with ready := rest, log := s.log ++ tookMoves o })
    | [] => (none, { s with log := s.log ++ [.blocked] })
  else (none, s)

/-- Its descriptor is readable just when something is ready. -/
def servingSelect (s : Reader) (fd : Int) : Selected × Reader :=
  let a : Selected := { ret := 1, isset := decide (fd = s.device) && !s.ready.isEmpty }
  (a, { s with log := s.log ++ [.polled a.readable] })

def serving : Responder Reader ReadCall ReadCall.Ans := fun s c =>
  match c with
  | .read fd n => servingRead s fd n
  | .select fd _ _ => servingSelect s fd

theorem servingRead_reads (s : Reader) (fd : Int) (n : Nat) :
    DeviceReads s fd n (servingRead s fd n).1 (servingRead s fd n).2 := by
  unfold servingRead
  by_cases hfd : fd = s.device
  · rw [if_pos hfd]
    split
    · exact .ready hfd ‹_›
    · exact .arriving none hfd ‹_›
  · rw [if_neg hfd]
    exact .closed hfd

theorem servingSelect_selects (s : Reader) (fd : Int) :
    DeviceSelects s fd (servingSelect s fd).1 (servingSelect s fd).2 := by
  have hselects : DeviceSelects s fd (servingSelect s fd).1 { s with
      ready := s.ready ++ [], log := s.log ++ [.polled (servingSelect s fd).1.readable] } :=
    .intro [] fun h => by simpa [servingSelect, Selected.readable] using h
  rw [List.append_nil] at hselects
  exact hselects

theorem serving_follows : Follows serving deviceEnv := by
  intro s c
  cases c with
  | read fd n => exact servingRead_reads s fd n
  | select fd sec usec => exact servingSelect_selects s fd

/-- A started device on descriptor 3 with some frames ready. -/
def servingReader (ready : List Outcome) : Reader where
  cfg := { tapcfgInit with started := true, tapFd := 3, ctrlFd := 4 }
  buffer := List.replicate tapcfgBufsize 0
  buflen := 0
  hist := []
  user := []
  device := 3
  ready := ready
  log := []

theorem servingReader_begun (ready : List Outcome) : Begun (servingReader ready) :=
  ⟨rfl, ⟨List.length_replicate, Int.le_refl 0, Int.natCast_nonneg _⟩, rfl⟩

/-- The state after a call of `tapcfg_read` that returns `r`. -/
def afterRead (count : Int) (user : List Byte) (r : Int) (s : Reader) : Reader :=
  let s' := ((tapcfgRead count).run serving { s with user := user }).2
  { s' with log := s'.log ++ handedMoves r s'.user }

theorem afterRead_step {count r : Int} {user : List Byte} {s : Reader} (huser : count ≤ user.length)
    (hrun : ((tapcfgRead count).run serving { s with user := user }).1 = .ok r) :
    ReadStep s (.read count user) r (afterRead count user r s) :=
  .read huser (reaches_run serving_follows (Prod.ext hrun rfl))

/-- A frame of three bytes, first asked for with room for two. -/
theorem reading_accounts_small :
    ∃ s : Reader, given s.log = [] ∧ s.held = [[1, 2, 3]] ∧ Accounts [] s.held s.log := by
  have hbegun := servingReader_begun [some [1, 2, 3]]
  have hread : ReadStep (servingReader [some [1, 2, 3]]) (.read 2 [0, 0]) (-1)
      (afterRead 2 [0, 0] (-1) (servingReader [some [1, 2, 3]])) :=
    afterRead_step (by decide) (by decide +kernel)
  have hstart : Runs (· = servingReader [some [1, 2, 3]]) ReadSteps
      (servingReader [some [1, 2, 3]]) := .start rfl
  have hruns := hstart.next ⟨_, _, hread⟩
  exact ⟨_, by decide +kernel, by decide +kernel, (reading_accounts hbegun hruns).2.1⟩

end TapCfg.Unix
