/-
  Windows/Writing.lean --- `tapcfg_wait_writable` and `tapcfg_write` on Windows.

  Source: src/lib/tapcfg_windows.c, lines 348-400.

  An overlapped write may be pending when `WriteFile` returns; `Ending` says what
  becomes of it.  `WriteFile` and `GetOverlappedResult` return zero when they
  fail, `WaitForSingleObject` returns zero when the event is set: the test that
  follows it takes a wait that has succeeded for one that has failed.
-/
import TapCfg.Windows.Types

set_option autoImplicit false

namespace TapCfg.Windows

open TapCfg.Foundation
open Prog hiding ret

/-- The device object, the last write that was asked for, and what the driver has done. -/
structure Writer where
  cfg : Tapcfg
  /-- the bytes that `WriteFile` was given -/
  request : List Byte
  /-- `overlapped_out`: how many of them the driver has taken, when the write is completed -/
  result : Option Nat
  /-- the frames the driver has taken -/
  taken : List (List Byte)
  deriving DecidableEq, Repr

/-! ## System calls -/

/-- What `WriteFile` answers. -/
inductive WriteFileAns where
  | done (len : Nat)
  | pending
  | failed
  deriving DecidableEq, Repr

inductive WriteCall where
  | writeFile (h : Int) (buf : List Byte) (n : Nat)
  | waitForSingleObject (timeout : Nat)
  | getOverlappedResult (h : Int)
  deriving DecidableEq, Repr

def WriteCall.Ans : WriteCall → Type
  | .writeFile _ _ _ => WriteFileAns
  | .waitForSingleObject _ => Nat
  | .getOverlappedResult _ => Option Nat

/-- A function of the library; it has no fault. -/
abbrev WriteIo (α : Type) : Type := Prog Writer WriteCall WriteCall.Ans Empty α

def writeFile (h : Int) (buf : List Byte) (n : Nat) : WriteIo WriteFileAns :=
  .call (.writeFile h buf n) .ret

def waitForWritten (timeout : Nat) : WriteIo Nat := .call (.waitForSingleObject timeout) .ret

def getWriteResult (h : Int) : WriteIo (Option Nat) := .call (.getOverlappedResult h) .ret

/-- The conversion of a `DWORD` to an `int`. -/
def toInt (n : Nat) : Int := Int.bmod n 0x100000000

/-! ## The program -/

/-- `tapcfg_wait_writable` -/
def tapcfgWaitWritable (_msec : Int) : WriteIo Int := do
  let s ← load
  if s.cfg.started = false then return 0
  return 1

/-- The end of `tapcfg_write`: `len`, unless the last call has failed. -/
def wrote : Option Nat → Int
  | some len => toInt len
  | none => -1

/-- The part of `tapcfg_write` that follows `ERROR_IO_PENDING`. -/
def finishWrite (devHandle : Int) : WriteIo Int := do
  let retval ← waitForWritten infinite
  -- Error calling WaitForSingleObject
  if retval = 0 then return -1
  let len ← getWriteResult devHandle
  return wrote len

/-- `tapcfg_write` -/
def tapcfgWrite (buf : List Byte) (count : Int) : WriteIo Int := do
  let s ← load
  if s.cfg.started = false then return -1
  let answer ← writeFile s.cfg.devHandle buf (toDword count)
  match answer with
  | .done len => return wrote (some len)
  | .pending => finishWrite s.cfg.devHandle
  | .failed => return wrote none

/-! ## How a write ends -/

/-- How a write ends; `len` is how many bytes the driver takes, if there are as many. -/
inductive Ending where
  /-- `WriteFile` completes it -/
  | atOnce (len : Nat)
  /-- `WriteFile` fails -/
  | refused
  /-- it is pending, and completed while it is waited for -/
  | later (len : Nat)
  /-- it is pending, and fails while it is waited for -/
  | lost
  /-- it is pending, and the wait fails; it may have been completed by then -/
  | unwaited (code : Nat) (hcode : code ≠ 0) (len : Option Nat)

/-- A write is asked for. -/
def Writer.ask (s : Writer) (request : List Byte) : Writer :=
  { s with request := request, result := none }

/-- The driver takes the first `len` bytes. -/
def Writer.complete (s : Writer) (len : Nat) : Writer :=
  { s with
    result := some (s.request.take len).length
    taken := s.taken ++ [s.request.take len] }

/-- What `WriteFile` does. -/
def Ending.onWrite (s : Writer) : Ending → WriteFileAns × Writer
  | .atOnce len => (.done (s.request.take len).length, s.complete len)
  | .refused => (.failed, s)
  | _ => (.pending, s)

/-- What `WaitForSingleObject` does. -/
def Ending.onWait (s : Writer) : Ending → Nat × Writer
  | .later len => (0, s.complete len)
  | .unwaited code _ (some len) => (code, s.complete len)
  | .unwaited code _ none => (code, s)
  | _ => (0, s)

/-- A system on which a write ends so. -/
def ends (ending : Ending) : Responder Writer WriteCall WriteCall.Ans := fun s c =>
  match c with
  | .writeFile _ buf n => ending.onWrite (s.ask (buf.take n))
  | .waitForSingleObject _ => ending.onWait s
  | .getOverlappedResult _ => (s.result, s)

/-- What a call of `tapcfg_write` returns, and what it leaves. -/
def writing (ending : Ending) (buf : List Byte) (count : Int) (s : Writer) :
    Except Empty Int × Writer :=
  (tapcfgWrite buf count).run (ends ending) s

/-- The call reports what the driver has done: the number of bytes it has taken, or a
negative value when it has taken no frame. -/
def Reports (s : Writer) (after : Except Empty Int × Writer) : Prop :=
  ∃ r, after.1 = .ok r ∧ ((∃ bs, after.2.taken = s.taken ++ [bs] ∧ r = bs.length) ∨
    (after.2.taken = s.taken ∧ r < 0))

section

variable {s : Writer} {buf : List Byte} {count : Int}

/-- A length within the request is an `int`. -/
theorem toInt_length (hcount : 0 ≤ count) (hint : count ≤ 0x7fffffff) (len : Nat) :
    toInt ((buf.take (toDword count)).take len).length =
      ((buf.take (toDword count)).take len).length := by
  have hle : ((buf.take (toDword count)).take len).length ≤ toDword count := by
    rw [List.length_take, List.length_take]
    omega
  have hdword : (toDword count : Int) = count := by
    unfold toDword
    omega
  generalize ((buf.take (toDword count)).take len).length = n at hle ⊢
  unfold toInt
  rw [Int.bmod_def]
  split <;> omega

/-- A write the driver has taken and that is reported. -/
theorem Reports.completed (hcount : 0 ≤ count) (hint : count ≤ 0x7fffffff) {s' : Writer}
    {len : Nat} (htaken : s'.taken = s.taken ++ [(buf.take (toDword count)).take len]) :
    Reports s (.ok (toInt ((buf.take (toDword count)).take len).length), s') :=
  ⟨_, rfl, .inl ⟨_, htaken, toInt_length hcount hint len⟩⟩

/-- A write the driver has not taken. -/
theorem Reports.failed {s' : Writer} (htaken : s'.taken = s.taken) : Reports s (.ok (-1), s') :=
  ⟨-1, rfl, .inr ⟨htaken, by decide⟩⟩

/-- A write the driver has taken, and that is reported as failed. -/
theorem not_reports {s' : Writer} {bs : List Byte} (htaken : s'.taken = s.taken ++ [bs]) :
    ¬ Reports s (.ok (-1), s') := by
  rintro ⟨r, hr, ⟨bs', -, hlength⟩ | ⟨hsame, -⟩⟩
  · cases hr
    omega
  · have hnil : [bs] = [] := List.append_right_eq_self.mp (htaken.symm.trans hsame)
    cases hnil

theorem writing_idle {ending : Ending} (h : s.cfg.started = false) :
    writing ending buf count s = (.ok (-1), s) := by
  simp [writing, tapcfgWrite, load, Prog.bind, Prog.run, h]

theorem writing_started {ending : Ending} (h : s.cfg.started = true) :
    writing ending buf count s =
      let written := ending.onWrite (s.ask (buf.take (toDword count)))
      match written.1 with
      | .done len => (.ok (wrote (some len)), written.2)
      | .pending => (finishWrite s.cfg.devHandle).run (ends ending) written.2
      | .failed => (.ok (-1), written.2) := by
  simp only [writing, tapcfgWrite, load, writeFile, bind_eq_bind, Prog.bind, Prog.run, h]
  cases ending <;> rfl

/-- A wait that succeeds is taken for a failed one. -/
theorem finishWrite_signaled {ending : Ending} {devHandle : Int} (h : (ending.onWait s).1 = 0) :
    (finishWrite devHandle).run (ends ending) s = (.ok (-1), (ending.onWait s).2) := by
  simp [finishWrite, waitForWritten, Prog.bind, Prog.run, ends, h]

theorem finishWrite_unwaited {ending : Ending} {devHandle : Int} (h : ¬ (ending.onWait s).1 = 0) :
    (finishWrite devHandle).run (ends ending) s =
      (.ok (wrote (ending.onWait s).2.result), (ending.onWait s).2) := by
  simp [finishWrite, waitForWritten, getWriteResult, Prog.bind, Prog.run, ends, h]

/-- A write is reported as what it came to, in every way it may end, just when it is not
one that a started device completes while it is waited for. -/
theorem write_reported (ending : Ending) (buf : List Byte) (count : Int) (s : Writer)
    (hcount : 0 ≤ count) (hint : count ≤ 0x7fffffff) :
    Reports s (writing ending buf count s) ↔
      ¬ (s.cfg.started = true ∧ ∃ len, ending = .later len) := by
  cases hstarted : s.cfg.started with
  | false =>
      rw [writing_idle hstarted]
      exact iff_of_true (.failed rfl) fun h => by cases h.1
  | true =>
      rw [writing_started hstarted]
      cases ending with
      | atOnce len => exact iff_of_true (.completed hcount hint rfl) (by simp)
      | refused => exact iff_of_true (.failed rfl) (by simp)
      | lost =>
          dsimp only [Ending.onWrite]
          rw [finishWrite_signaled rfl]
          exact iff_of_true (.failed rfl) (by simp)
      | later len =>
          dsimp only [Ending.onWrite]
          rw [finishWrite_signaled rfl]
          exact iff_of_false (not_reports rfl) (by simp)
      | unwaited code hcode len =>
          dsimp only [Ending.onWrite]
          refine iff_of_true ?_ (by simp)
          cases len with
          | none =>
              rw [finishWrite_unwaited (by exact hcode)]
              exact .failed rfl
          | some len =>
              rw [finishWrite_unwaited (by exact hcode)]
              exact .completed hcount hint rfl

end

/-! ## A frame that is pending -/

/-- A started device. -/
def startedWriter : Writer where
  cfg := {
    started := true
    status := 0
    devHandle := 7
    ifname := none
    hwaddr := List.replicate 6 0
    reading := false
    inbuf := List.replicate tapcfgBufsize 0
    inbuflen := 0 }
  request := []
  result := none
  taken := []

/-- A frame the driver takes at once, and one that is completed after its wait has failed. -/
theorem write_reported_atOnce :
    Reports startedWriter (writing (.atOnce 14) (List.replicate 14 0) 14 startedWriter) ∧
      Reports startedWriter
        (writing (.unwaited 0xffffffff (by decide) (some 14)) (List.replicate 14 0) 14
          startedWriter) := by
  constructor
  · exact (write_reported (.atOnce 14) _ 14 startedWriter (by decide) (by decide)).mpr (by simp)
  · exact (write_reported (.unwaited 0xffffffff (by decide) (some 14)) _ 14 startedWriter
      (by decide) (by decide)).mpr (by simp)

/-- A frame is pending, the driver takes it while it is waited for, and the call fails. -/
theorem write_misreported :
    (writing (.later 14) (List.replicate 14 0) 14 startedWriter).1 = .ok (-1) ∧
      (writing (.later 14) (List.replicate 14 0) 14 startedWriter).2.taken =
        [List.replicate 14 0] ∧
      ¬ Reports startedWriter (writing (.later 14) (List.replicate 14 0) 14 startedWriter) := by
  have htaken : (writing (.later 14) (List.replicate 14 0) 14 startedWriter).2.taken =
      startedWriter.taken ++ [List.replicate 14 0] := by decide +kernel
  exact ⟨by decide +kernel, htaken, not_reports htaken⟩

end TapCfg.Windows
