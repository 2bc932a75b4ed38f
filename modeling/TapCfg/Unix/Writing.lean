/-
  Unix/Writing.lean --- `tapcfg_get_fd`, `tapcfg_wait_writable` and
  `tapcfg_write` on Unix.

  Source: src/lib/tapcfg_unix.c, lines 163-167 and 235-283.

  A frame goes to the device in one `write`, or fails.  The device may take a
  part of it: that is a failure too, although the part is sent.
-/
import TapCfg.Unix.Reading

set_option autoImplicit false

namespace TapCfg.Unix

open TapCfg.Foundation
open Prog hiding ret

/-- The device object, and what the device has taken. -/
structure Sender where
  cfg : Tapcfg
  sent : List (List Byte)

inductive SendCall where
  | select (fd : Int) (sec usec : Int)
  | write (fd : Int) (buf : List Byte) (n : Nat)
  deriving DecidableEq, Repr

def SendCall.Ans : SendCall → Type
  | .select _ _ _ => Selected
  | .write _ _ _ => Int

/-- A `write` of the first `n` bytes. -/
inductive DeviceWrites (s : Sender) (buf : List Byte) (n : Nat) : Int → Sender → Prop where
  | failed : DeviceWrites s buf n (-1) s
  | took (len : Nat) (hle : len ≤ n) :
      DeviceWrites s buf n len { s with sent := s.sent ++ [buf.take len] }

/-- The operating system. -/
def sendEnv : Env Sender SendCall SendCall.Ans := fun s c a s' =>
  match c with
  | .select _ _ _ => s' = s
  | .write _ buf n => DeviceWrites s buf n a s'

abbrev SendIo (α : Type) : Type := Prog Sender SendCall SendCall.Ans Empty α

def selectWritable (fd sec usec : Int) : SendIo Selected := .call (.select fd sec usec) .ret

def write (fd : Int) (buf : List Byte) (n : Nat) : SendIo Int := .call (.write fd buf n) .ret

/-- The conversion of an `int` to a `size_t`. -/
def toSize (n : Int) : Nat := (n % 0x10000000000000000).toNat

/-- `tapcfg_get_fd` -/
def tapcfgGetFd (cfg : Tapcfg) : Int := cfg.tapFd

/-- `tapcfg_wait_writable` -/
def tapcfgWaitWritable (msec : Int) : SendIo Int := do
  let s ← load
  if s.cfg.started = false then return 0
  let a ← selectWritable s.cfg.tapFd (msec.tdiv 1000) (msec.tmod 1000 * 1000)
  -- Error selecting, no data available
  if a.ret = -1 then return 0
  return if a.isset then 1 else 0

/-- `tapcfg_write` -/
def tapcfgWrite (buf : List Byte) (count : Int) : SendIo Int := do
  let s ← load
  if s.cfg.started = false then return -1
  let ret ← write s.cfg.tapFd buf (toSize count)
  -- Error trying to write data to TAP device
  if ret ≠ count then return -1
  return ret

/-- A write of the first `n` bytes fails, or returns `n`, which it does just when the
device has taken all of them. -/
theorem sat_tapcfgWrite {F : Empty → Sender → Prop} {buf : List Byte} {n : Nat} {s : Sender}
    (hup : s.cfg.started = true) (hn : n ≤ buf.length) :
    Sat sendEnv (fun _ => True)
      (fun (r : Int) s' => s'.cfg = s.cfg ∧ (r = -1 ∨ r = n) ∧
        (r = n ↔ s'.sent = s.sent ++ [buf.take n])) F
      (tapcfgWrite buf n) s := by
  unfold tapcfgWrite
  refine sat_bind (sat_load trivial ?_)
  rw [if_neg (by simp [hup])]
  refine sat_bind ⟨trivial, fun (ret : Int) s' hwrites => ⟨trivial, ?_⟩⟩
  replace hwrites : DeviceWrites s buf (toSize n) ret s' := hwrites
  beta_reduce
  have hnot : ¬ (-1 : Int) = n := by omega
  cases hwrites with
  | failed =>
      rw [if_pos hnot]
      exact sat_ret trivial ⟨rfl, .inl rfl, iff_of_false hnot (by simp)⟩
  | took len hle =>
      have hfit : len ≤ n := by
        have hsize : toSize (n : Int) ≤ n := by
          unfold toSize
          omega
        omega
      by_cases hall : len = n
      · rw [if_neg (by simp [hall]), hall]
        exact sat_ret trivial ⟨rfl, .inr rfl, iff_of_true rfl rfl⟩
      · rw [if_pos (by omega)]
        refine sat_ret trivial ⟨rfl, .inl rfl, iff_of_false hnot fun hsent => hall ?_⟩
        have htake : buf.take len = buf.take n := by simpa using hsent
        have hlen := congrArg List.length htake
        rw [List.length_take, List.length_take] at hlen
        omega

end TapCfg.Unix
