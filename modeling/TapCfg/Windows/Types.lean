/-
  Windows/Types.lean --- the device object of the Windows library, the system
  calls it makes, and overlapped reads.

  Source: src/lib/tapcfg_windows.c, lines 37-63.

  An overlapped read that is pending comes to its end at any moment: it fails,
  or it has written to `inbuf`.  Either sets the event of the request.  `Lapses`
  is the time that passes before and after every call.  `hist` is what has been
  called, `log` what the reader and the device have done.
-/
import TapCfg.Foundation.Interactive
import TapCfg.Foundation.Delivery
import TapCfg.Foundation.Framing
import TapCfg.Foundation.Ledger
import TapCfg.Foundation.Memory

set_option autoImplicit false

namespace TapCfg.Windows

open TapCfg.Foundation
open Prog hiding ret

/-- A C string, without its NUL. -/
abbrev CStr : Type := List Char

/-- `TAPCFG_BUFSIZE` -/
def tapcfgBufsize : Nat := 4096

/-- `INVALID_HANDLE_VALUE` -/
def invalidHandleValue : Int := -1

/-- `INFINITE` -/
def infinite : Nat := 0xffffffff

/-- The conversion of an `int` to a `DWORD`. -/
def toDword (n : Int) : Nat := (n % 0x100000000).toNat

/-- A string on the heap. -/
structure Str where
  ptr : Nat
  text : CStr
  deriving DecidableEq, Repr

/-- `struct tapcfg_s`, without the log and the requests. -/
structure Tapcfg where
  started : Bool
  status : Int
  devHandle : Int
  ifname : Option Str
  hwaddr : List Byte
  reading : Bool
  inbuf : List Byte
  inbuflen : Nat
  deriving DecidableEq, Repr

/-- `overlapped_in`: its event, and what the last request that has ended has read. -/
structure Overlapped where
  signaled : Bool
  result : Option (List Byte)
  deriving DecidableEq, Repr

/-! ## System calls -/

/-- A network connection of the registry. -/
structure PanelReg where
  name : CStr
  guid : CStr
  deriving DecidableEq, Repr

/-- What the registry lists: the GUIDs of the TAP adapters, and the connections. -/
structure Registry where
  taps : List CStr
  panel : List PanelReg
  deriving DecidableEq, Repr

/-- What `ReadFile` answers. -/
inductive ReadFileAns where
  | done (len : Nat)
  | pending
  | failed
  deriving DecidableEq, Repr

/-- What `WaitForSingleObject` answers. -/
inductive WaitAns where
  | object0
  | timeout
  | failed
  deriving DecidableEq, Repr

inductive Call where
  /-- the queries of `get_tap_reg` and `get_panel_reg` -/
  | registry
  | strdup (text : CStr)
  | free (ptr : Nat)
  | createFile (path : CStr)
  /-- `TAP_IOCTL_GET_VERSION` -/
  | getVersion (h : Int)
  /-- `TAP_IOCTL_GET_MAC` -/
  | getMac (h : Int)
  | closeHandle (h : Int)
  | readFile (h : Int) (n : Nat)
  | waitForSingleObject (timeout : Nat)
  | getOverlappedResult (h : Int)
  deriving DecidableEq, Repr

def Call.Ans : Call → Type
  | .registry => Registry
  | .strdup _ => Option Nat
  | .free _ => Unit
  | .createFile _ => Int
  | .getVersion _ => Option (Nat × Nat)
  | .getMac _ => Option (List Byte)
  | .closeHandle _ => Unit
  | .readFile _ _ => ReadFileAns
  | .waitForSingleObject _ => WaitAns
  | .getOverlappedResult _ => Option Nat

/-- An answered call. -/
abbrev Event : Type := (c : Call) × c.Ans

/-- The device object, its request, the memory of the caller, and what has been done. -/
structure World where
  cfg : Tapcfg
  overlapped : Overlapped
  /-- the memory of the caller from `buf` on -/
  user : List Byte
  hist : List Event
  log : List (Move Byte)

/-- The memory of the caller is left. -/
inductive Fault where
  | overrun
  deriving DecidableEq, Repr

/-- A function of the library. -/
abbrev Io (α : Type) : Type := Prog World Call Call.Ans Fault α

/-! ## Resources -/

/-- What the library acquires and releases. -/
inductive Resource where
  | handle (n : Nat)
  | name (ptr : Nat)
  deriving DecidableEq, Repr

/-- What a `CreateFile` that returns `h` acquires. -/
def acquiredHandle (h : Int) : Option (Entry Resource) :=
  if 0 ≤ h then some (.acquire (.handle h.toNat)) else none

/-- What a `strdup` that returns `ptr` acquires; without memory it returns `none`. -/
def acquiredName (ptr : Option Nat) : Option (Entry Resource) :=
  ptr.map fun ptr => .acquire (.name ptr)

/-- What a call does to them. -/
def entry : Event → Option (Entry Resource)
  | ⟨.strdup _, ptr⟩ => acquiredName ptr
  | ⟨.free ptr, _⟩ => some (.release (.name ptr))
  | ⟨.createFile _, h⟩ => acquiredHandle h
  | ⟨.closeHandle h, _⟩ => if 0 ≤ h then some (.release (.handle h.toNat)) else none
  | _ => none

def ledger (h : List Event) : List (Entry Resource) := h.filterMap entry

theorem ledger_concat (h : List Event) (e : Event) :
    ledger (h ++ [e]) = ledger h ++ (entry e).toList := by
  unfold ledger
  rw [List.filterMap_append]
  cases he : entry e <;> simp [he]

/-- A pointer `strdup` returns: a new one. -/
def NewPtr (hist : List Event) (ptr : Option Nat) : Prop :=
  ∀ p, ptr = some p → .name p ∉ held (ledger hist)

/-- A handle `CreateFile` returns: a new one, or none. -/
def NewHandle (hist : List Event) (h : Int) : Prop :=
  h = invalidHandleValue ∨ (0 ≤ h ∧ .handle h.toNat ∉ held (ledger hist))

/-- What every answer respects. -/
def Credible (hist : List Event) : Event → Prop
  | ⟨.strdup _, ptr⟩ => NewPtr hist ptr
  | ⟨.createFile _, h⟩ => NewHandle hist h
  | _ => True

/-! ## Overlapped reads -/

/-- A pending request comes to its end. -/
inductive Ends (w : World) : World → Prop where
  | delivered (bs : List Byte) (hout : 0 < outstanding w.log) (hfit : bs.length ≤ tapcfgBufsize) :
      Ends w { w with
        cfg := { w.cfg with inbuf := splice w.cfg.inbuf 0 bs }
        overlapped := { signaled := true, result := some bs }
        log := w.log ++ [.ended] }
  | failed (hout : 0 < outstanding w.log) :
      Ends w { w with
        overlapped := { signaled := true, result := none }
        log := w.log ++ [.ended] }

/-- Time passes. -/
abbrev Lapses : World → World → Prop := Relation.ReflTransGen Ends

/-- A request is made: it resets the event. -/
def World.issue (w : World) : World :=
  { w with overlapped := { w.overlapped with signaled := false }, log := w.log ++ [.asked] }

/-- `ReadFile` -/
inductive ReadsFile (w : World) (n : Nat) : ReadFileAns → World → Prop where
  | done (bs : List Byte) (hfit : bs.length ≤ n) :
      ReadsFile w n (.done bs.length) { w.issue with
        cfg := { w.cfg with inbuf := splice w.cfg.inbuf 0 bs }
        overlapped := { signaled := true, result := some bs }
        log := w.issue.log ++ [.ended, .took bs] }
  | pending : ReadsFile w n .pending w.issue
  | failed : ReadsFile w n .failed { w.issue with log := w.issue.log ++ [.ended] }

/-- The waiting begins. -/
def World.await (w : World) : World :=
  { w with log := w.log ++ .awaited :: if w.overlapped.signaled then [] else [.blocked] }

/-- `WaitForSingleObject` on the event; it is reset when it has been waited for. -/
inductive WaitsFor (w : World) (timeout : Nat) : WaitAns → World → Prop where
  | object0 {w' : World} (h : Lapses w.await w') (hset : w'.overlapped.signaled = true) :
      WaitsFor w timeout .object0 { w' with overlapped := { w'.overlapped with signaled := false } }
  | timeout {w' : World} (h : Lapses w.await w') (hfinite : timeout ≠ infinite) :
      WaitsFor w timeout .timeout w'
  | failed {w' : World} (h : Lapses w.await w') : WaitsFor w timeout .failed w'

/-- `GetOverlappedResult`, which does not wait. -/
inductive GetsResult (w : World) : Option Nat → World → Prop where
  | done {bs : List Byte} (hend : outstanding w.log = 0) (h : w.overlapped.result = some bs) :
      GetsResult w (some bs.length) { w with log := w.log ++ [.took bs] }
  | failed : GetsResult w none w

/-- What a call leaves in the object and its request. -/
def Acts (w : World) : (c : Call) → c.Ans → World → Prop
  | .readFile _ n, a, w' => ReadsFile w n a w'
  | .waitForSingleObject timeout, a, w' => WaitsFor w timeout a w'
  | .getOverlappedResult _, a, w' => GetsResult w a w'
  | _, _, w' => w' = w

/-- The operating system. -/
def osEnv : Env World Call Call.Ans := fun w c a w' =>
  ∃ w₁ w₂ : World, Lapses w w₁ ∧ Credible w.hist ⟨c, a⟩ ∧ Acts w₁ c a w₂ ∧
    Lapses { w₂ with hist := w₂.hist ++ [⟨c, a⟩] } w'

def registry : Io Registry := .call .registry .ret

def strdup (text : CStr) : Io (Option Nat) := .call (.strdup text) .ret

def free (ptr : Nat) : Io Unit := .call (.free ptr) .ret

def createFile (path : CStr) : Io Int := .call (.createFile path) .ret

def getVersion (h : Int) : Io (Option (Nat × Nat)) := .call (.getVersion h) .ret

def getMac (h : Int) : Io (Option (List Byte)) := .call (.getMac h) .ret

def closeHandle (h : Int) : Io Unit := .call (.closeHandle h) .ret

def readFile (h : Int) (n : Nat) : Io ReadFileAns := .call (.readFile h n) .ret

def waitForSingleObject (timeout : Nat) : Io WaitAns := .call (.waitForSingleObject timeout) .ret

def getOverlappedResult (h : Int) : Io (Option Nat) := .call (.getOverlappedResult h) .ret

/-- Write to the device object. -/
def modify (f : Tapcfg → Tapcfg) : Io Unit := update fun w => .ok { w with cfg := f w.cfg }

end TapCfg.Windows
