/-
  Daemon/Types.lean --- what the two threads of a tapserver share, the calls
  they make while they hold the table mutex, and the history of those calls.

  Source: src/daemon/tapserver.c (struct tapserver_s, lines 38-60).

  The history records the answered calls in order.  The other marks are ghost
  state: they copy what the code does to its own table (`added`, `removed`),
  which frame of the device is about to be relayed (`relay`), where a round of
  the servicing loop begins (`round`), which client it turns to (`serving`) and
  which frame the forwarder passes on (`forward`).  No modelled function reads
  the history.
-/
import TapCfg.Foundation.Interactive
import TapCfg.Foundation.Framing
import TapCfg.Foundation.History
import TapCfg.Foundation.Memory

set_option autoImplicit false

namespace TapCfg.Daemon

open TapCfg.Foundation

/-- A file descriptor; the -1 of an error is the `none` of an answer. -/
abbrev Fd : Type := Nat

/-- `MAX_CLIENTS` -/
def maxClientsDefault : Nat := 5

/-- `sizeof(buf)` of `reader_thread` and `writer_thread` -/
def bufSize : Nat := 4096

theorem bufSize_lt : bufSize < 65536 := by decide

/-- Why a section has stopped. -/
inductive Fault where
  /-- the bound on the loops is used up: the call has not returned yet -/
  | fuel
  /-- a failed `assert` -/
  | assertion
  /-- an access outside `clienttab` -/
  | bounds
  deriving DecidableEq, Repr

/-- The fields of `struct tapserver_s` that `mutex` protects. -/
structure ClientTable where
  clients : Int
  maxClients : Int
  clienttab : List Fd
  deriving DecidableEq, Repr

namespace ClientTable

/-- The first `clients` entries. -/
def live (t : ClientTable) : List Fd := t.clienttab.take t.clients.toNat

/-- `0 <= clients <= max_clients`, inside the array. -/
structure Wf (t : ClientTable) : Prop where
  nonneg : 0 ≤ t.clients
  le_max : t.clients ≤ t.maxClients
  fits : t.maxClients ≤ t.clienttab.length

instance (t : ClientTable) : Decidable t.Wf :=
  decidable_of_iff (0 ≤ t.clients ∧ t.clients ≤ t.maxClients ∧ t.maxClients ≤ t.clienttab.length)
    ⟨fun h => ⟨h.1, h.2.1, h.2.2⟩, fun h => ⟨h.1, h.2, h.3⟩⟩

theorem Wf.live_length {t : ClientTable} (h : t.Wf) : (t.live.length : Int) = t.clients := by
  have h1 := h.nonneg
  have h2 := h.le_max
  have h3 := h.fits
  simp only [live, List.length_take]
  omega

theorem Wf.lt_clients {t : ClientTable} (h : t.Wf) {i : Nat} :
    (i : Int) < t.clients ↔ i < t.live.length := by
  have := h.live_length
  omega

/-- An index below `clients` reads the table, inside the array. -/
theorem Wf.getElem? {t : ClientTable} (h : t.Wf) {i : Nat} (hi : i < t.live.length) :
    t.clienttab[i]? = t.live[i]? := by
  have := h.lt_clients.mpr hi
  have h1 := h.nonneg
  rw [live, List.getElem?_take]
  simp only [show i < t.clients.toNat by omega, if_true]

end ClientTable

/-! ## The history -/

/-- One entry of the history. -/
inductive Event where
  /-- `clienttab[clients] = fd` -/
  | added (fd : Fd)
  /-- the entry `remove_client` takes out -/
  | removed (fd : Fd)
  /-- `reader_thread` has locked the table with this frame of the device -/
  | relay (data : List Byte)
  /-- `writer_thread` has locked the table after a `select` that left `ready` set -/
  | round (ready : List Fd)
  /-- `FD_ISSET` holds for the entry of this iteration -/
  | serving (fd : Fd)
  /-- a complete frame of a client enters the forward loop -/
  | forward (client : Fd) (data : List Byte)
  /-- `send`; `none` is -1 -/
  | send (fd : Fd) (data : List Byte) (ret : Option Nat)
  /-- `recv` of at most `n` bytes; `none` is -1 -/
  | recv (fd : Fd) (n : Nat) (ret : Option (List Byte))
  /-- `tapcfg_write` of a frame of `client` -/
  | write (client : Fd) (data : List Byte) (ret : Int)
  deriving DecidableEq, Repr

/-- A call made while the table mutex is held. -/
inductive Call where
  | send (fd : Fd) (data : List Byte)
  | recv (fd : Fd) (n : Nat)
  | write (client : Fd) (data : List Byte)
  deriving DecidableEq, Repr

/-- What a call answers. -/
def Call.Ans : Call → Type
  | .send _ _ => Option Nat
  | .recv _ _ => Option (List Byte)
  | .write _ _ => Int

/-- An answered call, as the history records it. -/
def Call.event : (c : Call) → c.Ans → Event
  | .send fd data, ret => .send fd data ret
  | .recv fd n, ret => .recv fd n ret
  | .write client data, ret => .write client data ret

/-- What the table mutex protects, with the history. -/
structure World where
  table : ClientTable
  hist : List Event
  deriving DecidableEq, Repr

namespace World

/-- The table entries in use. -/
abbrev live (w : World) : List Fd := w.table.live

/-- The world after further events that leave the table alone. -/
def log (w : World) (τ : List Event) : World := { w with hist := w.hist ++ τ }

@[simp] theorem log_table (w : World) (τ : List Event) : (w.log τ).table = w.table := rfl

@[simp] theorem log_hist (w : World) (τ : List Event) : (w.log τ).hist = w.hist ++ τ := rfl

@[simp] theorem log_nil (w : World) : w.log [] = w := by simp [log]

@[simp] theorem log_log (w : World) (τ ρ : List Event) : (w.log τ).log ρ = w.log (τ ++ ρ) := by
  simp [log]

end World

/-- A critical section. -/
abbrev Io (α : Type) : Type := Prog World Call Call.Ans Fault α

/-- Record a ghost event. -/
def mark (e : Event) : Io Unit := Prog.update fun w => .ok (w.log [e])

/-! ## The operating system -/

/-- What every answer respects: `send` accepts at most the bytes it is offered
and `recv` returns at most the bytes it is asked for. -/
def Event.Credible : Event → Prop
  | .send _ data (some k) => k ≤ data.length
  | .recv _ n (some chunk) => chunk.length ≤ n
  | _ => True

/-- A further assumption on the environment: which events may follow a history. -/
abbrev Allows : Type := List Event → Event → Prop

/-- The environment of the critical sections: it may answer anything credible
that `L` allows, and leaves the table alone. -/
def osEnv (L : Allows) : Env World Call Call.Ans := fun w c a w' =>
  (c.event a).Credible ∧ L w.hist (c.event a) ∧ w' = w.log [c.event a]

/-- No assumption. -/
def anyAnswer : Allows := fun _ _ => True

/-- `send` -/
def send (s : Fd) (data : List Byte) : Io (Option Nat) := .call (.send s data) .ret

/-- `recv` -/
def recv (s : Fd) (n : Nat) : Io (Option (List Byte)) := .call (.recv s n) .ret

/-- `tapcfg_write`, for a frame of `client` -/
def tapcfgWrite (client : Fd) (data : List Byte) : Io Int := .call (.write client data) .ret

section Rules

open Prog

variable {L : Allows} {I : World → Prop} {F : Fault → World → Prop}

theorem sat_send {s : Fd} {data : List Byte} {Q : Option Nat → World → Prop} {w : World}
    (hI : I w)
    (h : ∀ ret, (Event.send s data ret).Credible → L w.hist (.send s data ret) →
      I (w.log [.send s data ret]) ∧ Q ret (w.log [.send s data ret])) :
    Sat (osEnv L) I Q F (send s data) w := by
  refine ⟨hI, ?_⟩
  rintro ret w' ⟨hcred, hL, rfl⟩
  exact h ret hcred hL

theorem sat_recv {s : Fd} {n : Nat} {Q : Option (List Byte) → World → Prop} {w : World}
    (hI : I w)
    (h : ∀ ret, (Event.recv s n ret).Credible → L w.hist (.recv s n ret) →
      I (w.log [.recv s n ret]) ∧ Q ret (w.log [.recv s n ret])) :
    Sat (osEnv L) I Q F (recv s n) w := by
  refine ⟨hI, ?_⟩
  rintro ret w' ⟨hcred, hL, rfl⟩
  exact h ret hcred hL

theorem sat_tapcfgWrite {c : Fd} {data : List Byte} {Q : Int → World → Prop} {w : World}
    (hI : I w)
    (h : ∀ ret, L w.hist (.write c data ret) →
      I (w.log [.write c data ret]) ∧ Q ret (w.log [.write c data ret])) :
    Sat (osEnv L) I Q F (tapcfgWrite c data) w := by
  refine ⟨hI, ?_⟩
  rintro ret w' ⟨-, hL, rfl⟩
  exact h ret hL

theorem sat_mark {e : Event} {Q : Unit → World → Prop} {w : World} (hI : I w)
    (hI' : I (w.log [e])) (hQ : Q () (w.log [e])) : Sat (osEnv L) I Q F (mark e) w :=
  sat_update rfl hI hI' hQ

end Rules

/-! ## What a history says of one descriptor -/

/-- The bytes one event sent to `fd`. -/
def Event.sentTo (fd : Fd) : Event → List Byte
  | .send s data (some k) => if s = fd then data.take k else []
  | _ => []

/-- The bytes one event received from `fd`. -/
def Event.receivedFrom (fd : Fd) : Event → List Byte
  | .recv s _ (some chunk) => if s = fd then chunk else []
  | _ => []

/-- The frame of `fd` one event passed on, to the device or to the other clients. -/
def Event.passedFrom (fd : Fd) : Event → Option (List Byte)
  | .write c data _ => if c = fd then some data else none
  | .forward c data => if c = fd then some data else none
  | _ => none

/-- The frame one event offers to the clients. -/
def Event.offered : Event → Option (List Byte)
  | .relay data => some data
  | .forward _ data => some data
  | _ => none

/-- The bytes sent to `fd`. -/
def sentTo (fd : Fd) (h : List Event) : List Byte := h.flatMap (Event.sentTo fd)

/-- The bytes received from `fd`. -/
def receivedFrom (fd : Fd) (h : List Event) : List Byte := h.flatMap (Event.receivedFrom fd)

/-- The frames of `fd` passed on. -/
def passedFrom (fd : Fd) (h : List Event) : List (List Byte) := h.filterMap (Event.passedFrom fd)

/-- The frames that have entered one of the two loops that send to the clients. -/
def offered (h : List Event) : List (List Byte) := h.filterMap Event.offered

/-- Is the event the insertion of `fd` into the table? -/
def Event.adds (fd : Fd) : Event → Bool
  | .added s => s == fd
  | _ => false

/-- The events since `fd` was added (last). -/
def sinceAdded (fd : Fd) (h : List Event) : List Event := since (Event.adds fd) h

/-- The table as the history tells it: insertions at the end, removals by value. -/
def tableOf (h : List Event) : List Fd :=
  h.foldl (fun t e => match e with
    | .added fd => t ++ [fd]
    | .removed fd => t.erase fd
    | _ => t) []

@[simp] theorem sentTo_nil (fd : Fd) : sentTo fd [] = [] := rfl
@[simp] theorem receivedFrom_nil (fd : Fd) : receivedFrom fd [] = [] := rfl
@[simp] theorem passedFrom_nil (fd : Fd) : passedFrom fd [] = [] := rfl
@[simp] theorem offered_nil : offered [] = [] := rfl
@[simp] theorem tableOf_nil : tableOf [] = [] := rfl

@[simp] theorem sentTo_append (fd : Fd) (h τ : List Event) :
    sentTo fd (h ++ τ) = sentTo fd h ++ sentTo fd τ := by simp [sentTo]

@[simp] theorem receivedFrom_append (fd : Fd) (h τ : List Event) :
    receivedFrom fd (h ++ τ) = receivedFrom fd h ++ receivedFrom fd τ := by simp [receivedFrom]

@[simp] theorem passedFrom_append (fd : Fd) (h τ : List Event) :
    passedFrom fd (h ++ τ) = passedFrom fd h ++ passedFrom fd τ := by simp [passedFrom]

@[simp] theorem offered_append (h τ : List Event) :
    offered (h ++ τ) = offered h ++ offered τ := by simp [offered]

theorem tableOf_added (h : List Event) (fd : Fd) :
    tableOf (h ++ [.added fd]) = tableOf h ++ [fd] := by simp [tableOf]

theorem tableOf_removed (h : List Event) (fd : Fd) :
    tableOf (h ++ [.removed fd]) = (tableOf h).erase fd := by simp [tableOf]

/-- Does the event change the table? -/
def Event.onTable : Event → Bool
  | .added _ => true
  | .removed _ => true
  | _ => false

theorem Event.adds_eq_false {e : Event} (h : e.onTable = false) (fd : Fd) : e.adds fd = false := by
  cases e <;> first | rfl | simp [Event.onTable] at h

theorem tableOf_append {τ : List Event} (h : List Event) (hτ : ∀ e ∈ τ, e.onTable = false) :
    tableOf (h ++ τ) = tableOf h := by
  induction τ using List.reverseRecOn with
  | nil => simp
  | append_singleton τ e ih =>
      have he : e.onTable = false := hτ e (by simp)
      rw [← List.append_assoc, ← ih fun e h => hτ e (by simp [h])]
      cases e <;> simp_all [tableOf, Event.onTable]

theorem sinceAdded_append {fd : Fd} {τ : List Event} (h : List Event)
    (hτ : ∀ e ∈ τ, e.adds fd = false) : sinceAdded fd (h ++ τ) = sinceAdded fd h ++ τ :=
  since_append_of_not_mem h hτ

theorem sinceAdded_added (fd : Fd) (h : List Event) : sinceAdded fd (h ++ [.added fd]) = [] := by
  simp [sinceAdded, since_concat, Event.adds]

end TapCfg.Daemon
