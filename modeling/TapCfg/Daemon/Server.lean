/-
  Daemon/Server.lean --- a tapserver and its two threads as a transition system.

  Source: src/daemon/tapserver.c, lines 40-79 (the record), 153-336 (the
  threads), 338-380 (start and stop).

  A thread is where it stands in its function.  Inside a critical section it
  stands in the rest of that section, a program of `Daemon/Service.lean`, and
  makes one access or one call a step; so every moment inside a section is a
  state of the system.  Steps are of three kinds:

      Outside   touches nothing the table mutex protects: waiting, reading the
                device, select, accept, the running flag, start and stop
      Locked    a section without a call in it, made in one step
      the entering, the steps and the leaving of a section with calls

  Only one thread is inside the table mutex, and the steps of the other outside
  it go on meanwhile.  A start is made while no thread runs; a server may be
  started again after its threads have been joined.  `tapserver_stop` on a
  server that was never started is the subject of `Daemon/Lifecycle.lean`.
-/
import TapCfg.Daemon.Service
import TapCfg.Foundation.Ledger

set_option autoImplicit false

namespace TapCfg.Daemon

open TapCfg.Foundation
open Prog

/-- A frame of the device. -/
abbrev Frame : Type := List Byte

/-- `struct tapserver_s`, without the mutexes and the two thread handles. -/
structure Tapserver where
  /-- the descriptor of the listening socket object, if there is an object -/
  serversock : Option Fd
  serverFd : Fd
  running : Bool
  joined : Bool
  listening : Bool
  /-- `tapcfg != NULL` -/
  tapcfg : Bool
  table : ClientTable
  deriving DecidableEq, Repr

/-- `tapserver_init` -/
def tapserverInit (tapcfg : Bool) : Tapserver where
  serversock := none
  serverFd := 0
  running := false
  joined := false
  listening := false
  tapcfg := tapcfg
  table := ⟨0, maxClientsDefault, List.replicate maxClientsDefault 0⟩

/-- Where `reader_thread` stands. -/
inductive ReaderPc where
  /-- there is no thread -/
  | off
  /-- in the inner loop, before a frame has been read -/
  | wait
  /-- `tapcfg_read` has returned the frame -/
  | got (frame : Frame)
  /-- inside the table mutex -/
  | inside (rest : Io Unit)
  /-- before the test of `running` -/
  | check
  /-- the thread has returned -/
  | done

/-- Where `writer_thread` stands. -/
inductive WriterPc where
  /-- there is no thread -/
  | off
  /-- at the head of its loop -/
  | top
  /-- in `select`, called with this set and this first argument -/
  | selecting (rfds : List Fd) (nfds : Int)
  /-- `select` has left this set -/
  | selected (ready : List Fd)
  /-- inside the table mutex -/
  | inside (ready : List Fd) (rest : Io Flow)
  /-- inside the table mutex, `running` has been cleared -/
  | exiting
  /-- after the servicing pass -/
  | served (ready : List Fd)
  /-- `serversock_accept` has returned this descriptor -/
  | adding (fd : Fd)
  /-- before the test of `running` -/
  | check
  /-- the thread has returned -/
  | done
  /-- a section without a call in it has stopped at a fault -/
  | faulted (e : Fault)

/-- What happens to the descriptors the server opens itself. -/
inductive FdEvent where
  /-- `serversock_tcp` -/
  | listening (fd : Fd)
  /-- `serversock_accept` -/
  | accepted (fd : Fd)
  /-- `close` -/
  | closed (fd : Fd)
  deriving DecidableEq, Repr

/-- What the event does to the descriptors that are open. -/
def FdEvent.entry : FdEvent → Entry Fd
  | .listening fd => .acquire fd
  | .accepted fd => .acquire fd
  | .closed fd => .release fd

/-- The descriptors opened and not closed since. -/
def openFds (fds : List FdEvent) : List Fd := held (fds.map FdEvent.entry)

/-- A server, its threads, and what they have done so far. -/
structure Sys where
  server : Tapserver
  reader : ReaderPc
  writer : WriterPc
  /-- the calls made inside the table mutex -/
  hist : List Event
  /-- the frames `reader_thread` has read from the device -/
  reads : List Frame
  /-- the descriptors opened and closed -/
  fds : List FdEvent
  /-- `tapserver_destroy` has not been called -/
  alive : Bool

namespace Sys

/-- A server just made by `tapserver_init`. -/
def init (tapcfg : Bool) : Sys := ⟨tapserverInit tapcfg, .off, .off, [], [], [], true⟩

/-- What the table mutex protects. -/
def world (σ : Sys) : World := ⟨σ.server.table, σ.hist⟩

/-- The system with another content of the mutex. -/
def withWorld (σ : Sys) (w : World) : Sys :=
  { σ with server := { σ.server with table := w.table }, hist := w.hist }

/-- The entries in use. -/
abbrev live (σ : Sys) : List Fd := σ.server.table.live

/-- `reader_thread` holds the table mutex. -/
def ReaderInside (σ : Sys) : Prop := ∃ p, σ.reader = .inside p

/-- `writer_thread` holds the table mutex. -/
def WriterInside (σ : Sys) : Prop := (∃ ready p, σ.writer = .inside ready p) ∨ σ.writer = .exiting

/-- Nobody holds the table mutex. -/
def Free (σ : Sys) : Prop := ¬ σ.ReaderInside ∧ ¬ σ.WriterInside

/-- A thread has stopped at a fault. -/
def Faults (σ : Sys) (e : Fault) : Prop :=
  (σ.reader = .inside (.fault e) ∨ ∃ ready, σ.writer = .inside ready (.fault e)) ∨
    σ.writer = .faulted e

@[simp] theorem withWorld_world (σ : Sys) (w : World) : (σ.withWorld w).world = w := rfl

end Sys

/-! ## The descriptor set -/

/-- The loop that fills the set, from index `i` on with `n` entries to go. -/
def fdSetLoop (tab : List Fd) : Nat → Nat → List Fd × Int → Except Fault (List Fd × Int)
  | 0, _, acc => .ok acc
  | n + 1, i, acc => do
      let fd ← inBounds tab[i]?
      fdSetLoop tab n (i + 1)
        (acc.1 ++ [fd], if acc.2 < fd then (fd : Int) else acc.2)

/-- The listening socket, when it is waited for. -/
def admitted (s : Tapserver) : List Fd :=
  if s.listening ∧ s.table.clients < s.table.maxClients then [s.serverFd] else []

/-- The set `writer_thread` gives to `select`, and `highest_fd`. -/
def fdSet (s : Tapserver) : Except Fault (List Fd × Int) :=
  fdSetLoop s.table.clienttab s.table.clients.toNat 0
    (admitted s, if s.listening ∧ s.table.clients < s.table.maxClients then s.serverFd else -1)

theorem fdSetLoop_spec (tab : List Fd) :
    ∀ (n i : Nat) (acc : List Fd × Int), i + n ≤ tab.length →
      (∀ fd ∈ acc.1, (fd : Int) ≤ acc.2) →
      ∃ highest, fdSetLoop tab n i acc = .ok (acc.1 ++ (tab.drop i).take n, highest) ∧
        ∀ fd ∈ acc.1 ++ (tab.drop i).take n, (fd : Int) ≤ highest := by
  intro n
  induction n with
  | zero => intro i acc _ hacc; exact ⟨acc.2, by simp [fdSetLoop], by simpa using hacc⟩
  | succ n ih =>
      intro i acc hle hacc
      have hi : i < tab.length := by omega
      have hget : tab[i]? = some tab[i] := List.getElem?_eq_getElem hi
      have hsplit : (tab.drop i).take (n + 1) = tab[i] :: (tab.drop (i + 1)).take n := by
        rw [List.drop_eq_getElem_cons hi, List.take_succ_cons]
      obtain ⟨highest, hloop, hbound⟩ :=
        ih (i + 1) (acc.1 ++ [tab[i]], if acc.2 < tab[i] then (tab[i] : Int) else acc.2)
          (by omega) (by
            intro fd hfd
            rcases List.mem_append.mp hfd with hfd | hfd
            · have := hacc fd hfd
              dsimp only
              split <;> omega
            · rw [List.mem_singleton.mp hfd]
              dsimp only
              split <;> omega)
      refine ⟨highest, ?_, ?_⟩
      · rw [fdSetLoop, hget, hsplit, List.append_cons]
        exact hloop
      · rw [hsplit, List.append_cons]
        exact hbound

/-- The set is the listening socket, when there is room, and the entries in use;
`highest_fd` is not below any of them. -/
theorem fdSet_spec {s : Tapserver} (hs : s.table.Wf) :
    ∃ highest, fdSet s = .ok (admitted s ++ s.table.live, highest) ∧
      ∀ fd ∈ admitted s ++ s.table.live, (fd : Int) ≤ highest := by
  have h1 := hs.nonneg
  have h2 := hs.le_max
  have h3 := hs.fits
  apply fdSetLoop_spec s.table.clienttab s.table.clients.toNat 0 _ (by omega)
  intro fd hfd
  dsimp only [admitted] at hfd ⊢
  split at hfd
  · rw [List.mem_singleton.mp hfd]
    split <;> omega
  · cases hfd

/-! ## Steps -/

/-- The steps that touch nothing the table mutex protects. -/
inductive Outside : Sys → Sys → Prop where
  /-- `tapserver_start`: the socket has a new descriptor, so not one of the
  clients'. -/
  | startListening {σ : Sys} {fd : Fd} (hr : σ.reader = .off) (hw : σ.writer = .off)
      (ha : σ.alive = true) (hfd : fd ∉ σ.live) (hnew : fd ∉ openFds σ.fds) :
      Outside σ { σ with
        server := { σ.server with
          serversock := some fd, serverFd := fd, listening := true, running := true,
          joined := false }
        reader := if σ.server.tapcfg then .wait else .done
        writer := .top
        fds := σ.fds ++ [.listening fd] }
  /-- `tapserver_start` of a client -/
  | startQuiet {σ : Sys} (hr : σ.reader = .off) (hw : σ.writer = .off) (ha : σ.alive = true) :
      Outside σ { σ with
        server := { σ.server with listening := false, running := true, joined := false }
        reader := if σ.server.tapcfg then .wait else .done
        writer := .top }
  /-- `tapserver_start`: `serversock_tcp` has failed -/
  | startFailed {σ : Sys} (hr : σ.reader = .off) (hw : σ.writer = .off) (ha : σ.alive = true) :
      Outside σ { σ with server := { σ.server with serversock := none } }
  /-- nothing to read, or a read error -/
  | readNothing {σ : Sys} (hr : σ.reader = .wait) : Outside σ { σ with reader := .check }
  | readFrame {σ : Sys} {f : Frame} (hr : σ.reader = .wait) (hf : Legal bufSize f) :
      Outside σ { σ with reader := .got f, reads := σ.reads ++ [f] }
  | readerCheck {σ : Sys} (hr : σ.reader = .check) :
      Outside σ { σ with reader := if σ.server.running then .wait else .done }
  | selectFailed {σ : Sys} {rfds : List Fd} {nfds : Int} (hw : σ.writer = .selecting rfds nfds) :
      Outside σ { σ with writer := .done }
  /-- `select` leaves a part of the set, nothing of it on a timeout -/
  | select {σ : Sys} {rfds ready : List Fd} {nfds : Int} (hw : σ.writer = .selecting rfds nfds)
      (hready : ready ⊆ rfds) : Outside σ { σ with writer := .selected ready }
  /-- the listening socket is not ready, or there is none -/
  | noAccept {σ : Sys} {ready : List Fd} (hw : σ.writer = .served ready)
      (hn : ¬ (σ.server.listening = true ∧ σ.server.serverFd ∈ ready)) :
      Outside σ { σ with writer := .check }
  | acceptFailed {σ : Sys} {ready : List Fd} (hw : σ.writer = .served ready)
      (hy : σ.server.listening = true ∧ σ.server.serverFd ∈ ready) :
      Outside σ { σ with writer := .done }
  /-- `accept` returns a new descriptor, so not the listening one -/
  | accept {σ : Sys} {ready : List Fd} {fd : Fd} (hw : σ.writer = .served ready)
      (hy : σ.server.listening = true ∧ σ.server.serverFd ∈ ready) (hfd : fd ≠ σ.server.serverFd)
      (hnew : fd ∉ openFds σ.fds) :
      Outside σ { σ with writer := .adding fd, fds := σ.fds ++ [.accepted fd] }
  | writerCheck {σ : Sys} (hw : σ.writer = .check) :
      Outside σ { σ with writer := if σ.server.running then .top else .done }
  /-- the section of `tapserver_stop` -/
  | stop {σ : Sys} (hr : σ.reader ≠ .off) (hj : σ.server.joined = false) :
      Outside σ { σ with server := { σ.server with running := false, joined := true } }
  /-- both joins and `serversock_destroy` -/
  | join {σ : Sys} (hj : σ.server.joined = true) (hr : σ.reader = .done) (hw : σ.writer = .done) :
      Outside σ { σ with
        reader := .off
        writer := .off
        fds := σ.fds ++ (σ.server.serversock.map FdEvent.closed).toList }
  /-- `tapserver_destroy` -/
  | destroy {σ : Sys} (hr : σ.reader = .off) (hw : σ.writer = .off) (ha : σ.alive = true) :
      Outside σ { σ with alive := false }

/-- The sections without a call in them. -/
inductive Locked : Sys → Sys → Prop where
  /-- `tapserver_add_client` before the start, with a descriptor that is not in
  the table -/
  | addClient {σ : Sys} {fd : Fd} {ret : Int} {w : World} (hr : σ.reader = .off)
      (hw : σ.writer = .off) (ha : σ.alive = true) (hfd : fd ∉ σ.live)
      (h : tapserverAddClient σ.world fd = .ok (ret, w)) : Locked σ (σ.withWorld w)
  /-- no descriptor to wait for -/
  | buildEmpty {σ : Sys} {rfds : List Fd} (hw : σ.writer = .top)
      (h : fdSet σ.server = .ok (rfds, -1)) : Locked σ { σ with writer := .done }
  | build {σ : Sys} {rfds : List Fd} {highest : Int} (hw : σ.writer = .top)
      (h : fdSet σ.server = .ok (rfds, highest)) (hne : highest ≠ -1) :
      Locked σ { σ with writer := .selecting rfds (highest + 1) }
  | buildFault {σ : Sys} {e : Fault} (hw : σ.writer = .top) (h : fdSet σ.server = .error e) :
      Locked σ { σ with writer := .faulted e }
  /-- `tapserver_add_client` of an accepted descriptor, which is not in the
  table; the result is not looked at -/
  | add {σ : Sys} {fd : Fd} {ret : Int} {w : World} (hw : σ.writer = .adding fd)
      (hfd : fd ∉ σ.live) (h : tapserverAddClient σ.world fd = .ok (ret, w)) :
      Locked σ { σ.withWorld w with writer := .check }
  | addFault {σ : Sys} {fd : Fd} {e : Fault} (hw : σ.writer = .adding fd)
      (h : tapserverAddClient σ.world fd = .error e) : Locked σ { σ with writer := .faulted e }

/-- One step of the system, with an assumption `L` on the calls made inside the
table mutex. -/
inductive Step (L : Allows) : Sys → Sys → Prop where
  | outside {σ σ' : Sys} (h : Outside σ σ') : Step L σ σ'
  | locked {σ σ' : Sys} (hf : σ.Free) (h : Locked σ σ') : Step L σ σ'
  | readerLock {σ : Sys} {f : Frame} (fuel : Nat) (hf : σ.Free) (hr : σ.reader = .got f) :
      Step L σ { σ.withWorld (σ.world.log [.relay f]) with
        reader := .inside (broadcast fuel f) }
  | readerRun {σ : Sys} {p p' : Io Unit} {w : World} (hr : σ.reader = .inside p)
      (h : Prog.Step (osEnv L) (p, σ.world) (p', w)) :
      Step L σ { σ.withWorld w with reader := .inside p' }
  | readerUnlock {σ : Sys} (hr : σ.reader = .inside (.ret ())) :
      Step L σ { σ with reader := .wait }
  /-- the frame buffer of the thread may hold anything -/
  | writerLock {σ : Sys} {ready : List Fd} {buf : List Byte} (fuel : Nat) (hf : σ.Free)
      (hw : σ.writer = .selected ready) (hbuf : buf.length = bufSize) :
      Step L σ { σ.withWorld (σ.world.log [.round ready]) with
        writer := .inside ready (servicePass fuel σ.server.tapcfg ready 0 buf) }
  | writerRun {σ : Sys} {ready : List Fd} {p p' : Io Flow} {w : World}
      (hw : σ.writer = .inside ready p) (h : Prog.Step (osEnv L) (p, σ.world) (p', w)) :
      Step L σ { σ.withWorld w with writer := .inside ready p' }
  | writerUnlock {σ : Sys} {ready : List Fd} (hw : σ.writer = .inside ready (.ret .next)) :
      Step L σ { σ with writer := .served ready }
  /-- `running = 0`, with both mutexes held -/
  | writerClear {σ : Sys} {ready : List Fd} (hw : σ.writer = .inside ready (.ret .exit)) :
      Step L σ { σ with
        server := { σ.server with running := false }
        writer := .exiting }
  | writerLeave {σ : Sys} (hw : σ.writer = .exiting) : Step L σ { σ with writer := .done }

theorem Step.tapcfg {L : Allows} {σ σ' : Sys} (h : Step L σ σ') :
    σ'.server.tapcfg = σ.server.tapcfg := by
  cases h with
  | outside h => cases h <;> rfl
  | locked _ h => cases h <;> rfl
  | _ => rfl

/-- The runs of a server, from `tapserver_init` on. -/
inductive Reachable (L : Allows) : Sys → Prop where
  | init (tapcfg : Bool) : Reachable L (Sys.init tapcfg)
  | step {σ σ' : Sys} (h : Reachable L σ) (hs : Step L σ σ') : Reachable L σ'

/-! ## Runs of whole rounds -/

/-- A table that holds just these clients. -/
def ClientTable.holding (fds : List Fd) : ClientTable where
  clients := fds.length
  maxClients := maxClientsDefault
  clienttab := fds ++ List.replicate (maxClientsDefault - fds.length) 0

/-- A server just made that was given these clients. -/
def Sys.given (tapcfg : Bool) (fds : List Fd) : Sys :=
  (Sys.init tapcfg).withWorld ⟨.holding fds, fds.map .added⟩

/-- A server that was started as a client, at the head of the writer's loop,
with this content of the mutex. -/
def Sys.atTop (tapcfg : Bool) (w : World) : Sys where
  server := { tapserverInit tapcfg with running := true, table := w.table }
  reader := if tapcfg then .wait else .done
  writer := .top
  hist := w.hist
  reads := []
  fds := []
  alive := true

theorem holding_live (fds : List Fd) : (ClientTable.holding fds).live = fds := by
  simp [ClientTable.live, ClientTable.holding]

theorem addClient_holding (fds : List Fd) (hlen : fds.length < maxClientsDefault) (fd : Fd)
    (h : List Event) : tapserverAddClient ⟨.holding fds, h⟩ fd =
      .ok (0, ⟨.holding (fds ++ [fd]), h ++ [.added fd]⟩) := by
  have hrest : maxClientsDefault - fds.length =
      (maxClientsDefault - (fds.length + 1)) + 1 := by omega
  have hstore : store (ClientTable.holding fds).clienttab fds.length fd =
      some (ClientTable.holding (fds ++ [fd])).clienttab := by
    simp only [ClientTable.holding, List.length_append, List.length_singleton]
    rw [store_eq_some (by simp; omega), hrest, List.replicate_succ,
      List.set_append_right _ _ (Nat.le_refl _), Nat.sub_self, List.set_cons_zero,
      List.append_assoc, List.singleton_append]
  have hroom : ¬ (ClientTable.holding fds).maxClients ≤ (ClientTable.holding fds).clients := by
    simp only [ClientTable.holding]
    omega
  rw [tapserverAddClient, if_neg hroom]
  show (inBounds (store (ClientTable.holding fds).clienttab fds.length fd) >>= _) = _
  rw [hstore]
  simp [ClientTable.holding]
  rfl

/-- Any clients that fit can be given to a server. -/
theorem given_reachable (L : Allows) (tapcfg : Bool) {fds : List Fd} (hnodup : fds.Nodup)
    (hlen : fds.length ≤ maxClientsDefault) : Reachable L (Sys.given tapcfg fds) := by
  induction fds using List.reverseRecOn with
  | nil => exact .init tapcfg
  | append_singleton fds fd ih =>
      obtain ⟨hfds, -, hne⟩ := List.nodup_append.mp hnodup
      rw [List.length_append, List.length_singleton] at hlen
      refine (ih hfds (by omega)).step (.locked
        ⟨by simp [Sys.ReaderInside, Sys.given, Sys.init, Sys.withWorld],
          by simp [Sys.WriterInside, Sys.given, Sys.init, Sys.withWorld]⟩ ?_)
      have hadd := addClient_holding fds (by omega) fd (fds.map .added)
      have hlive : (Sys.given tapcfg fds).live = fds := holding_live fds
      have hnew : fd ∉ (Sys.given tapcfg fds).live := by
        rw [hlive]
        exact fun hmem => hne fd hmem fd (List.mem_singleton.mpr rfl) rfl
      have hlocked : Locked (Sys.given tapcfg fds) _ := .addClient rfl rfl rfl hnew hadd
      simpa [Sys.given, Sys.withWorld] using hlocked

theorem atTop_reachable (L : Allows) (tapcfg : Bool) {fds : List Fd} (hnodup : fds.Nodup)
    (hlen : fds.length ≤ maxClientsDefault) :
    Reachable L (Sys.atTop tapcfg ⟨.holding fds, fds.map .added⟩) :=
  (given_reachable L tapcfg hnodup hlen).step (.outside (.startQuiet rfl rfl rfl))

theorem atTop_free (tapcfg : Bool) (w : World) : (Sys.atTop tapcfg w).Free :=
  ⟨by cases tapcfg <;> simp [Sys.ReaderInside, Sys.atTop], by simp [Sys.WriterInside, Sys.atTop]⟩

section Rounds

variable {L : Allows} {σ : Sys}

/-- The writer makes any number of steps in its section. -/
theorem Reachable.writerRuns (h : Reachable L σ) {ready : List Fd} {c c' : Io Flow × World}
    (hw : σ.writer = .inside ready c.1) (hc : σ.world = c.2)
    (hr : Prog.Reaches (osEnv L) c c') :
    Reachable L { σ.withWorld c'.2 with writer := .inside ready c'.1 } := by
  induction hr with
  | refl =>
      rw [← hw, ← hc]
      exact h
  | tail _ hs ih => exact ih.step (.writerRun rfl hs)

/-- The reader makes any number of steps in its section. -/
theorem Reachable.readerRuns (h : Reachable L σ) {c c' : Io Unit × World}
    (hr : σ.reader = .inside c.1) (hc : σ.world = c.2) (hs : Prog.Reaches (osEnv L) c c') :
    Reachable L { σ.withWorld c'.2 with reader := .inside c'.1 } := by
  induction hs with
  | refl =>
      rw [← hr, ← hc]
      exact h
  | tail _ hs ih => exact ih.step (.readerRun rfl hs)

/-- The reader reads a frame and relays it, against one deterministic
environment. -/
theorem Reachable.relays (h : Reachable L σ) (hf : σ.Free) (hr : σ.reader = .wait) {f : Frame}
    (hlegal : Legal bufSize f) {respond : Responder World Call Call.Ans}
    (hfollows : Follows respond (osEnv L)) (fuel : Nat) {w : World}
    (hrun : (broadcast fuel f).run respond (σ.world.log [.relay f]) = (.ok (), w)) :
    Reachable L { σ.withWorld w with reader := .wait, reads := σ.reads ++ [f] } := by
  have hwriter : ¬ σ.WriterInside := hf.2
  have hread := h.step (.outside (.readFrame hr hlegal))
  have hlock := hread.step (.readerLock fuel ⟨by simp [Sys.ReaderInside], hwriter⟩ rfl)
  exact (hlock.readerRuns rfl rfl (reaches_run hfollows hrun)).step (.readerUnlock rfl)

/-- A round of the writer, from the head of its loop to the end of the pass,
against one deterministic environment. -/
theorem Reachable.round (h : Reachable L σ) (hf : σ.Free) (hw : σ.writer = .top)
    {rfds ready : List Fd} {highest : Int} (hset : fdSet σ.server = .ok (rfds, highest))
    (hne : highest ≠ -1) (hready : ready ⊆ rfds) {respond : Responder World Call Call.Ans}
    (hfollows : Follows respond (osEnv L)) (fuel : Nat) {buf : List Byte}
    (hbuf : buf.length = bufSize) {w : World}
    (hrun : (servicePass fuel σ.server.tapcfg ready 0 buf).run respond
      (σ.world.log [.round ready]) = (.ok .next, w)) :
    Reachable L { σ.withWorld w with writer := .served ready } := by
  have hreader : ¬ σ.ReaderInside := hf.1
  have hbuild := h.step (.locked hf (.build hw hset hne))
  have hselect := hbuild.step (.outside (.select rfl hready))
  have hlock := hselect.step (.writerLock fuel ⟨hreader, by simp [Sys.WriterInside]⟩ rfl hbuf)
  exact (hlock.writerRuns rfl rfl (reaches_run hfollows hrun)).step (.writerUnlock rfl)

/-- A server that was started as a client goes round its loop. -/
theorem Reachable.turn {tapcfg : Bool} {w w' : World} (h : Reachable L (Sys.atTop tapcfg w))
    {rfds ready : List Fd} {highest : Int}
    (hset : fdSet (Sys.atTop tapcfg w).server = .ok (rfds, highest)) (hne : highest ≠ -1)
    (hready : ready ⊆ rfds) {respond : Responder World Call Call.Ans}
    (hfollows : Follows respond (osEnv L)) (fuel : Nat)
    (hrun : (servicePass fuel tapcfg ready 0 (List.replicate bufSize 0)).run respond
      (w.log [.round ready]) = (.ok .next, w')) :
    Reachable L (Sys.atTop tapcfg w') := by
  have hserved := h.round (atTop_free tapcfg w) rfl hset hne hready hfollows fuel
    List.length_replicate hrun
  have hcheck := hserved.step (.outside (.noAccept rfl
    (by simp [Sys.atTop, Sys.withWorld, tapserverInit])))
  exact hcheck.step (.outside (.writerCheck rfl))

end Rounds

/-- An environment that follows a script: each client has sent `stream`, every
byte offered to `send` is accepted, and the device answers `answer`. -/
def scripted (stream : Fd → List Byte) (answer : Int) : Responder World Call Call.Ans := fun w c =>
  match c with
  | .send fd data => (some data.length, w.log [.send fd data (some data.length)])
  | .recv fd n =>
      let chunk := ((stream fd).drop (receivedFrom fd (sinceAdded fd w.hist)).length).take n
      (some chunk, w.log [.recv fd n (some chunk)])
  | .write fd data => (answer, w.log [.write fd data answer])

theorem scripted_follows {L : Allows} (stream : Fd → List Byte) (answer : Int)
    (hsend : ∀ h s data, L h (.send s data (some data.length)))
    (hrecv : ∀ h s n chunk, L h (.recv s n (some chunk)))
    (hwrite : ∀ h c data, L h (.write c data answer)) :
    Follows (scripted stream answer) (osEnv L) := by
  intro w c
  cases c with
  | send fd data => exact ⟨Nat.le_refl _, hsend _ _ _, rfl⟩
  | recv fd n => exact ⟨List.length_take_le _ _, hrecv _ _ _ _, rfl⟩
  | write fd data => exact ⟨trivial, hwrite _ _ _, rfl⟩

theorem scripted_follows_any (stream : Fd → List Byte) (answer : Int) :
    Follows (scripted stream answer) (osEnv anyAnswer) :=
  scripted_follows stream answer (fun _ _ _ => trivial) (fun _ _ _ _ => trivial)
    (fun _ _ _ => trivial)

end TapCfg.Daemon
