/-
  Daemon/Lifecycle.lean --- `tapserver_start` and `tapserver_stop`, statement by
  statement.

  Source: src/daemon/tapserver.c, lines 63-79, 338-380; serversock.c, 177-184.

  One thread may be in `tapserver_start`, any number of others in
  `tapserver_stop`.  A step is one statement of one of them; the section of
  `tapserver_stop` under `run_mutex` is one step.  The handles and the socket
  objects are numbers; a handle is 0 until its thread has been created, and when
  it could not be (THREAD_CREATE).

  `Tidy` says what is expected.  It holds in every run in which a stop goes past
  its test only where it ends a start (`lifecycle_tidy`).  Elsewhere it fails:
  the flag `joined` of a server just made is 0, so a stop before the first start
  joins threads that were never created, and the pointer `serversock` outlives
  its object.
-/
import TapCfg.Foundation.Ledger
import TapCfg.Foundation.Runs
import Mathlib.Logic.Function.Basic

set_option autoImplicit false

namespace TapCfg.Daemon

open TapCfg.Foundation

/-- `thread_handle_t`; 0 is no thread. -/
abbrev Handle : Type := Nat

/-- A `serversock_t` object. -/
abbrev SockObj : Type := Nat

/-- The fields of `struct tapserver_s` that the two functions use. -/
structure Control where
  serversock : Option SockObj
  running : Bool
  joined : Bool
  listening : Bool
  reader : Handle
  writer : Handle
  deriving DecidableEq, Repr

/-- `tapserver_init`: what `calloc` leaves. -/
def Control.init : Control := ⟨none, false, false, false, 0, 0⟩

/-- The next statement of `tapserver_start`. -/
inductive StartPc where
  /-- `server->serversock = serversock_tcp(&port, 0, 1)` -/
  | tcp
  /-- `server->listening = 1` or `0` -/
  | listening (on : Bool)
  /-- `server->running = 1` -/
  | running
  /-- `server->joined = 0` -/
  | joined
  /-- `THREAD_CREATE(server->reader, ...)` -/
  | reader
  /-- `THREAD_CREATE(server->writer, ...)` -/
  | writer
  deriving DecidableEq, Repr

/-- The next statement of `tapserver_stop`; `ends` records that the test found
a server that was up. -/
inductive StopPc where
  /-- the section under `run_mutex` -/
  | test
  /-- `THREAD_JOIN(server->reader)` -/
  | joinReader (ends : Bool)
  /-- `THREAD_JOIN(server->writer)` -/
  | joinWriter (ends : Bool)
  /-- `serversock_destroy(server->serversock)` -/
  | destroy (ends : Bool)
  deriving DecidableEq, Repr

/-- A server, the calls in progress, and what they have done so far. -/
structure Lifecycle where
  server : Control
  /-- the call of `tapserver_start` in progress -/
  starting : Option StartPc
  /-- the call of `tapserver_stop` each thread has in progress -/
  stops : Nat → Option StopPc
  /-- a start has returned 0 and has not been stopped -/
  up : Bool
  /-- threads created and joined -/
  threads : List (Entry Handle)
  /-- listening socket objects created and destroyed -/
  sockets : List (Entry SockObj)

namespace Lifecycle

/-- A server made by `tapserver_init`. -/
def init : Lifecycle := ⟨Control.init, none, fun _ => none, false, [], []⟩

/-- The step of one of the threads that stop the server. -/
def atStop (σ : Lifecycle) (k : Nat) (pc : Option StopPc) : Lifecycle :=
  { σ with stops := Function.update σ.stops k pc }

end Lifecycle

/-- The statements of `tapserver_start`. -/
inductive StartStep : Lifecycle → Lifecycle → Prop where
  /-- no start is made while an earlier one has not been stopped -/
  | call {σ : Lifecycle} (listen : Bool) (hs : σ.starting = none) (hu : σ.up = false) :
      StartStep σ { σ with starting := some (if listen then .tcp else .listening false) }
  | tcp {σ : Lifecycle} {s : SockObj} (hs : σ.starting = some .tcp) (hnew : s ∉ held σ.sockets) :
      StartStep σ { σ with
        server := { σ.server with serversock := some s }
        starting := some (.listening true)
        sockets := σ.sockets ++ [.acquire s] }
  /-- `return -1` -/
  | tcpFailed {σ : Lifecycle} (hs : σ.starting = some .tcp) :
      StartStep σ { σ with server := { σ.server with serversock := none }, starting := none }
  | listening {σ : Lifecycle} {on : Bool} (hs : σ.starting = some (.listening on)) :
      StartStep σ { σ with server := { σ.server with listening := on }, starting := some .running }
  | running {σ : Lifecycle} (hs : σ.starting = some .running) :
      StartStep σ { σ with server := { σ.server with running := true }, starting := some .joined }
  | joined {σ : Lifecycle} (hs : σ.starting = some .joined) :
      StartStep σ { σ with server := { σ.server with joined := false }, starting := some .reader }
  | reader {σ : Lifecycle} {t : Handle} (hs : σ.starting = some .reader) (ht : t ≠ 0)
      (hnew : t ∉ held σ.threads) :
      StartStep σ { σ with
        server := { σ.server with reader := t }
        starting := some .writer
        threads := σ.threads ++ [.acquire t] }
  | readerFailed {σ : Lifecycle} (hs : σ.starting = some .reader) :
      StartStep σ { σ with server := { σ.server with reader := 0 }, starting := some .writer }
  /-- `return 0` -/
  | writer {σ : Lifecycle} {t : Handle} (hs : σ.starting = some .writer) (ht : t ≠ 0)
      (hnew : t ∉ held σ.threads) :
      StartStep σ { σ with
        server := { σ.server with writer := t }
        starting := none
        up := true
        threads := σ.threads ++ [.acquire t] }
  | writerFailed {σ : Lifecycle} (hs : σ.starting = some .writer) :
      StartStep σ { σ with
        server := { σ.server with writer := 0 }
        starting := none
        up := true }

/-- The statements of `tapserver_stop`, in thread `k`. -/
inductive StopStep (k : Nat) : Lifecycle → Lifecycle → Prop where
  | call {σ : Lifecycle} (hk : σ.stops k = none) : StopStep k σ (σ.atStop k (some .test))
  /-- somebody else stops the server, or has stopped it -/
  | already {σ : Lifecycle} (hk : σ.stops k = some .test) (hj : σ.server.joined = true) :
      StopStep k σ (σ.atStop k none)
  | test {σ : Lifecycle} (hk : σ.stops k = some .test) (hj : σ.server.joined = false) :
      StopStep k σ { σ.atStop k (some (.joinReader σ.up)) with
        server := { σ.server with running := false, joined := true } }
  | joinReader {σ : Lifecycle} {ends : Bool} (hk : σ.stops k = some (.joinReader ends)) :
      StopStep k σ { σ.atStop k (some (.joinWriter ends)) with
        threads := σ.threads ++ [.release σ.server.reader] }
  | joinWriter {σ : Lifecycle} {ends : Bool} (hk : σ.stops k = some (.joinWriter ends)) :
      StopStep k σ { σ.atStop k (some (.destroy ends)) with
        threads := σ.threads ++ [.release σ.server.writer] }
  /-- a NULL pointer is left alone -/
  | destroy {σ : Lifecycle} {ends : Bool} (hk : σ.stops k = some (.destroy ends)) :
      StopStep k σ { σ.atStop k none with
        up := if ends then false else σ.up
        sockets := σ.sockets ++ (σ.server.serversock.map Entry.release).toList }

/-- One step. -/
def LifeStep (σ σ' : Lifecycle) : Prop := StartStep σ σ' ∨ ∃ k, StopStep k σ σ'

/-- The runs of a server, from `tapserver_init` on. -/
abbrev LifeRun : Lifecycle → Prop := Runs (· = Lifecycle.init) LifeStep

/-! ## What is expected -/

/-- No call of `tapserver_stop` in progress has gone past its test. -/
def Untested (σ : Lifecycle) : Prop := ∀ k, σ.stops k = none ∨ σ.stops k = some .test

/-- Only threads that were created and not joined yet are joined; a listening
socket object is not destroyed twice, it is there while the server is up, and it
is destroyed by the stop. -/
structure Tidy (σ : Lifecycle) : Prop where
  joins : Along Settles [] σ.threads
  destroys : Along Settles [] σ.sockets
  kept : σ.up = true → Untested σ → σ.server.listening = true →
    ∃ s ∈ held σ.sockets, σ.server.serversock = some s
  gone : σ.up = false → σ.starting = none → held σ.sockets = []

/-- A stop made here ends a start: none is in progress, the last one returned 0,
has created both threads and has not been stopped, and the pointer to the
listening socket is not a stale one. -/
structure Stoppable (σ : Lifecycle) : Prop where
  starting : σ.starting = none
  up : σ.up = true
  threads : σ.server.reader ≠ 0 ∧ σ.server.writer ≠ 0
  socket : σ.server.listening = true ∨ σ.server.serversock = none

/-- A stop goes past its test only where it ends a start. -/
def Timely (σ σ' : Lifecycle) : Prop :=
  ∀ k ends, σ.stops k = some .test → σ'.stops k = some (.joinReader ends) → Stoppable σ

/-! ## The invariant -/

/-- The handle, when it is one of a thread. -/
def thread (t : Handle) : List Handle := if t = 0 then [] else [t]

/-- The object a server that is up holds. -/
def Control.owned (c : Control) : List SockObj :=
  if c.listening then c.serversock.toList else []

/-- The server holds the object of its listening socket, if it listens. -/
structure Socketed (σ : Lifecycle) : Prop where
  held : held σ.sockets = σ.server.owned
  some : σ.server.listening = true → σ.server.serversock.isSome

/-- What is held before the next statement of `tapserver_start`. -/
def Reached (σ : Lifecycle) : StartPc → Prop
  | .tcp | .listening false => held σ.sockets = [] ∧ held σ.threads = []
  | .listening true =>
      (held σ.sockets = σ.server.serversock.toList ∧ σ.server.serversock.isSome) ∧
        held σ.threads = []
  | .running | .joined => Socketed σ ∧ held σ.threads = []
  | .reader => (Socketed σ ∧ σ.server.joined = false) ∧ held σ.threads = []
  | .writer => (Socketed σ ∧ σ.server.joined = false) ∧ held σ.threads = thread σ.server.reader

/-- What is held before the next statement of the `tapserver_stop` that ends a
start. -/
def Remaining (σ : Lifecycle) : StopPc → Prop
  | .test => False
  | .joinReader _ => held σ.threads = [σ.server.reader, σ.server.writer]
  | .joinWriter _ => held σ.threads = [σ.server.writer]
  | .destroy _ => held σ.threads = []

/-- Does the call end a start? -/
def StopPc.ends : StopPc → Bool
  | .test => false
  | .joinReader ends | .joinWriter ends | .destroy ends => ends

/-- Where the server stands in its cycle. -/
inductive Phase (σ : Lifecycle) : Prop where
  | idle (hs : σ.starting = none) (hu : σ.up = false) (hk : Untested σ)
      (hsock : held σ.sockets = []) (hthr : held σ.threads = [])
  | starting {pc : StartPc} (hs : σ.starting = some pc) (hu : σ.up = false) (hk : Untested σ)
      (hr : Reached σ pc)
  | up (hs : σ.starting = none) (hu : σ.up = true) (hk : Untested σ) (hsock : Socketed σ)
      (hthr : held σ.threads = thread σ.server.reader ++ thread σ.server.writer)
  | stopping {k : Nat} {pc : StopPc} (hs : σ.starting = none) (hu : σ.up = true)
      (hj : σ.server.joined = true) (hpc : σ.stops k = some pc) (he : pc.ends = true)
      (hothers : ∀ k', k' ≠ k → σ.stops k' = none ∨ σ.stops k' = some .test)
      (hsock : held σ.sockets = σ.server.serversock.toList) (hr : Remaining σ pc)

/-- What a timely run keeps. -/
structure Ordered (σ : Lifecycle) : Prop where
  joins : Along Settles [] σ.threads
  destroys : Along Settles [] σ.sockets
  phase : Phase σ

theorem along_acquire {R : Type} [DecidableEq R] {l : List (Entry R)} (h : Along Settles [] l)
    (a : R) : Along Settles [] (l ++ [.acquire a]) :=
  along_append.mpr ⟨h, along_singleton.mpr trivial⟩

theorem along_release {R : Type} [DecidableEq R] {l : List (Entry R)} (h : Along Settles [] l)
    {a : R} (ha : a ∈ held l) : Along Settles [] (l ++ [.release a]) :=
  along_append.mpr ⟨h, along_singleton.mpr ha⟩

theorem Ordered.init : Ordered Lifecycle.init :=
  ⟨trivial, trivial, .idle rfl rfl (fun _ => .inl rfl) rfl rfl⟩

/-- The statement to come tells the phase. -/
theorem Ordered.reached {σ : Lifecycle} (h : Ordered σ) {pc : StartPc}
    (hs : σ.starting = some pc) : σ.up = false ∧ Untested σ ∧ Reached σ pc := by
  cases h.phase with
  | idle hs' => cases hs.symm.trans hs'
  | starting hs' hu hk hr =>
      cases hs.symm.trans hs'
      exact ⟨hu, hk, hr⟩
  | up hs' => cases hs.symm.trans hs'
  | stopping hs' => cases hs.symm.trans hs'

theorem Ordered.start {σ σ' : Lifecycle} (h : Ordered σ) (hs : StartStep σ σ') : Ordered σ' := by
  cases hs with
  | call listen hs hu =>
      refine ⟨h.joins, h.destroys, ?_⟩
      cases h.phase with
      | idle _ _ hk hsock hthr => cases listen <;> exact .starting rfl hu hk ⟨hsock, hthr⟩
      | starting hs' => cases hs.symm.trans hs'
      | up _ hu' => cases hu.symm.trans hu'
      | stopping _ hu' => cases hu.symm.trans hu'
  | tcp hs hnew =>
      obtain ⟨hu, hk, hsock, hthr⟩ := h.reached hs
      refine ⟨h.joins, along_acquire h.destroys _, .starting rfl hu hk ⟨⟨?_, rfl⟩, hthr⟩⟩
      simp [hsock]
  | tcpFailed hs =>
      obtain ⟨hu, hk, hsock, hthr⟩ := h.reached hs
      exact ⟨h.joins, h.destroys, .idle rfl hu hk hsock hthr⟩
  | @listening on hs =>
      obtain ⟨hu, hk, hr⟩ := h.reached hs
      refine ⟨h.joins, h.destroys, .starting rfl hu hk ?_⟩
      cases on with
      | true => exact ⟨⟨hr.1.1, fun _ => hr.1.2⟩, hr.2⟩
      | false => exact ⟨⟨hr.1, fun hl => by cases hl⟩, hr.2⟩
  | running hs =>
      obtain ⟨hu, hk, hsock, hthr⟩ := h.reached hs
      exact ⟨h.joins, h.destroys, .starting rfl hu hk ⟨⟨hsock.held, hsock.some⟩, hthr⟩⟩
  | joined hs =>
      obtain ⟨hu, hk, hsock, hthr⟩ := h.reached hs
      exact ⟨h.joins, h.destroys, .starting rfl hu hk ⟨⟨⟨hsock.held, hsock.some⟩, rfl⟩, hthr⟩⟩
  | @reader t hs ht hnew =>
      obtain ⟨hu, hk, ⟨hsock, hj⟩, hthr⟩ := h.reached hs
      refine ⟨along_acquire h.joins t, h.destroys, .starting rfl hu hk
        ⟨⟨⟨hsock.held, hsock.some⟩, hj⟩, ?_⟩⟩
      simp [hthr, thread, ht]
  | readerFailed hs =>
      obtain ⟨hu, hk, ⟨hsock, hj⟩, hthr⟩ := h.reached hs
      exact ⟨h.joins, h.destroys, .starting rfl hu hk ⟨⟨⟨hsock.held, hsock.some⟩, hj⟩, hthr⟩⟩
  | @writer t hs ht hnew =>
      obtain ⟨-, hk, ⟨hsock, -⟩, hthr⟩ := h.reached hs
      refine ⟨along_acquire h.joins t, h.destroys, .up rfl rfl hk ⟨hsock.held, hsock.some⟩ ?_⟩
      simp [hthr, thread, ht]
  | writerFailed hs =>
      obtain ⟨-, hk, ⟨hsock, -⟩, hthr⟩ := h.reached hs
      refine ⟨h.joins, h.destroys, .up rfl rfl hk ⟨hsock.held, hsock.some⟩ ?_⟩
      simp [hthr, thread]

theorem Untested.update {σ : Lifecycle} (h : Untested σ) (k : Nat) {pc : Option StopPc}
    (hpc : pc = none ∨ pc = some .test) : Untested (σ.atStop k pc) := by
  intro k'
  by_cases hk : k' = k
  · subst hk
    simpa [Lifecycle.atStop] using hpc
  · simpa [Lifecycle.atStop, hk] using h k'

/-- A call of `tapserver_stop` that begins, or finds the server stopped. -/
theorem Phase.update {σ : Lifecycle} (h : Phase σ) {k : Nat} {pc : Option StopPc}
    (hk : σ.stops k = none ∨ σ.stops k = some .test) (hpc : pc = none ∨ pc = some .test) :
    Phase (σ.atStop k pc) := by
  cases h with
  | idle hs hu ht hsock hthr => exact .idle hs hu (ht.update k hpc) hsock hthr
  | @starting pc' hs hu ht hr =>
      refine .starting hs hu (ht.update k hpc) ?_
      cases pc' with
      | listening on => cases on <;> exact hr
      | running | joined => exact ⟨⟨hr.1.held, hr.1.some⟩, hr.2⟩
      | reader | writer => exact ⟨⟨⟨hr.1.1.held, hr.1.1.some⟩, hr.1.2⟩, hr.2⟩
      | tcp => exact hr
  | up hs hu ht hsock hthr => exact .up hs hu (ht.update k hpc) ⟨hsock.held, hsock.some⟩ hthr
  | @stopping k₀ pc₀ hs hu hj hpc₀ he hothers hsock hr =>
      have hne : k₀ ≠ k := by
        rintro rfl
        rw [hpc₀] at hk
        rcases hk with hk | hk
        · cases hk
        · cases hk
          cases he
      have hat : (σ.atStop k pc).stops k₀ = some pc₀ := by simpa [Lifecycle.atStop, hne] using hpc₀
      refine .stopping hs hu hj hat he (fun k' hk' => ?_) hsock ?_
      · by_cases heq : k' = k
        · subst heq
          simpa [Lifecycle.atStop] using hpc
        · simpa [Lifecycle.atStop, heq] using hothers k' hk'
      · cases pc₀ <;> exact hr

/-- The one call past its test tells the phase. -/
theorem Ordered.remaining {σ : Lifecycle} (h : Ordered σ) {k : Nat} {pc : StopPc}
    (hk : σ.stops k = some pc) (hne : pc ≠ .test) :
    σ.starting = none ∧ σ.up = true ∧ σ.server.joined = true ∧ pc.ends = true ∧
      (∀ k', k' ≠ k → σ.stops k' = none ∨ σ.stops k' = some .test) ∧
      held σ.sockets = σ.server.serversock.toList ∧ Remaining σ pc := by
  have hnot : ¬ Untested σ := fun ht => by
    rcases ht k with hk' | hk'
    · cases hk.symm.trans hk'
    · exact hne (Option.some.inj (hk.symm.trans hk'))
  cases h.phase with
  | idle _ _ ht => exact (hnot ht).elim
  | starting _ _ ht => exact (hnot ht).elim
  | up _ _ ht => exact (hnot ht).elim
  | @stopping k₀ pc₀ hs hu hj hpc he hothers hsock hr =>
      by_cases heq : k = k₀
      · subst heq
        cases Option.some.inj (hk.symm.trans hpc)
        exact ⟨hs, hu, hj, he, hothers, hsock, hr⟩
      · rcases hothers k heq with hk' | hk'
        · cases hk.symm.trans hk'
        · exact (hne (Option.some.inj (hk.symm.trans hk'))).elim

/-- A step of one call of `tapserver_stop` leaves the others where they stand. -/
theorem atStop_others {σ : Lifecycle} {k : Nat} (pc : Option StopPc)
    (h : ∀ k', k' ≠ k → σ.stops k' = none ∨ σ.stops k' = some .test) (k' : Nat) (hne : k' ≠ k) :
    (σ.atStop k pc).stops k' = none ∨ (σ.atStop k pc).stops k' = some .test := by
  simpa [Lifecycle.atStop, hne] using h k' hne

/-- The one call past its test returns. -/
theorem untested_atStop {σ : Lifecycle} {k : Nat}
    (h : ∀ k', k' ≠ k → σ.stops k' = none ∨ σ.stops k' = some .test) :
    Untested (σ.atStop k none) := by
  intro k'
  by_cases heq : k' = k
  · subst heq
    simp [Lifecycle.atStop]
  · exact atStop_others none h k' heq

/-- A server that listens, or has no object, holds what its pointer says. -/
theorem Socketed.held_toList {σ : Lifecycle} (h : Socketed σ)
    (hsocket : σ.server.listening = true ∨ σ.server.serversock = none) :
    Foundation.held σ.sockets = σ.server.serversock.toList := by
  have hheld := h.held
  unfold Control.owned at hheld
  rcases hsocket with hl | hnull
  · rwa [if_pos hl] at hheld
  · rw [hnull] at hheld ⊢
    simpa using hheld

theorem Ordered.stop {σ σ' : Lifecycle} {k : Nat} (h : Ordered σ) (hs : StopStep k σ σ')
    (ht : Timely σ σ') : Ordered σ' := by
  have hself : ∀ pc, (σ.atStop k (some pc)).stops k = some pc := fun pc => by
    simp [Lifecycle.atStop]
  cases hs with
  | call hk => exact ⟨h.joins, h.destroys, h.phase.update (.inl hk) (.inr rfl)⟩
  | already hk hj => exact ⟨h.joins, h.destroys, h.phase.update (.inr hk) (.inl rfl)⟩
  | test hk hj =>
      obtain ⟨hs, hu, ⟨hr, hw⟩, hsocket⟩ := ht k σ.up hk (hself _)
      refine ⟨h.joins, h.destroys, ?_⟩
      cases h.phase with
      | idle _ hu' => cases hu.symm.trans hu'
      | starting hs' => cases hs.symm.trans hs'
      | stopping _ _ hj' => cases hj.symm.trans hj'
      | up _ _ hk' hsock hthr =>
          refine .stopping (k := k) hs hu rfl (hself _) hu
            (atStop_others (some (.joinReader σ.up)) fun k' _ => hk' k')
            (hsock.held_toList hsocket) ?_
          show held σ.threads = [σ.server.reader, σ.server.writer]
          simpa [thread, hr, hw] using hthr
  | joinReader hk =>
      obtain ⟨hs, hu, hj, he, hothers, hsock, hr⟩ := h.remaining hk (by simp)
      have hheld : held σ.threads = [σ.server.reader, σ.server.writer] := hr
      refine ⟨along_release h.joins (by simp [hheld]), h.destroys,
        .stopping (k := k) hs hu hj (hself _) he (atStop_others (some (.joinWriter _)) hothers)
          hsock ?_⟩
      show held (σ.threads ++ [.release σ.server.reader]) = [σ.server.writer]
      simp [hheld]
  | joinWriter hk =>
      obtain ⟨hs, hu, hj, he, hothers, hsock, hr⟩ := h.remaining hk (by simp)
      have hheld : held σ.threads = [σ.server.writer] := hr
      refine ⟨along_release h.joins (by simp [hheld]), h.destroys,
        .stopping (k := k) hs hu hj (hself _) he (atStop_others (some (.destroy _)) hothers)
          hsock ?_⟩
      show held (σ.threads ++ [.release σ.server.writer]) = []
      simp [hheld]
  | @destroy ends hk =>
      obtain ⟨hs, hu, hj, he, hothers, hsock, hr⟩ := h.remaining hk (by simp)
      have hthr : held σ.threads = [] := hr
      have hends : ends = true := he
      have hrest : Untested (σ.atStop k none) := untested_atStop hothers
      cases hnull : σ.server.serversock with
      | none =>
          rw [hnull] at hsock
          refine ⟨h.joins, by simpa using h.destroys, .idle hs (by simp [hends]) hrest ?_ hthr⟩
          simpa using hsock
      | some s =>
          rw [hnull] at hsock
          refine ⟨h.joins, along_release h.destroys (by simp [hsock]),
            .idle hs (by simp [hends]) hrest ?_ hthr⟩
          show held (σ.sockets ++ [.release s]) = []
          simp [hsock]

theorem Ordered.tidy {σ : Lifecycle} (h : Ordered σ) : Tidy σ where
  joins := h.joins
  destroys := h.destroys
  kept hu hk hl := by
    cases h.phase with
    | idle _ hu' => cases hu.symm.trans hu'
    | starting _ hu' => cases hu.symm.trans hu'
    | up _ _ _ hsock _ =>
        obtain ⟨s, hs⟩ := Option.isSome_iff_exists.mp (hsock.some hl)
        have hheld := hsock.held
        rw [Control.owned, if_pos hl, hs] at hheld
        exact ⟨s, by simp [hheld], hs⟩
    | @stopping k pc _ _ _ hpc he =>
        rcases hk k with hk' | hk'
        · cases hpc.symm.trans hk'
        · cases hpc.symm.trans hk'
          cases he
  gone hu hs := by
    cases h.phase with
    | idle _ _ _ hsock _ => exact hsock
    | starting hs' => cases hs.symm.trans hs'
    | up _ hu' => cases hu.symm.trans hu'
    | stopping _ hu' => cases hu.symm.trans hu'

/-- In every run in which a stop goes past its test only where it ends a start:
only living threads are joined, and every listening socket object lives from its
start to the stop that follows. -/
theorem lifecycle_tidy {σ : Lifecycle}
    (h : Runs (· = Lifecycle.init) (Provided LifeStep Timely) σ) : Tidy σ := by
  refine (h.invariant (I := Ordered) (fun σ hinit => ?_) fun σ σ' hσ hs => ?_).tidy
  · rw [hinit]
    exact Ordered.init
  · obtain ⟨hstart | ⟨k, hstop⟩, htimely⟩ := hs
    · exact hσ.start hstart
    · exact hσ.stop hstop htimely

/-! ## A timely run, and two that are not -/

theorem StartStep.timely {σ σ' : Lifecycle} (hs : StartStep σ σ') : Timely σ σ' := by
  intro k ends hk hk'
  have hsame : σ'.stops k = σ.stops k := by cases hs <;> rfl
  rw [hsame, hk] at hk'
  cases hk'

theorem StopStep.timely {k : Nat} {σ σ' : Lifecycle} (hs : StopStep k σ σ')
    (h : σ.stops k = some .test → σ.server.joined = false → Stoppable σ) : Timely σ σ' := by
  intro k' ends hk hk'
  have hother : k' ≠ k → σ'.stops k' = σ.stops k' := fun hne => by
    cases hs <;> simp [Lifecycle.atStop, hne]
  by_cases heq : k' = k
  · subst heq
    cases hs with
    | test _ hj => exact h hk hj
    | call hnone => cases hk.symm.trans hnone
    | already => simp [Lifecycle.atStop] at hk'
    | joinReader hpc => cases hk.symm.trans hpc
    | joinWriter hpc => cases hk.symm.trans hpc
    | destroy hpc => cases hk.symm.trans hpc
  · rw [hother heq, hk] at hk'
    cases hk'

section Whole

variable (step : Lifecycle → Lifecycle → Prop) {σ : Lifecycle}

/-- A whole start of a server that is down and creates the threads 1 and 2. -/
theorem starts (hrun : Runs (· = Lifecycle.init) step σ)
    (hstep : ∀ σ σ', StartStep σ σ' → step σ σ') (listen : Bool) (hs : σ.starting = none)
    (hu : σ.up = false) (hsock : held σ.sockets = []) (hthr : 1 ∉ held σ.threads)
    (hthr' : 2 ∉ held (σ.threads ++ [.acquire 1])) :
    Runs (· = Lifecycle.init) step { σ with
      server := ⟨if listen then some 1 else σ.server.serversock, true, false, listen, 1, 2⟩
      starting := none
      up := true
      threads := σ.threads ++ [.acquire 1] ++ [.acquire 2]
      sockets := σ.sockets ++ if listen then [.acquire 1] else [] } := by
  have hcall := hrun.next (hstep _ _ (.call listen hs hu))
  cases listen with
  | true =>
      have htcp := hcall.next (hstep _ _ (.tcp (s := 1) rfl (by simp [hsock])))
      have hflag := htcp.next (hstep _ _ (.listening rfl))
      have hrunning := hflag.next (hstep _ _ (.running rfl))
      have hjoined := hrunning.next (hstep _ _ (.joined rfl))
      have hreader := hjoined.next (hstep _ _ (.reader rfl (by decide) hthr))
      exact hreader.next (hstep _ _ (.writer rfl (by decide) hthr'))
  | false =>
      have hflag := hcall.next (hstep _ _ (.listening rfl))
      have hrunning := hflag.next (hstep _ _ (.running rfl))
      have hjoined := hrunning.next (hstep _ _ (.joined rfl))
      have hreader := hjoined.next (hstep _ _ (.reader rfl (by decide) hthr))
      simpa using hreader.next (hstep _ _ (.writer rfl (by decide) hthr'))

/-- A whole stop by thread 0 that goes past its test. -/
theorem stops (hrun : Runs (· = Lifecycle.init) step σ)
    (hstep : ∀ σ₁ σ₂, StopStep 0 σ₁ σ₂ →
      (σ₁.stops 0 = some .test → σ₁ = σ.atStop 0 (some .test)) → step σ₁ σ₂)
    (hk : σ.stops 0 = none) (hj : σ.server.joined = false) :
    ∃ σ', Runs (· = Lifecycle.init) step σ' ∧
      σ'.server = { σ.server with running := false, joined := true } ∧
      σ'.starting = σ.starting ∧ σ'.stops 0 = none ∧ σ'.up = false ∧
      σ'.threads = σ.threads ++ [.release σ.server.reader] ++ [.release σ.server.writer] ∧
      σ'.sockets = σ.sockets ++ (σ.server.serversock.map Entry.release).toList := by
  have hcall := hrun.next (hstep _ _ (.call hk) fun h => by rw [hk] at h; cases h)
  have htest := hcall.next (hstep _ _ (.test rfl hj) fun _ => rfl)
  have hreader := htest.next (hstep _ _ (.joinReader rfl) fun h => by cases h)
  have hwriter := hreader.next (hstep _ _ (.joinWriter rfl) fun h => by cases h)
  have hdestroy := hwriter.next (hstep _ _ (.destroy rfl) fun h => by cases h)
  refine ⟨_, hdestroy, rfl, rfl, rfl, ?_, rfl, rfl⟩
  show (if σ.up = true then false else σ.up) = false
  cases σ.up <;> rfl

end Whole

/-- A start that listens and the stop that follows. -/
theorem lifecycle_tidy_stopped :
    ∃ σ : Lifecycle, σ.sockets = [.acquire 1, .release 1] ∧ Tidy σ := by
  have hup := starts (Provided LifeStep Timely) (.start rfl)
    (fun _ _ hs => ⟨.inl hs, hs.timely⟩) true rfl rfl rfl (by decide) (by decide)
  obtain ⟨σ, hrun, -, -, -, -, -, hsockets⟩ := stops _ hup
    (fun σ₁ σ₂ hs hat => ⟨.inr ⟨0, hs⟩, hs.timely fun htest _ => by
      rw [hat htest]
      exact ⟨rfl, rfl, ⟨by decide, by decide⟩, .inl rfl⟩⟩) rfl rfl
  exact ⟨σ, hsockets, lifecycle_tidy hrun⟩

/-- A server that was never started is stopped: threads are joined that nobody
created.  A server listens, is stopped, is started without listening and stopped
again: its first socket object is destroyed twice. -/
theorem lifecycle_untidy :
    (∃ σ, LifeRun σ ∧ ¬ Along Settles [] σ.threads) ∧
      ∃ σ, LifeRun σ ∧ ¬ Along Settles [] σ.sockets := by
  have hstart : ∀ σ σ', StartStep σ σ' → LifeStep σ σ' := fun _ _ hs => .inl hs
  constructor
  · obtain ⟨σ, hrun, -, -, -, -, hthreads, -⟩ :=
      stops LifeStep (.start rfl) (fun _ _ hs _ => .inr ⟨0, hs⟩) rfl rfl
    refine ⟨σ, hrun, ?_⟩
    rw [hthreads]
    exact fun h => List.not_mem_nil h.1
  · have hup := starts LifeStep (.start rfl) hstart true rfl rfl rfl (by decide)
      (by decide)
    obtain ⟨σ, hdown, hserver, hs, hk, hu, hthreads, hsockets⟩ :=
      stops _ hup (fun _ _ hs _ => .inr ⟨0, hs⟩) rfl rfl
    have hquiet := starts _ hdown hstart false hs hu (by rw [hsockets]; decide)
      (by rw [hthreads]; decide) (by rw [hthreads]; decide)
    obtain ⟨σ', hdown', -, -, -, -, -, hsockets'⟩ :=
      stops _ hquiet (fun _ _ hs _ => .inr ⟨0, hs⟩) hk rfl
    refine ⟨σ', hdown', ?_⟩
    rw [hsockets', hsockets, hserver]
    rintro ⟨-, -, hsecond, -⟩
    have hheld : 1 ∈ held ([.acquire 1, .release 1] : List (Entry SockObj)) := hsecond
    revert hheld
    decide

end TapCfg.Daemon
