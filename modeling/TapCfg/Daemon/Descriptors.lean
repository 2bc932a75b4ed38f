/-
  Daemon/Descriptors.lean --- who closes an accepted connection.

  Source: src/daemon/tapserver.c, lines 81-121, 259-325, 362-380.

  Nobody does.  The listening socket is closed when the threads have been
  joined; `remove_client` forgets a descriptor without closing it, and
  `tapserver_destroy` forgets the whole table.  `Owned` says what is expected of
  the descriptors; it holds in every run in which neither happens to an accepted
  connection (`descriptors_owned`).

  `Shift` lists what one step inside a section can do to the content of the
  mutex.
-/
import TapCfg.Daemon.Admission

set_option autoImplicit false

namespace TapCfg.Daemon

open TapCfg.Foundation
open Prog

/-! ## One step inside a section -/

/-- The accesses a section makes. -/
inductive Tame : (World → Except Fault World) → Prop where
  | load : Tame .ok
  | mark (e : Event) (he : e.onTable = false) : Tame fun w => .ok (w.log [e])
  | remove (i : Nat) : Tame (removeClient · i)

theorem clienttabAt_tame (i : Nat) : Accesses Tame (clienttabAt i) := by
  refine ⟨.load, fun w => ?_⟩
  beta_reduce
  rw [ret_bind]
  split <;> trivial

theorem sendData_tame (fuel : Nat) (s : Fd) (buf : List Byte) (len sent : Nat) :
    Accesses Tame (sendData fuel s buf len sent) := by
  induction fuel generalizing sent with
  | zero => trivial
  | succ fuel ih =>
      rw [sendData]
      split
      · intro answer
        cases answer with
        | none => trivial
        | some count => exact ih (sent + count)
      · trivial

theorem sendRecord_tame (fuel : Nat) (s : Fd) (sizebuf buf : List Byte) (len : Nat) :
    Accesses Tame (sendRecord fuel s sizebuf buf len) := by
  refine (sendData_tame fuel s sizebuf 2 0).bind fun tmp => ?_
  split
  · exact sendData_tame fuel s buf len 0
  · trivial

theorem recvData_tame (fuel : Nat) (s : Fd) (buf : List Byte) (len recvd : Nat) :
    Accesses Tame (recvData fuel s buf len recvd) := by
  induction fuel generalizing buf recvd with
  | zero => trivial
  | succ fuel ih =>
      rw [recvData]
      split
      · intro answer
        cases answer with
        | none => trivial
        | some chunk => exact ih _ _
      · trivial

theorem recvRecord_tame (fuel : Nat) (s : Fd) (buf : List Byte) :
    Accesses Tame (recvRecord fuel s buf) := by
  refine (recvData_tame fuel s [0, 0] 2 0).bind fun r => ?_
  dsimp only
  split
  · split
    · refine (recvData_tame fuel s buf _ 0).bind fun _ => ?_
      trivial
    · trivial
  · trivial

theorem relay_tame (fuel : Nat) (skip : Nat → Bool) (sizebuf buf : List Byte) (len j : Nat) :
    Accesses Tame (relay fuel skip sizebuf buf len j) := by
  induction fuel generalizing j with
  | zero => trivial
  | succ fuel ih =>
      refine Accesses.bind ⟨.load, fun _ => trivial⟩ fun w => ?_
      split
      · split
        · exact ih (j + 1)
        · refine Accesses.bind ((clienttabAt_tame j).bind fun fd => ?_) fun _ => ih (j + 1)
          refine (sendRecord_tame fuel fd sizebuf buf len).bind fun tmp => ?_
          split
          · exact ⟨.remove j, fun _ => trivial⟩
          · trivial
      · trivial

theorem serviceClient_tame (fuel : Nat) (tapcfg : Bool) (ready : List Fd) (i : Nat)
    (buf : List Byte) : Accesses Tame (serviceClient fuel tapcfg ready i buf) := by
  refine (clienttabAt_tame i).bind fun fd => ?_
  split
  · refine Accesses.bind ⟨.mark _ rfl, fun _ => trivial⟩ fun _ => ?_
    refine (recvRecord_tame fuel fd buf).bind fun r => ?_
    split
    · exact ⟨.remove i, fun _ => trivial⟩
    · split
      · refine Accesses.bind (fun _ => trivial) fun (answer : Int) => ?_
        split <;> trivial
      · refine Accesses.bind ⟨.mark _ rfl, fun _ => trivial⟩ fun _ => ?_
        refine (relay_tame fuel _ _ _ _ _).bind fun _ => ?_
        trivial
  · trivial

theorem servicePass_tame (fuel : Nat) (tapcfg : Bool) (ready : List Fd) (i : Nat)
    (buf : List Byte) : Accesses Tame (servicePass fuel tapcfg ready i buf) := by
  induction fuel generalizing i buf with
  | zero => trivial
  | succ fuel ih =>
      refine Accesses.bind ⟨.load, fun _ => trivial⟩ fun w => ?_
      split
      · refine (serviceClient_tame fuel tapcfg ready i buf).bind fun r => ?_
        obtain ⟨flow, buf'⟩ := r
        cases flow with
        | exit => trivial
        | next => exact ih (i + 1) buf'
      · trivial

/-- What one step inside a section can do to the content of the mutex. -/
inductive Shift (w : World) : World → Prop where
  | stay : Shift w w
  | log (e : Event) (he : e.onTable = false) : Shift w (w.log [e])
  | remove {i : Nat} {fd : Fd} {w' : World} (hi : w.live[i]? = some fd)
      (hr : removeClient w i = .ok w') : Shift w w'

theorem Shift.shrunk {w w' : World} (hw : w.Wf) (h : Shift w w') : Shrunk w w' := by
  cases h with
  | stay => exact .refl hw
  | log e he => exact (Shrunk.refl hw).log (List.forall_mem_singleton.mpr he)
  | remove hi hr => exact (Shrunk.refl hw).remove hi hr

theorem Accesses.shift {L : Allows} {α : Type} {p p' : Io α} {w w' : World} (hw : w.Wf)
    (hp : Accesses Tame p) (hs : Prog.Step (osEnv L) (p, w) (p', w')) :
    Accesses Tame p' ∧ Shift w w' := by
  obtain ⟨hp', hcase⟩ := hp.step hs
  refine ⟨hp', ?_⟩
  rcases hcase with rfl | ⟨f, hf, hok⟩ | ⟨c, a, -, -, rfl⟩
  · exact .stay
  · cases hf with
    | load =>
        cases hok
        exact .stay
    | mark e he =>
        cases hok
        exact .log e he
    | remove i =>
        by_cases hlt : (i : Int) < w.table.clients
        · exact .remove (List.getElem?_eq_getElem (hw.table.lt_clients.mp hlt)) hok
        · simp only [removeClient, if_neg hlt] at hok
          cases hok
  · exact .log _ (by cases c <;> rfl)

/-- The rest of a section makes such accesses only. -/
structure Tamed (σ : Sys) : Prop where
  reader : ∀ p, σ.reader = .inside p → Accesses Tame p
  writer : ∀ ready p, σ.writer = .inside ready p → Accesses Tame p

section Runs

variable {L : Allows} {σ σ' : Sys}

theorem Reachable.wf (h : Reachable L σ) : σ.world.Wf := ((admission L).reachable h).2

theorem Reachable.tamed (h : Reachable L σ) : Tamed σ := by
  induction h with
  | init => exact ⟨fun p hp => (by cases hp), fun ready p hp => (by cases hp)⟩
  | @step σ σ' hσ hs ih =>
      cases hs with
      | outside h =>
          obtain ⟨hr, hw, -, -⟩ := h.sections
          exact ⟨fun p hp => ih.reader p ((hr p).mp hp),
            fun ready p hp => ih.writer ready p ((hw ready p).mp hp)⟩
      | locked hf h =>
          cases h with
          | addClient => exact ⟨ih.reader, ih.writer⟩
          | _ => exact ⟨ih.reader, fun ready p hp => (by cases hp)⟩
      | readerLock fuel _ _ =>
          refine ⟨fun p hp => ?_, ih.writer⟩
          cases hp
          exact relay_tame fuel _ _ _ _ _
      | readerRun hr h =>
          refine ⟨fun p hp => ?_, ih.writer⟩
          cases hp
          exact (Accesses.shift hσ.wf (ih.reader _ hr) h).1
      | readerUnlock => exact ⟨fun p hp => (by cases hp), ih.writer⟩
      | writerLock fuel _ _ _ =>
          refine ⟨ih.reader, fun ready p hp => ?_⟩
          cases hp
          exact servicePass_tame fuel _ _ _ _
      | writerRun hw h =>
          refine ⟨ih.reader, fun ready p hp => ?_⟩
          cases hp
          exact (Accesses.shift hσ.wf (ih.writer _ _ hw) h).1
      | writerUnlock | writerClear | writerLeave =>
          exact ⟨ih.reader, fun ready p hp => (by cases hp)⟩

/-- A step of the reader inside its section. -/
theorem Reachable.readerShift (h : Reachable L σ) {p p' : Io Unit} {w : World}
    (hr : σ.reader = .inside p) (hs : Prog.Step (osEnv L) (p, σ.world) (p', w)) :
    Shift σ.world w :=
  (Accesses.shift h.wf (h.tamed.reader p hr) hs).2

/-- A step of the writer inside its section. -/
theorem Reachable.writerShift (h : Reachable L σ) {ready : List Fd} {p p' : Io Flow} {w : World}
    (hw : σ.writer = .inside ready p) (hs : Prog.Step (osEnv L) (p, σ.world) (p', w)) :
    Shift σ.world w :=
  (Accesses.shift h.wf (h.tamed.writer ready p hw) hs).2

end Runs

/-! ## Room, at every moment -/

/-- There is room as long as the listening socket may be found ready, and for an
accepted connection; unlike `Admission`, inside the sections too. -/
structure Room (σ : Sys) : Prop where
  watched : σ.server.listening = true → σ.server.serverFd ∈ σ.writer.watched →
    σ.server.table.clients < σ.server.table.maxClients
  adding : ∀ fd, σ.writer = .adding fd → σ.server.table.clients < σ.server.table.maxClients

namespace Room

variable {L : Allows} {σ σ' : Sys}

/-- Room is not lost while the table and the set only shrink. -/
theorem shrink (h : Room σ) (hσ : σ.world.Wf) (hs : Shrunk σ.world σ'.world)
    (hlisten : σ'.server.listening = σ.server.listening)
    (hfd : σ'.server.serverFd = σ.server.serverFd)
    (hwatched : σ'.writer.watched ⊆ σ.writer.watched)
    (hadding : ∀ fd, σ'.writer = .adding fd → σ.writer = .adding fd) : Room σ' where
  watched hl hmem := hs.lt_max hσ (h.watched (hlisten ▸ hl) (hwatched (hfd ▸ hmem)))
  adding fd hw := hs.lt_max hσ (h.adding fd (hadding fd hw))

theorem outside (h : Room σ) (hσ : σ.world.Wf) (hs : Outside σ σ') : Room σ' := by
  cases hs with
  | startListening | startQuiet => exact ⟨fun _ hmem => (by cases hmem), fun fd hw => (by cases hw)⟩
  | @accept ready fd hw hy _ _ =>
      have hroom : σ.server.table.clients < σ.server.table.maxClients := by
        apply h.watched hy.1
        rw [hw]
        exact hy.2
      exact ⟨fun _ _ => hroom, fun _ _ => hroom⟩
  | @select rfds ready nfds hw hready =>
      refine h.shrink hσ (Shrunk.refl hσ) rfl rfl ?_ (by simp)
      rw [hw]
      exact hready
  | startFailed | readNothing | readFrame | readerCheck | stop | destroy =>
      exact h.shrink hσ (Shrunk.refl hσ) rfl rfl (List.Subset.refl _) fun _ => id
  | join | selectFailed | noAccept | acceptFailed =>
      exact h.shrink hσ (Shrunk.refl hσ) rfl rfl (List.nil_subset _) (by simp)
  | writerCheck hw =>
      cases hrun : σ.server.running <;>
        exact h.shrink hσ (Shrunk.refl hσ) rfl rfl (by simp [WriterPc.watched]) (by simp)

end Room

theorem Reachable.room {L : Allows} {σ : Sys} (h : Reachable L σ) : Room σ := by
  induction h with
  | init => exact ⟨fun hl => (by cases hl), fun fd hw => (by cases hw)⟩
  | @step σ σ' hσ hs ih =>
      have hwf := hσ.wf
      have hmark : ∀ e : Event, e.onTable = false → Shrunk σ.world (σ.world.log [e]) :=
        fun e he => (Shift.log e he).shrunk hwf
      cases hs with
      | outside h => exact ih.outside hwf h
      | locked hf h =>
          have hkept := (admission L).kept hσ
          have hG : Admission _ := ((admission L).kept (hσ.step (.locked hf h))).free
            (h.free hf hkept.readerOk).1
          exact ⟨hG.room, fun fd hw => (hG.adding fd hw).1⟩
      | readerLock => exact ih.shrink hwf (hmark _ rfl) rfl rfl (List.Subset.refl _) fun _ => id
      | readerRun hr h =>
          exact ih.shrink hwf ((hσ.readerShift hr h).shrunk hwf) rfl rfl (List.Subset.refl _)
            fun _ => id
      | readerUnlock =>
          exact ih.shrink hwf (Shrunk.refl hwf) rfl rfl (List.Subset.refl _) fun _ => id
      | writerLock fuel hf hw hbuf =>
          refine ih.shrink hwf (hmark _ rfl) rfl rfl ?_ (by simp)
          rw [hw]
          exact List.Subset.refl _
      | writerRun hw h =>
          refine ih.shrink hwf ((hσ.writerShift hw h).shrunk hwf) rfl rfl ?_ (by simp)
          rw [hw]
          exact List.Subset.refl _
      | writerUnlock hw =>
          refine ih.shrink hwf (Shrunk.refl hwf) rfl rfl ?_ (by simp)
          rw [hw]
          exact List.Subset.refl _
      | writerClear | writerLeave =>
          exact ih.shrink hwf (Shrunk.refl hwf) rfl rfl (List.nil_subset _) (by simp)

/-! ## The ledger of the descriptors -/

/-- What is expected of the descriptors at every moment. -/
structure Owned (σ : Sys) : Prop where
  /-- an accepted connection is in the table, or on its way there, or was closed
  exactly once -/
  accounted : ∀ τ₁ fd τ₂, σ.fds = τ₁ ++ .accepted fd :: τ₂ →
    (.closed fd ∉ τ₂ ∧ (fd ∈ σ.live ∨ σ.writer = .adding fd)) ∨
      (life fd (τ₂.map FdEvent.entry)).count (.release fd) = 1
  /-- the clients and the listening socket -/
  bounded : ((openFds σ.fds).length : Int) ≤ σ.server.table.maxClients + 1
  /-- nothing is left open -/
  released : σ.alive = false → openFds σ.fds = []

/-- The step neither takes out an accepted connection nor destroys a server that
has accepted one. -/
structure Careful (σ σ' : Sys) : Prop where
  remove : ∀ fd, σ'.hist = σ.hist ++ [.removed fd] → .accepted fd ∉ σ.fds
  destroy : σ.alive = true → σ'.alive = false → ∀ fd, .accepted fd ∉ σ.fds

/-- The runs of careful steps. -/
inductive CarefulRun (L : Allows) : Sys → Prop where
  | init (tapcfg : Bool) : CarefulRun L (Sys.init tapcfg)
  | step {σ σ' : Sys} (h : CarefulRun L σ) (hs : Step L σ σ') (hc : Careful σ σ') :
      CarefulRun L σ'

theorem CarefulRun.reachable {L : Allows} {σ : Sys} (h : CarefulRun L σ) : Reachable L σ := by
  induction h with
  | init tapcfg => exact .init tapcfg
  | step _ hs _ ih => exact ih.step hs

/-- What a careful run keeps. -/
structure Ledgered (σ : Sys) : Prop where
  fresh : Along Fresh [] (σ.fds.map FdEvent.entry)
  /-- an accepted connection is never closed -/
  lasting : ∀ τ₁ fd τ₂, σ.fds = τ₁ ++ .accepted fd :: τ₂ → .closed fd ∉ τ₂
  placed : ∀ fd, .accepted fd ∈ σ.fds → fd ∈ σ.live ∨ σ.writer = .adding fd
  opened : ∀ fd ∈ openFds σ.fds, .accepted fd ∈ σ.fds ∨
    (σ.writer ≠ .off ∧ σ.server.serversock = some fd)
  apart : ∀ fd, σ.server.serversock = some fd → .accepted fd ∉ σ.fds
  socket : σ.writer ≠ .off → σ.server.listening = true →
    σ.server.serversock = some σ.server.serverFd
  gone : σ.alive = false → σ.reader = .off ∧ σ.writer = .off ∧ ∀ fd, .accepted fd ∉ σ.fds

theorem openFds_acquire {l : List FdEvent} {e : FdEvent} {fd : Fd} (he : e.entry = .acquire fd) :
    openFds (l ++ [e]) = openFds l ++ [fd] := by
  rw [openFds, List.map_append, List.map_singleton, he]
  exact held_acquire _ fd

theorem openFds_closed (l : List FdEvent) (fd : Fd) :
    openFds (l ++ [.closed fd]) = (openFds l).erase fd := by
  rw [openFds, List.map_append, List.map_singleton]
  exact held_release _ fd

namespace Ledgered

variable {L : Allows} {σ σ' : Sys}

theorem init (tapcfg : Bool) : Ledgered (Sys.init tapcfg) where
  fresh := trivial
  lasting τ₁ fd τ₂ h := by
    have hlen := congrArg List.length h
    simp [Sys.init] at hlen
  placed fd h := by cases h
  opened fd h := by cases h
  apart fd h := by cases h
  socket h := (h rfl).elim
  gone h := by cases h

/-- An accepted connection is open. -/
theorem isOpen (h : Ledgered σ) {fd : Fd} (hfd : .accepted fd ∈ σ.fds) : fd ∈ openFds σ.fds := by
  obtain ⟨τ₁, τ₂, hs⟩ := List.append_of_mem hfd
  have hlast := h.lasting τ₁ fd τ₂ hs
  have hentry : .release fd ∉ τ₂.map FdEvent.entry := by
    intro hmem
    obtain ⟨e, he, heq⟩ := List.mem_map.mp hmem
    cases e <;> cases heq
    exact hlast he
  have hhead : fd ∈ held ((τ₁.map FdEvent.entry) ++ [.acquire fd]) := by simp
  have hopen := mem_held_append hhead hentry
  rw [List.append_assoc, List.singleton_append] at hopen
  rw [openFds, hs, List.map_append, List.map_cons]
  exact hopen

theorem alive_of_writer (h : Ledgered σ) (hw : σ.writer ≠ .off) : σ.alive = true := by
  cases halive : σ.alive with
  | true => rfl
  | false => exact (hw (h.gone halive).2.1).elim

theorem alive_of_reader (h : Ledgered σ) (hr : σ.reader ≠ .off) : σ.alive = true := by
  cases halive : σ.alive with
  | true => rfl
  | false => exact (hr (h.gone halive).1).elim

/-- A step that opens and closes nothing and loses no accepted connection. -/
theorem quiet (h : Ledgered σ) (hfds : σ'.fds = σ.fds)
    (hplaced : ∀ fd, .accepted fd ∈ σ.fds → fd ∈ σ.live ∨ σ.writer = .adding fd →
      fd ∈ σ'.live ∨ σ'.writer = .adding fd)
    (hopened : σ.writer ≠ .off → σ'.writer ≠ .off)
    (hsock : σ'.server.serversock = σ.server.serversock)
    (hsocket : σ'.writer ≠ .off → σ'.server.listening = true → σ.writer ≠ .off ∧
      σ.server.listening = true ∧ σ'.server.serverFd = σ.server.serverFd)
    (halive : σ'.alive = true) : Ledgered σ' where
  fresh := by rw [hfds]; exact h.fresh
  lasting := by rw [hfds]; exact h.lasting
  placed fd hfd := by
    rw [hfds] at hfd
    exact hplaced fd hfd (h.placed fd hfd)
  opened fd hfd := by
    rw [hfds] at hfd ⊢
    exact (h.opened fd hfd).imp_right fun ⟨hw, hs⟩ => ⟨hopened hw, hsock.trans hs⟩
  apart fd hfd := by
    rw [hfds]
    exact h.apart fd (hsock ▸ hfd)
  socket hw hl := by
    obtain ⟨hw', hl', hfd⟩ := hsocket hw hl
    rw [hsock, hfd]
    exact h.socket hw' hl'
  gone hdead := by rw [halive] at hdead; cases hdead

/-- The ledger after one more entry, that closes no accepted connection. -/
theorem lasting_concat (h : Ledgered σ) {e : FdEvent}
    (he : ∀ fd, e = .closed fd → .accepted fd ∉ σ.fds) :
    ∀ τ₁ fd τ₂, σ.fds ++ [e] = τ₁ ++ .accepted fd :: τ₂ → .closed fd ∉ τ₂ := by
  intro τ₁ fd τ₂ hs hmem
  rcases List.eq_nil_or_concat τ₂ with rfl | ⟨τ, e', rfl⟩
  · cases hmem
  · rw [List.concat_eq_append] at hs hmem
    have hsplit : σ.fds ++ [e] = (τ₁ ++ .accepted fd :: τ) ++ [e'] := by rw [hs]; simp
    obtain ⟨hbefore, hlast⟩ := List.append_inj' hsplit rfl
    rcases List.mem_append.mp hmem with hmem | hmem
    · exact h.lasting τ₁ fd τ hbefore hmem
    · rw [List.mem_singleton] at hmem
      have heq : e = .closed fd := (List.singleton_inj.mp hlast).trans hmem.symm
      apply he fd heq
      rw [hbefore]
      simp

/-- The entries after the listening socket or a connection was opened. -/
theorem fresh_concat (h : Ledgered σ) {e : FdEvent} (he : Fresh (σ.fds.map FdEvent.entry) e.entry) :
    Along Fresh [] ((σ.fds ++ [e]).map FdEvent.entry) := by
  rw [List.map_append, List.map_singleton]
  exact along_append.mpr ⟨h.fresh, along_singleton.mpr he⟩

/-- While no writer runs, what is open has been accepted. -/
theorem opened_off (h : Ledgered σ) (hw : σ.writer = .off) :
    ∀ fd ∈ openFds σ.fds, .accepted fd ∈ σ.fds := by
  intro fd hmem
  refine (h.opened fd hmem).resolve_right ?_
  rintro ⟨hon, -⟩
  exact hon hw

/-- What is not on its way to the table is in it. -/
theorem placed_live (h : Ledgered σ) (hw : ∀ fd, σ.writer ≠ .adding fd) :
    ∀ fd, .accepted fd ∈ σ.fds → fd ∈ σ.live :=
  fun fd hmem => (h.placed fd hmem).resolve_right (hw fd)

/-- The listening socket is opened. -/
theorem listens (h : Ledgered σ) {fd : Fd} {reader : ReaderPc} (hw : σ.writer = .off)
    (ha : σ.alive = true) (hnew : fd ∉ openFds σ.fds) :
    Ledgered { σ with
      server := { σ.server with
        serversock := some fd, serverFd := fd, listening := true, running := true,
        joined := false }
      reader := reader
      writer := .top
      fds := σ.fds ++ [.listening fd] } := by
  have hold : ∀ fd', .accepted fd' ∈ σ.fds ++ [.listening fd] → .accepted fd' ∈ σ.fds :=
    fun fd' hmem => by simpa using hmem
  refine ⟨h.fresh_concat hnew, h.lasting_concat (by simp), fun fd' hmem => ?_,
    fun fd' hmem => ?_, fun fd' heq hmem => ?_, fun _ _ => rfl, fun hdead => ?_⟩
  · exact .inl (h.placed_live (by simp [hw]) fd' (hold fd' hmem))
  · have hmem' : fd' ∈ openFds (σ.fds ++ [.listening fd]) := hmem
    rw [openFds_acquire rfl] at hmem'
    rcases List.mem_append.mp hmem' with hmem' | hmem'
    · exact .inl (List.mem_append_left _ (h.opened_off hw fd' hmem'))
    · rw [List.mem_singleton.mp hmem']
      exact .inr ⟨by simp, rfl⟩
  · cases heq
    exact hnew (h.isOpen (hold fd hmem))
  · cases ha.symm.trans hdead

/-- A connection is accepted. -/
theorem accepts (h : Ledgered σ) {fd : Fd} (hwon : σ.writer ≠ .off)
    (hidle : ∀ fd, σ.writer ≠ .adding fd) (hlistening : σ.server.listening = true)
    (hne : fd ≠ σ.server.serverFd) (hnew : fd ∉ openFds σ.fds) :
    Ledgered { σ with writer := .adding fd, fds := σ.fds ++ [.accepted fd] } := by
  refine ⟨h.fresh_concat hnew, h.lasting_concat (by simp), fun fd' hmem => ?_,
    fun fd' hmem => ?_, fun fd' heq hmem => ?_, fun _ hl => h.socket hwon hl,
    fun hdead => (by cases (h.alive_of_writer hwon).symm.trans hdead)⟩
  · rcases List.mem_append.mp hmem with hmem | hmem
    · exact .inl (h.placed_live hidle fd' hmem)
    · cases List.mem_singleton.mp hmem
      exact .inr rfl
  · have hmem' : fd' ∈ openFds (σ.fds ++ [.accepted fd]) := hmem
    rw [openFds_acquire rfl] at hmem'
    rcases List.mem_append.mp hmem' with hmem' | hmem'
    · exact (h.opened fd' hmem').imp (List.mem_append_left _) fun ⟨_, hs⟩ => ⟨by simp, hs⟩
    · rw [List.mem_singleton.mp hmem']
      exact .inl (by simp)
  · rcases List.mem_append.mp hmem with hmem | hmem
    · exact h.apart fd' heq hmem
    · cases List.mem_singleton.mp hmem
      have heq' : σ.server.serversock = some fd := heq
      rw [h.socket hwon hlistening] at heq'
      exact hne (Option.some.inj heq').symm

/-- The threads are joined, and the listening socket closed. -/
theorem joins (h : Ledgered σ) (hidle : ∀ fd, σ.writer ≠ .adding fd) (halive : σ.alive = true) :
    Ledgered { σ with
      reader := .off
      writer := .off
      fds := σ.fds ++ (σ.server.serversock.map FdEvent.closed).toList } := by
  cases hsock : σ.server.serversock with
  | none =>
      simp only [Option.map_none, Option.toList_none, List.append_nil]
      refine ⟨h.fresh, h.lasting, fun fd hmem => .inl (h.placed_live hidle fd hmem),
        fun fd hmem => ?_, fun fd heq => ?_, fun hoff => (hoff rfl).elim,
        fun hdead => (by cases halive.symm.trans hdead)⟩
      · refine .inl ((h.opened fd hmem).resolve_right ?_)
        rintro ⟨-, heq⟩
        cases hsock.symm.trans heq
      · cases hsock.symm.trans heq
  | some fd =>
      simp only [Option.map_some, Option.toList_some]
      have happ : .accepted fd ∉ σ.fds := h.apart fd hsock
      have hold : ∀ fd', .accepted fd' ∈ σ.fds ++ [.closed fd] → .accepted fd' ∈ σ.fds :=
        fun fd' hmem => by simpa using hmem
      refine ⟨h.fresh_concat trivial, h.lasting_concat ?_, fun fd' hmem => ?_,
        fun fd' hmem => ?_, fun fd' heq hmem => h.apart fd' heq (hold fd' hmem),
        fun hoff => (hoff rfl).elim, fun hdead => (by cases halive.symm.trans hdead)⟩
      · intro fd' heq
        cases heq
        exact happ
      · exact .inl (h.placed_live hidle fd' (hold fd' hmem))
      · have hmem' : fd' ∈ openFds (σ.fds ++ [.closed fd]) := hmem
        rw [openFds_closed] at hmem'
        obtain ⟨hne, hopen⟩ := (held_nodup h.fresh).mem_erase_iff.mp hmem'
        refine .inl (List.mem_append_left _ ((h.opened fd' hopen).resolve_right ?_))
        rintro ⟨-, heq⟩
        exact hne (Option.some.inj (heq.symm.trans hsock))

theorem outside (h : Ledgered σ) (hc : Careful σ σ') (hs : Outside σ σ') : Ledgered σ' := by
  cases hs with
  | startListening hr hw ha hfd hnew => exact h.listens hw ha hnew
  | startQuiet hr hw ha =>
      exact ⟨h.fresh, h.lasting, fun fd hmem => .inl (h.placed_live (by simp [hw]) fd hmem),
        fun fd hmem => .inl (h.opened_off hw fd hmem), h.apart, fun _ hl => (by cases hl),
        fun hdead => (by cases ha.symm.trans hdead)⟩
  | startFailed hr hw ha =>
      exact ⟨h.fresh, h.lasting, h.placed, fun fd hmem => .inl (h.opened_off hw fd hmem),
        fun fd heq => (by cases heq), fun hoff => (hoff hw).elim,
        fun hdead => (by cases ha.symm.trans hdead)⟩
  | readNothing hr | readFrame hr | readerCheck hr =>
      exact h.quiet rfl (fun _ _ => id) id rfl (fun hw hl => ⟨hw, hl, rfl⟩)
        (h.alive_of_reader (by simp [hr]))
  | stop hr _ =>
      exact h.quiet rfl (fun _ _ => id) id rfl (fun hw hl => ⟨hw, hl, rfl⟩)
        (h.alive_of_reader hr)
  | selectFailed hw | select hw _ | noAccept hw _ | acceptFailed hw _ =>
      exact h.quiet rfl (fun _ _ hp => hp.imp_right (by simp [hw])) (by simp) rfl
        (fun _ hl => ⟨by simp [hw], hl, rfl⟩) (h.alive_of_writer (by simp [hw]))
  | writerCheck hw =>
      refine h.quiet rfl (fun _ _ hp => hp.imp_right (by simp [hw])) (fun _ => ?_) rfl
        (fun _ hl => ⟨by simp [hw], hl, rfl⟩) (h.alive_of_writer (by simp [hw]))
      cases σ.server.running <;> simp
  | accept hw hy hne hnew =>
      exact h.accepts (by simp [hw]) (by simp [hw]) hy.1 hne hnew
  | join hj hr hw => exact h.joins (by simp [hw]) (h.alive_of_reader (by simp [hr]))
  | destroy hr hw ha =>
      exact ⟨h.fresh, h.lasting, h.placed, h.opened, h.apart, h.socket,
        fun _ => ⟨hr, hw, hc.destroy ha rfl⟩⟩

theorem locked (h : Ledgered σ) (hσ : Reachable L σ) (hf : σ.Free) (hs : Locked σ σ') :
    Ledgered σ' := by
  have hnot := writer_not_faulted (hσ.step (.locked hf hs))
  cases hs with
  | @addClient fd answer w hr hw ha _ hadd =>
      have hgrow : ∀ fd' ∈ σ.live, fd' ∈ w.live := by
        intro fd' hmem
        rcases addClient_spec hσ.wf.table hadd with ⟨-, rfl, -⟩ | ⟨-, -, -, hlive, -⟩
        · exact hmem
        · rw [hlive]
          exact List.mem_append_left _ hmem
      exact h.quiet rfl (fun fd' _ hp => hp.imp_left (hgrow fd')) id rfl
        (fun hoff hl => ⟨hoff, hl, rfl⟩) ha
  | buildEmpty hw _ | build hw _ _ =>
      exact h.quiet rfl (fun _ _ hp => hp.imp_right (by simp [hw])) (by simp) rfl
        (fun _ hl => ⟨by simp [hw], hl, rfl⟩) (h.alive_of_writer (by simp [hw]))
  | buildFault | addFault => exact (hnot _ rfl).elim
  | @add fd answer w hw _ hadd =>
      have hroom := hσ.room.adding fd hw
      refine h.quiet rfl (fun fd' _ hp => ?_) (by simp) rfl (fun _ hl => ⟨by simp [hw], hl, rfl⟩)
        (h.alive_of_writer (by simp [hw]))
      rcases addClient_spec hσ.wf.table hadd with ⟨-, -, hfull⟩ | ⟨-, -, -, hlive, -⟩
      · exact (Int.not_le.mpr hroom hfull).elim
      · left
        show fd' ∈ w.live
        rw [hlive]
        rcases hp with hp | hp
        · exact List.mem_append_left _ hp
        · rw [hw] at hp
          cases hp
          exact List.mem_append_right _ (List.mem_singleton.mpr rfl)

/-- A step inside a section. -/
theorem shift (h : Ledgered σ) (hσ : σ.world.Wf) (hc : Careful σ σ')
    (hs : Shift σ.world σ'.world) (hfds : σ'.fds = σ.fds)
    (hadding : ∀ fd, σ.writer = .adding fd → σ'.writer = .adding fd)
    (hopened : σ.writer ≠ .off → σ'.writer ≠ .off)
    (hsock : σ'.server.serversock = σ.server.serversock)
    (hsocket : σ'.writer ≠ .off → σ'.server.listening = true → σ.writer ≠ .off ∧
      σ.server.listening = true ∧ σ'.server.serverFd = σ.server.serverFd)
    (halive : σ'.alive = true) : Ledgered σ' := by
  refine h.quiet hfds (fun fd hmem hp => hp.imp ?_ (hadding fd)) hopened hsock hsocket halive
  intro hlive
  generalize hw : σ'.world = w at hs
  have hlive' : σ'.live = w.live := by rw [← hw]; rfl
  rw [hlive']
  cases hs with
  | stay => exact hlive
  | log e he => exact hlive
  | @remove i fd' w' hi hr =>
      have hhist := (removeClient_spec hσ.table hi hr).2.2.1
      have hne : fd ≠ fd' := by
        rintro rfl
        refine hc.remove fd ?_ hmem
        have hhist' : σ'.hist = w.hist := by rw [← hw]; rfl
        rw [hhist', hhist]
        rfl
      rw [(hσ.remove hi hr).2]
      exact (List.mem_erase_of_ne hne).mpr hlive

end Ledgered

theorem CarefulRun.ledgered {L : Allows} {σ : Sys} (h : CarefulRun L σ) : Ledgered σ := by
  induction h with
  | init tapcfg => exact Ledgered.init tapcfg
  | @step σ σ' hrun hs hc ih =>
      have hσ := hrun.reachable
      have hwf := hσ.wf
      cases hs with
      | outside h => exact ih.outside hc h
      | locked hf h => exact ih.locked hσ hf h
      | @readerLock f fuel _ hr =>
          exact ih.shift hwf hc (.log (.relay f) rfl) rfl (fun _ => id) id rfl
            (fun hw hl => ⟨hw, hl, rfl⟩) (ih.alive_of_reader (by simp [hr]))
      | readerRun hr h =>
          exact ih.shift hwf hc (hσ.readerShift hr h) rfl (fun _ => id) id rfl
            (fun hw hl => ⟨hw, hl, rfl⟩) (ih.alive_of_reader (by simp [hr]))
      | readerUnlock hr =>
          exact ih.shift hwf hc .stay rfl (fun _ => id) id rfl
            (fun hw hl => ⟨hw, hl, rfl⟩) (ih.alive_of_reader (by simp [hr]))
      | @writerLock ready buf fuel _ hw _ =>
          exact ih.shift hwf hc (.log (.round ready) rfl) rfl (by simp [hw]) (by simp) rfl
            (fun _ hl => ⟨by simp [hw], hl, rfl⟩) (ih.alive_of_writer (by simp [hw]))
      | writerRun hw h =>
          exact ih.shift hwf hc (hσ.writerShift hw h) rfl (by simp [hw]) (by simp) rfl
            (fun _ hl => ⟨by simp [hw], hl, rfl⟩) (ih.alive_of_writer (by simp [hw]))
      | writerUnlock hw | writerClear hw | writerLeave hw =>
          exact ih.shift hwf hc .stay rfl (by simp [hw]) (by simp) rfl
            (fun _ hl => ⟨by simp [hw], hl, rfl⟩) (ih.alive_of_writer (by simp [hw]))

/-- The connections in the table or on their way there, and the listening socket,
are all that is open. -/
theorem Ledgered.openFds_length {σ : Sys} (h : Ledgered σ) (hw : σ.world.Wf) (hroom : Room σ) :
    ((openFds σ.fds).length : Int) ≤ σ.server.table.maxClients + 1 := by
  have hnodup : (openFds σ.fds).Nodup := held_nodup h.fresh
  have hlen := hw.live_length
  have hmax := hw.table.le_max
  have hsock : σ.server.serversock.toList.length ≤ 1 := by cases σ.server.serversock <;> simp
  have hsub : ∀ extra : List Fd, (∀ fd, σ.writer = .adding fd → fd ∈ extra) →
      (openFds σ.fds).length ≤ (σ.live ++ extra ++ σ.server.serversock.toList).length := by
    intro extra hextra
    apply hnodup.length_le_of_subset
    intro fd hfd
    rcases h.opened fd hfd with hacc | ⟨-, hs⟩
    · refine List.mem_append_left _ (List.mem_append.mpr ?_)
      exact (h.placed fd hacc).imp_right (hextra fd)
    · exact List.mem_append_right _ (by simp [hs])
  by_cases hadd : ∃ fd, σ.writer = .adding fd
  · obtain ⟨fd, hfd⟩ := hadd
    have hlt := hroom.adding fd hfd
    have hle := hsub [fd] fun fd' hfd' => by
      rw [hfd] at hfd'
      cases hfd'
      exact List.mem_singleton.mpr rfl
    simp only [List.length_append, List.length_singleton] at hle
    have hlive : (σ.live.length : Int) = σ.server.table.clients := hlen
    omega
  · have hle := hsub [] fun fd hfd => (hadd ⟨fd, hfd⟩).elim
    simp only [List.length_append, List.length_nil] at hle
    have hlive : (σ.live.length : Int) = σ.server.table.clients := hlen
    have hmax' : σ.server.table.clients ≤ σ.server.table.maxClients := hmax
    omega

/-- In every run that takes out no accepted connection and destroys no server
that has accepted one: every accepted connection is accounted for, no more is
open than the table and the listening socket, and nothing after the end. -/
theorem descriptors_owned {L : Allows} {σ : Sys} (h : CarefulRun L σ) : Owned σ where
  accounted τ₁ fd τ₂ hs := by
    have hl := h.ledgered
    refine .inl ⟨hl.lasting τ₁ fd τ₂ hs, hl.placed fd ?_⟩
    rw [hs]
    simp
  bounded := h.ledgered.openFds_length h.reachable.wf h.reachable.room
  released hdead := by
    have hl := h.ledgered
    obtain ⟨-, hoff, hnone⟩ := hl.gone hdead
    rw [List.eq_nil_iff_forall_not_mem]
    intro fd hfd
    rcases hl.opened fd hfd with hacc | ⟨hon, -⟩
    · exact hnone fd hacc
    · exact hon hoff

/-! ## Runs that are careful, and one that is not -/

theorem Shift.hist_grows {w w' : World} (hw : w.Wf) (h : Shift w w') : w.hist <+: w'.hist := by
  cases h with
  | stay => exact List.prefix_refl _
  | log e he => exact List.prefix_append _ _
  | remove hi hr =>
      rw [(removeClient_spec hw.table hi hr).2.2.1]
      exact List.prefix_append _ _

/-- The history only grows, and a server is not destroyed twice. -/
theorem Reachable.grows {L : Allows} {σ σ' : Sys} (h : Reachable L σ) (hs : Step L σ σ') :
    σ.hist <+: σ'.hist ∧ (σ'.alive = true → σ.alive = true) := by
  have hwf := h.wf
  cases hs with
  | outside ho =>
      have hhist : σ'.hist = σ.hist := congrArg World.hist ho.sections.2.2.2
      rw [hhist]
      refine ⟨List.prefix_refl _, ?_⟩
      cases ho with
      | destroy => exact fun hdead => by cases hdead
      | _ => exact id
  | locked hf hl =>
      cases hl with
      | addClient _ _ _ _ hadd | add _ _ hadd =>
          refine ⟨?_, id⟩
          rcases addClient_spec hwf.table hadd with ⟨-, rfl, -⟩ | ⟨-, -, -, -, hhist, -⟩
          · exact List.prefix_refl _
          · exact ⟨_, hhist.symm⟩
      | buildEmpty | build | buildFault | addFault => exact ⟨List.prefix_refl _, id⟩
  | readerLock | writerLock => exact ⟨List.prefix_append _ _, id⟩
  | readerRun hr hp => exact ⟨(h.readerShift hr hp).hist_grows hwf, id⟩
  | writerRun hw hp => exact ⟨(h.writerShift hw hp).hist_grows hwf, id⟩
  | readerUnlock | writerUnlock | writerClear | writerLeave => exact ⟨List.prefix_refl _, id⟩

/-- A run in which nobody has been taken out of the table of a server that is
still there is careful. -/
theorem Reachable.careful {L : Allows} {σ : Sys} (h : Reachable L σ)
    (hnone : ∀ fd, .removed fd ∉ σ.hist) (halive : σ.alive = true) : CarefulRun L σ := by
  induction h with
  | init tapcfg => exact .init tapcfg
  | @step σ σ' hσ hs ih =>
      obtain ⟨hgrown, hback⟩ := hσ.grows hs
      refine (ih (fun fd hmem => hnone fd (hgrown.subset hmem)) (hback halive)).step hs
        ⟨fun fd heq => ?_, fun _ hdead => ?_⟩
      · exact (hnone fd (by rw [heq]; simp)).elim
      · cases halive.symm.trans hdead

/-- The first connection, on descriptor 7 of a server that listens on 3. -/
theorem descriptors_owned_accepting : Owned (Sys.accepting true 3 7) := by
  have hrun := accepting_reachable anyAnswer true (show 7 ≠ 3 by decide)
  exact descriptors_owned (hrun.careful (fun fd => by simp [Sys.accepting]) rfl)

/-- That connection is added to the table and sends the length 0: it is taken
out, and nobody has its descriptor any more. -/
theorem descriptors_forgotten : ∃ σ, Reachable anyAnswer σ ∧ ¬ Owned σ := by
  have hreader : ∀ p, ReaderPc.wait ≠ .inside p := fun p hp => by cases hp
  have hadd := (accepting_reachable anyAnswer true (show 7 ≠ 3 by decide)).step (.locked
    ⟨not_exists.mpr hreader, by simp [Sys.WriterInside, Sys.accepting]⟩
    (.add rfl (show 7 ∉ (Sys.accepting true 3 7).live by decide)
      (addClient_holding [] (by decide) 7 [.round [3]])))
  have hcheck := hadd.step (.outside (.writerCheck rfl))
  have hround := fun w hrun => hcheck.round
    ⟨not_exists.mpr hreader, by simp [Sys.WriterInside, Sys.withWorld, Sys.accepting]⟩ rfl
    (show fdSet _ = .ok ([3, 7], 7) from rfl) (by decide) (show [7] ⊆ [3, 7] by decide)
    (scripted_follows_any (fun _ => [0, 0]) 1) 4 (List.length_replicate (n := bufSize) (a := 0))
    (w := w) hrun
  have hresult : ((servicePass 4 true [7] 0 (List.replicate bufSize 0)).run
      (scripted (fun _ => [0, 0]) 1)
      ⟨.holding [7], [.round [3], .added 7, .round [7]]⟩).1 = .ok .next := by decide +kernel
  have htable : ((servicePass 4 true [7] 0 (List.replicate bufSize 0)).run
      (scripted (fun _ => [0, 0]) 1)
      ⟨.holding [7], [.round [3], .added 7, .round [7]]⟩).2.live = [] := by decide +kernel
  refine ⟨_, hround _ (Prod.ext hresult rfl), fun howned => ?_⟩
  rcases howned.accounted [.listening 3] 7 [] rfl with ⟨-, hlive | hadding⟩ | hcount
  · have hmem : 7 ∈ ((servicePass 4 true [7] 0 (List.replicate bufSize 0)).run
        (scripted (fun _ => [0, 0]) 1)
        ⟨.holding [7], [.round [3], .added 7, .round [7]]⟩).2.live := hlive
    rw [htable] at hmem
    cases hmem
  · cases hadding
  · cases hcount

end TapCfg.Daemon
