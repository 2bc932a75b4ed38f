/-
  Daemon/Admission.lean --- the client table over whole runs.

  A section of either thread can only shrink the table (`Shrunk`); only an
  accepted connection makes it grow.  Whether there is room is tested when the
  descriptor set is built, two sections before the insertion.  `Admission`
  carries the answer from the one to the other.
-/
import TapCfg.Daemon.Invariant

set_option autoImplicit false

namespace TapCfg.Daemon

open TapCfg.Foundation
open Prog

/-! ## A section can only shrink the table -/

/-- The table of `w` is well formed and has lost, at most, entries of `w₀`. -/
structure Shrunk (w₀ w : World) : Prop where
  wf : w.Wf
  sub : w.live.Sublist w₀.live
  max : w.table.maxClients = w₀.table.maxClients

namespace Shrunk

variable {w₀ w w' : World}

theorem refl (hw : w.Wf) : Shrunk w w := ⟨hw, List.Sublist.refl _, rfl⟩

theorem log (h : Shrunk w₀ w) {τ : List Event} (hτ : ∀ e ∈ τ, e.onTable = false) :
    Shrunk w₀ (w.log τ) := ⟨h.wf.log hτ, h.sub, h.max⟩

theorem remove (h : Shrunk w₀ w) {i : Nat} {fd : Fd} (hi : w.live[i]? = some fd)
    (hr : removeClient w i = .ok w') : Shrunk w₀ w' := by
  obtain ⟨hwf, hlive⟩ := h.wf.remove hi hr
  refine ⟨hwf, ?_, (removeClient_spec h.wf.table hi hr).2.2.2.trans h.max⟩
  rw [hlive]
  exact List.erase_sublist.trans h.sub

/-- Where there was room, there is room. -/
theorem lt_max (h : Shrunk w₀ w) (h₀ : w₀.Wf) (hlt : w₀.table.clients < w₀.table.maxClients) :
    w.table.clients < w.table.maxClients := by
  have h1 := h.wf.live_length
  have h2 := h₀.live_length
  have h3 := h.sub.length_le
  rw [h.max]
  omega

end Shrunk

section Sections

variable (L : Allows) (w₀ : World)

theorem relay_shrunk (skip : Nat → Bool) (data : List Byte) :
    RelayInv L skip data (Shrunk w₀) (Shrunk w₀) NotReturned (fun _ _ => Shrunk w₀) where
  wf h := h.wf.table
  holds h := h
  skipped h _ _ := h
  mid h _ _ hτ := h.log hτ.not_onTable
  sent h _ _ hτ _ _ := h.log hτ.not_onTable
  dropped h hfd _ hτ _ hr := (h.log hτ.not_onTable).remove hfd hr
  spent _ := rfl
  stuck _ _ _ _ _ _ := rfl
  done h _ := h

theorem pass_shrunk (tapcfg : Bool) (ready : List Fd) :
    PassInv L tapcfg ready (Shrunk w₀) (fun _ => Shrunk w₀) NotReturned
      (fun _ _ => Shrunk w₀) where
  wf h := h.wf.table
  holds h := h
  skipped h _ _ := h
  mid h _ _ hτ := h.log hτ.served_not_onTable
  refused h hfd _ hτ _ hr := (h.log hτ.served_not_onTable).remove hfd hr
  written _ h _ _ hτ _ _ _ _ := h.log (hτ.passed_not_onTable rfl)
  rejected _ h _ _ hτ _ _ _ _ :=
    ⟨h.log (hτ.passed_not_onTable rfl), h.log (hτ.passed_not_onTable rfl)⟩
  forwarded _ h _ _ hτ hlegal _ hbuf hframe :=
    RelayInv.sat_forwardLoop hlegal hbuf hframe (relay_shrunk L w₀ _ _)
      (h.log (hτ.passed_not_onTable rfl))
  spent _ := rfl
  stuck _ _ _ _ _ _ := rfl
  done h _ := h

end Sections

theorem Sys.init_wf (tapcfg : Bool) : (Sys.init tapcfg).world.Wf where
  table := show (tapserverInit false).table.Wf by decide
  nodup := List.nodup_nil
  told := rfl

/-! ## Room for the accepted connection -/

/-- The descriptors the writer has, or may still have, in its set. -/
def WriterPc.watched : WriterPc → List Fd
  | .selecting rfds _ => rfds
  | .selected ready => ready
  | .inside ready _ => ready
  | .served ready => ready
  | _ => []

/-- The invariant of the server while the table mutex is free. -/
structure Admission (σ : Sys) : Prop where
  wf : σ.world.Wf
  /-- the listening socket is not a client -/
  apart : σ.writer ≠ .off → σ.server.listening = true → σ.server.serverFd ∉ σ.live
  /-- there is room as long as the listening socket may be found ready -/
  room : σ.server.listening = true → σ.server.serverFd ∈ σ.writer.watched →
    σ.server.table.clients < σ.server.table.maxClients
  /-- there is room for the accepted connection -/
  adding : ∀ fd, σ.writer = .adding fd →
    σ.server.table.clients < σ.server.table.maxClients ∧ fd ≠ σ.server.serverFd

namespace Admission

variable {σ σ' : Sys}

/-- The invariant survives whatever only shrinks the table and the set. -/
theorem shrink (h : Admission σ) (hs : Shrunk σ.world σ'.world)
    (hlisten : σ'.server.listening = σ.server.listening)
    (hfd : σ'.server.serverFd = σ.server.serverFd)
    (hoff : σ'.writer ≠ .off → σ.writer ≠ .off)
    (hwatched : σ'.writer.watched ⊆ σ.writer.watched)
    (hadding : ∀ fd, σ'.writer = .adding fd → σ.writer = .adding fd) : Admission σ' where
  wf := hs.wf
  apart hw hl := by
    rw [hfd]
    exact fun hmem => h.apart (hoff hw) (hlisten ▸ hl) (hs.sub.subset hmem)
  room hl hmem := hs.lt_max h.wf (h.room (hlisten ▸ hl) (hwatched (hfd ▸ hmem)))
  adding fd hw := by
    obtain ⟨hlt, hne⟩ := h.adding fd (hadding fd hw)
    exact ⟨hs.lt_max h.wf hlt, hfd ▸ hne⟩

/-- The invariant does not depend on the reader, nor on the flags. -/
theorem quiet (h : Admission σ) (hworld : σ'.world = σ.world)
    (hlisten : σ'.server.listening = σ.server.listening)
    (hfd : σ'.server.serverFd = σ.server.serverFd)
    (hoff : σ'.writer ≠ .off → σ.writer ≠ .off)
    (hwatched : σ'.writer.watched ⊆ σ.writer.watched)
    (hadding : ∀ fd, σ'.writer = .adding fd → σ.writer = .adding fd) : Admission σ' :=
  h.shrink (hworld.symm ▸ Shrunk.refl h.wf) hlisten hfd hoff hwatched hadding

theorem init (tapcfg : Bool) : Admission (Sys.init tapcfg) where
  wf := Sys.init_wf tapcfg
  apart hw := (hw rfl).elim
  room hl := by cases hl
  adding fd hw := by cases hw

theorem outside (h : Admission σ) (hs : Outside σ σ') : Admission σ' := by
  cases hs with
  | startListening _ _ _ hfd _ =>
      exact ⟨h.wf, fun _ _ => hfd, fun _ hmem => (by cases hmem), fun fd hw => (by cases hw)⟩
  | startQuiet _ _ _ =>
      exact ⟨h.wf, fun _ hl => (by cases hl), fun hl => (by cases hl), fun fd hw => (by cases hw)⟩
  | @accept ready fd hw hy hne _ =>
      have hwatched : σ.server.serverFd ∈ σ.writer.watched := by rw [hw]; exact hy.2
      refine ⟨h.wf, fun _ hl => h.apart (by simp [hw]) hl, fun _ hmem => (by cases hmem), ?_⟩
      rintro fd' hfd'
      cases hfd'
      exact ⟨h.room hy.1 hwatched, hne⟩
  | @select rfds ready nfds hw hready =>
      refine h.quiet rfl rfl rfl (by simp [hw]) ?_ (by simp)
      rw [hw]
      exact hready
  | startFailed _ _ _ => exact h.quiet rfl rfl rfl id (List.Subset.refl _) fun _ => id
  | readNothing _ => exact h.quiet rfl rfl rfl id (List.Subset.refl _) fun _ => id
  | readFrame _ _ => exact h.quiet rfl rfl rfl id (List.Subset.refl _) fun _ => id
  | readerCheck _ => exact h.quiet rfl rfl rfl id (List.Subset.refl _) fun _ => id
  | stop _ _ => exact h.quiet rfl rfl rfl id (List.Subset.refl _) fun _ => id
  | destroy _ _ _ => exact h.quiet rfl rfl rfl id (List.Subset.refl _) fun _ => id
  | join _ _ _ => exact h.quiet rfl rfl rfl (by simp) (List.nil_subset _) (by simp)
  | selectFailed hw => exact h.quiet rfl rfl rfl (by simp [hw]) (List.nil_subset _) (by simp)
  | noAccept hw _ => exact h.quiet rfl rfl rfl (by simp [hw]) (List.nil_subset _) (by simp)
  | acceptFailed hw _ => exact h.quiet rfl rfl rfl (by simp [hw]) (List.nil_subset _) (by simp)
  | writerCheck hw =>
      cases hrun : σ.server.running <;>
        exact h.quiet rfl rfl rfl (by simp [hw]) (by simp [WriterPc.watched]) (by simp)

theorem locked (h : Admission σ) (hs : Locked σ σ') : Admission σ' := by
  cases hs with
  | addClient _ hw _ hfd hadd =>
      refine ⟨h.wf.add hfd hadd, fun hne => (hne hw).elim, fun _ hmem => ?_, fun fd hpc => ?_⟩
      · simp [Sys.withWorld, hw, WriterPc.watched] at hmem
      · cases hw.symm.trans hpc
  | buildEmpty hw _ => exact h.quiet rfl rfl rfl (by simp [hw]) (List.nil_subset _) (by simp)
  | buildFault hw _ => exact h.quiet rfl rfl rfl (by simp [hw]) (List.nil_subset _) (by simp)
  | addFault hw _ => exact h.quiet rfl rfl rfl (by simp [hw]) (List.nil_subset _) (by simp)
  | @build rfds highest hw hset _ =>
      -- the one place where the room is tested
      have hapart := h.apart (by simp [hw])
      refine ⟨h.wf, fun _ hl => hapart hl, fun hl hmem => ?_, fun fd hpc => (by cases hpc)⟩
      obtain ⟨highest', hset', -⟩ := fdSet_spec h.wf.table (s := σ.server)
      cases hset.symm.trans hset'
      rcases List.mem_append.mp hmem with hadm | hlive
      · by_cases hroom : σ.server.listening = true ∧
          σ.server.table.clients < σ.server.table.maxClients
        · exact hroom.2
        · rw [admitted, if_neg hroom] at hadm
          cases hadm
      · exact (hapart hl hlive).elim
  | @add fd ret w hw hfd hadd =>
      obtain ⟨hlt, hne⟩ := h.adding fd hw
      refine ⟨h.wf.add hfd hadd, fun _ hl => ?_, fun _ hmem => (by cases hmem),
        fun fd hpc => (by cases hpc)⟩
      rcases addClient_spec h.wf.table hadd with ⟨-, -, hfull⟩ | ⟨-, -, -, hlive, -⟩
      · exact (Int.not_le.mpr hlt hfull).elim
      · have happ := h.apart (by simp [hw]) hl
        show σ.server.serverFd ∉ w.live
        rw [hlive, List.mem_append, List.mem_singleton]
        rintro (hmem | heq)
        · exact happ hmem
        · exact hne heq.symm

end Admission

/-- The invariant of the client table. -/
theorem admission (L : Allows) : SysInv L (fun _ _ => World.Wf) Admission where
  init := Admission.init
  holds h := h.wf
  grow h := h
  outside := Admission.outside
  locked := Admission.locked
  clear h := h.quiet rfl rfl rfl id (List.Subset.refl _) fun _ => id
  broadcast {σ f} fuel h _ hlegal _ := by
    have hwf : (σ.world.log [.relay f]).Wf := h.wf.log (List.forall_mem_singleton.mpr rfl)
    refine (RelayInv.sat_broadcast hlegal (relay_shrunk L _ _ _) (Shrunk.refl hwf)).mono
      (fun _ hs => hs.wf) (fun _ w _ hs => ?_) (fun _ _ _ => id)
    exact h.shrink ⟨hs.wf, hs.sub, hs.max⟩ rfl rfl id (List.Subset.refl _) fun _ => id
  pass {σ ready buf} fuel h hw hbuf := by
    have hwf : (σ.world.log [.round ready]).Wf := h.wf.log (List.forall_mem_singleton.mpr rfl)
    refine ((pass_shrunk L _ _ _).sat fuel 0 buf _ hbuf (Shrunk.refl hwf)).mono
      (fun _ hs => hs.wf) (fun flow w _ hs => ?_) (fun _ _ _ => id)
    have hwatched : (σ.leavePass ready flow w).writer.watched ⊆ σ.writer.watched := by
      rw [hw]
      cases flow with
      | next => exact List.Subset.refl _
      | exit => exact List.nil_subset _
    exact h.shrink ⟨hs.wf, hs.sub, hs.max⟩ rfl rfl (by simp [hw]) hwatched
      (by cases flow <;> simp [Sys.leavePass])

/-! ## The client table is safe -/

section Safety

variable {L : Allows} {σ : Sys}

/-- Neither building the set nor inserting a client faults. -/
theorem writer_not_faulted (h : Reachable L σ) : ∀ e, σ.writer ≠ .faulted e := by
  induction h with
  | init => simp [Sys.init]
  | @step σ σ' hσ hs ih =>
      intro e he
      cases hs with
      | outside h =>
          cases h with
          | startListening | startQuiet | selectFailed | select | noAccept | acceptFailed | accept
          | join => cases he
          | writerCheck => cases hrun : σ.server.running <;> simp [hrun] at he
          | startFailed | readNothing | readFrame | readerCheck | stop | destroy => exact ih e he
      | locked hf h =>
          have hwf := (((admission L).reachable hσ).1 hf).wf
          cases h with
          | addClient => exact ih e he
          | buildEmpty | build | add => cases he
          | buildFault _ hset =>
              obtain ⟨highest, hset', -⟩ := fdSet_spec hwf.table (s := σ.server)
              cases hset.symm.trans hset'
          | @addFault fd _ _ hadd =>
              by_cases hfull : σ.world.table.maxClients ≤ σ.world.table.clients
              · cases hadd.symm.trans (addClient_full hfull)
              · obtain ⟨w, hok, -⟩ := addClient_ok fd hwf.table (Int.not_le.mp hfull)
                cases hadd.symm.trans hok
      | readerLock | readerRun | readerUnlock => exact ih e he
      | writerLock | writerRun | writerUnlock | writerClear | writerLeave => cases he

/-- In every run: the count stays inside the table, the entries in use are the
descriptors added and not removed, oldest first and without repetition; no
assertion fails and no index leaves the array; and an accepted connection always
finds room. -/
theorem clientTable_safe (h : Reachable L σ) :
    (0 ≤ σ.server.table.clients ∧ σ.server.table.clients ≤ σ.server.table.maxClients) ∧
      ((σ.live.length : Int) = σ.server.table.clients ∧ σ.live.Nodup ∧
        σ.live = tableOf σ.hist) ∧
      (∀ e, σ.Faults e → e = .fuel) ∧
      ∀ fd, σ.Free → σ.writer = .adding fd →
        ∃ w, tapserverAddClient σ.world fd = .ok (0, w) ∧ w.live = σ.live ++ [fd] := by
  obtain ⟨hfree, hwf⟩ := (admission L).reachable h
  refine ⟨⟨hwf.table.nonneg, hwf.table.le_max⟩, ⟨hwf.live_length, hwf.nodup, hwf.told.symm⟩,
    fun e he => ?_, fun fd hf hw => ?_⟩
  · rcases he with he | he
    · exact ((admission L).kept h).fault he
    · exact (writer_not_faulted h e he).elim
  · obtain ⟨w, hok, -, hlive, -⟩ := addClient_ok fd hwf.table ((hfree hf).adding fd hw).1
    exact ⟨w, hok, hlive⟩

end Safety

/-- The state in which the first connection has been accepted. -/
def Sys.accepting (tapcfg : Bool) (fd client : Fd) : Sys where
  server := { tapserverInit tapcfg with
    serversock := some fd, serverFd := fd, listening := true, running := true }
  reader := if tapcfg then .wait else .done
  writer := .adding client
  hist := [.round [fd]]
  reads := []
  fds := [.listening fd, .accepted client]
  alive := true

/-- Every server that listens can accept a connection. -/
theorem accepting_reachable (L : Allows) (tapcfg : Bool) {fd client : Fd} (hne : client ≠ fd) :
    Reachable L (Sys.accepting tapcfg fd client) := by
  have hr : ∀ p, (if tapcfg = true then ReaderPc.wait else .done) ≠ .inside p := by
    cases tapcfg <;> simp
  have hset : fdSet (Sys.accepting tapcfg fd client).server = .ok ([fd], (fd : Int)) := by
    simp [fdSet, fdSetLoop, admitted, Sys.accepting, tapserverInit, maxClientsDefault]
  have hlisten := (Reachable.init (L := L) tapcfg).step (.outside (.startListening rfl rfl rfl
    (show fd ∉ (Sys.init tapcfg).live by simp [Sys.init, tapserverInit, ClientTable.live])
    (show fd ∉ openFds [] from List.not_mem_nil)))
  have hbuild := hlisten.step (.locked ⟨not_exists.mpr hr, by simp [Sys.WriterInside]⟩
    (.build rfl hset (by omega)))
  have hselect := hbuild.step (.outside (.select rfl (List.Subset.refl [fd])))
  have hlock := hselect.step (.writerLock 1 ⟨not_exists.mpr hr, by simp [Sys.WriterInside]⟩
    rfl (List.length_replicate (n := bufSize) (a := 0)))
  have hpass := hlock.step (.writerRun rfl (.atomic rfl))
  have hunlock := hpass.step (.writerUnlock rfl)
  exact hunlock.step (.outside (.accept rfl ⟨rfl, List.mem_singleton.mpr rfl⟩ hne
    (show client ∉ openFds [.listening fd] from fun h => hne (List.mem_singleton.mp h))))

/-- The first connection, on descriptor 7 of a server that listens on 3. -/
theorem clientTable_safe_accepting :
    ∃ w, tapserverAddClient (Sys.accepting true 3 7).world 7 = .ok (0, w) ∧ w.live = [7] :=
  (clientTable_safe (accepting_reachable anyAnswer true (show 7 ≠ 3 by decide))).2.2.2 7
    ⟨by simp [Sys.ReaderInside, Sys.accepting], by simp [Sys.WriterInside, Sys.accepting]⟩ rfl

end TapCfg.Daemon
