/-
  Daemon/Encoding.lean --- what the server sends to one client.

  Whenever the table mutex is free, the bytes sent to a client of the table are
  whole records.  Inside a section this is not so, and it may even stay so for a
  client to which a send has failed; but that client is out of the table before
  the section ends.

  Both sending loops are covered by one invariant (`relay_offering`): the
  clients from the index on have been sent whole records whose payloads leave
  room for the frame that is being offered.
-/
import TapCfg.Daemon.Decoding

set_option autoImplicit false

namespace TapCfg.Daemon

open TapCfg.Foundation
open Prog

/-- What was sent to `fd` since it was added are whole records, and their
payloads are among the frames offered since then, in order. -/
structure Whole (fd : Fd) (h : List Event) (ps : List Frame) : Prop where
  bytes : sentTo fd (sinceAdded fd h) = records ps
  order : ps.Sublist (offered (sinceAdded fd h))

/-- What was sent to `fd` since it was added is the beginning of such records. -/
structure Begun (fd : Fd) (h : List Event) (ps : List Frame) : Prop where
  bytes : sentTo fd (sinceAdded fd h) <+: records ps
  order : ps.Sublist (offered (sinceAdded fd h))

/-- There is room for the frame that is being offered. -/
structure Pending (frame : Frame) (fd : Fd) (h : List Event) (ps : List Frame) : Prop where
  bytes : sentTo fd (sinceAdded fd h) = records ps
  order : (ps ++ [frame]).Sublist (offered (sinceAdded fd h))

/-- What the mutex protects, at every moment. -/
structure Sending (w : World) : Prop where
  wf : w.Wf
  legal : ∀ f ∈ offered w.hist, Legal bufSize f
  begun : ∀ fd, ∃ ps, Begun fd w.hist ps

/-- What the mutex protects, between two records. -/
structure Sendings (w : World) : Prop extends Sending w where
  whole : ∀ fd ∈ w.live, ∃ ps, Whole fd w.hist ps

/-- What the mutex protects at index `j` of a loop that sends `frame`. -/
structure Offering (frame : Frame) (j : Nat) (w : World) : Prop extends Sendings w where
  pending : ∀ fd ∈ w.live.drop j, ∃ ps, Pending frame fd w.hist ps

section Histories

variable {fd : Fd} {h τ : List Event} {ps : List Frame}

theorem Whole.begun (hw : Whole fd h ps) : Begun fd h ps :=
  ⟨hw.bytes ▸ List.prefix_refl _, hw.order⟩

/-- Nothing is sent to the client; frames may be offered. -/
theorem Begun.quiet (hb : Begun fd h ps) (hadds : ∀ e ∈ τ, e.adds fd = false)
    (hsent : sentTo fd τ = []) : Begun fd (h ++ τ) ps := by
  constructor <;> rw [sinceAdded_append h hadds]
  · rw [sentTo_append, hsent, List.append_nil]
    exact hb.bytes
  · rw [offered_append]
    exact hb.order.trans (List.sublist_append_left _ _)

theorem Whole.quiet (hw : Whole fd h ps) (hadds : ∀ e ∈ τ, e.adds fd = false)
    (hsent : sentTo fd τ = []) : Whole fd (h ++ τ) ps := by
  constructor <;> rw [sinceAdded_append h hadds]
  · rw [sentTo_append, hsent, List.append_nil]
    exact hw.bytes
  · rw [offered_append]
    exact hw.order.trans (List.sublist_append_left _ _)

theorem Pending.quiet {frame : Frame} (hp : Pending frame fd h ps)
    (hadds : ∀ e ∈ τ, e.adds fd = false) (hsent : sentTo fd τ = []) :
    Pending frame fd (h ++ τ) ps := by
  constructor <;> rw [sinceAdded_append h hadds]
  · rw [sentTo_append, hsent, List.append_nil]
    exact hp.bytes
  · rw [offered_append]
    exact hp.order.trans (List.sublist_append_left _ _)

/-- A frame begins to be offered. -/
theorem Whole.offer (hw : Whole fd h ps) {frame : Frame} (hadds : ∀ e ∈ τ, e.adds fd = false)
    (hsent : sentTo fd τ = []) (hoffer : offered τ = [frame]) :
    Pending frame fd (h ++ τ) ps := by
  constructor <;> rw [sinceAdded_append h hadds]
  · rw [sentTo_append, hsent, List.append_nil]
    exact hw.bytes
  · rw [offered_append, hoffer]
    exact hw.order.append (List.Sublist.refl _)

/-- Part of the record has been sent. -/
theorem Pending.send {frame : Frame} {L : Allows} (hp : Pending frame fd h ps)
    (hτ : SendTrace L h fd (record frame) τ) : Begun fd (h ++ τ) (ps ++ [frame]) := by
  constructor <;> rw [sinceAdded_append h (hτ.not_adds fd)]
  · rw [sentTo_append, hp.bytes, records_append, records_singleton]
    exact (List.prefix_append_right_inj _).mpr hτ.sent
  · rw [offered_append, hτ.offered_eq, List.append_nil]
    exact hp.order

/-- The whole record has been sent. -/
theorem Pending.sent {frame : Frame} {L : Allows} (hp : Pending frame fd h ps)
    (hτ : SendTrace L h fd (record frame) τ) (hsent : sentTo fd τ = record frame) :
    Whole fd (h ++ τ) (ps ++ [frame]) := by
  constructor <;> rw [sinceAdded_append h (hτ.not_adds fd)]
  · rw [sentTo_append, hp.bytes, records_append, records_singleton, hsent]
  · rw [offered_append, hτ.offered_eq, List.append_nil]
    exact hp.order

theorem Whole.fresh (fd : Fd) (h : List Event) : Whole fd (h ++ [.added fd]) [] := by
  constructor <;> rw [sinceAdded_added] <;> simp

end Histories

namespace Sendings

variable {w w' : World}

/-- Events that send nothing and leave the table alone. -/
theorem quiet (h : Sendings w) {τ : List Event} (htable : ∀ e ∈ τ, e.onTable = false)
    (hsent : ∀ fd, sentTo fd τ = []) (hlegal : ∀ f ∈ offered τ, Legal bufSize f) :
    Sendings (w.log τ) := by
  have hadds : ∀ fd, ∀ e ∈ τ, e.adds fd = false := fun fd e he =>
    Event.adds_eq_false (htable e he) fd
  refine ⟨⟨h.wf.log htable, ?_, fun fd => ?_⟩, fun fd hfd => ?_⟩
  · rw [World.log_hist, offered_append]
    exact List.forall_mem_append.mpr ⟨h.legal, hlegal⟩
  · obtain ⟨ps, hb⟩ := h.begun fd
    exact ⟨ps, hb.quiet (hadds fd) (hsent fd)⟩
  · obtain ⟨ps, hw⟩ := h.whole fd hfd
    exact ⟨ps, hw.quiet (hadds fd) (hsent fd)⟩

/-- A client is taken out. -/
theorem remove (h : Sending w) {j : Nat} {fd : Fd} (hj : w.live[j]? = some fd)
    (hr : removeClient w j = .ok w')
    (hothers : ∀ fd' ∈ w.live, fd' ≠ fd → ∃ ps, Whole fd' w.hist ps) : Sendings w' := by
  obtain ⟨hwf, hlive⟩ := h.wf.remove hj hr
  have hhist := (removeClient_spec h.wf.table hj hr).2.2.1
  have hadds : ∀ fd', ∀ e ∈ [Event.removed fd], e.adds fd' = false := fun _ =>
    List.forall_mem_singleton.mpr rfl
  refine ⟨⟨hwf, ?_, fun fd' => ?_⟩, fun fd' hfd' => ?_⟩
  · rw [hhist, offered_append]
    exact List.forall_mem_append.mpr ⟨h.legal, by simp [offered, Event.offered]⟩
  · obtain ⟨ps, hb⟩ := h.begun fd'
    rw [hhist]
    exact ⟨ps, hb.quiet (hadds fd') rfl⟩
  · rw [hlive] at hfd'
    obtain ⟨hne, hmem⟩ := h.wf.nodup.mem_erase_iff.mp hfd'
    obtain ⟨ps, hw⟩ := hothers fd' hmem hne
    rw [hhist]
    exact ⟨ps, hw.quiet (hadds fd') rfl⟩

/-- A frame begins to be offered. -/
theorem offer (h : Sendings w) {τ : List Event} {frame : Frame}
    (htable : ∀ e ∈ τ, e.onTable = false) (hsent : ∀ fd, sentTo fd τ = [])
    (hoffer : offered τ = [frame]) (hlegal : Legal bufSize frame) :
    Offering frame 0 (w.log τ) := by
  refine ⟨h.quiet htable hsent ?_, fun fd hfd => ?_⟩
  · rw [hoffer]
    exact List.forall_mem_singleton.mpr hlegal
  · obtain ⟨ps, hw⟩ := h.whole fd (List.mem_of_mem_drop hfd)
    exact ⟨ps, hw.offer (fun e he => Event.adds_eq_false (htable e he) fd) (hsent fd) hoffer⟩

theorem add {fd : Fd} {ret : Int} (h : Sendings w) (hfd : fd ∉ w.live)
    (hadd : tapserverAddClient w fd = .ok (ret, w')) : Sendings w' := by
  have hwf := h.wf.add hfd hadd
  rcases addClient_spec h.wf.table hadd with ⟨-, rfl, -⟩ | ⟨-, -, -, hlive, hhist, -⟩
  · exact h
  · have hadds : ∀ fd', fd' ≠ fd → ∀ e ∈ [Event.added fd], e.adds fd' = false := fun fd' hne =>
      List.forall_mem_singleton.mpr (by simp [Event.adds, Ne.symm hne])
    refine ⟨⟨hwf, ?_, fun fd' => ?_⟩, fun fd' hfd' => ?_⟩
    · rw [hhist, offered_append]
      exact List.forall_mem_append.mpr ⟨h.legal, by simp [offered, Event.offered]⟩
    · rw [hhist]
      by_cases heq : fd' = fd
      · subst heq
        exact ⟨[], (Whole.fresh fd' w.hist).begun⟩
      · obtain ⟨ps, hb⟩ := h.begun fd'
        exact ⟨ps, hb.quiet (hadds fd' heq) rfl⟩
    · rw [hhist]
      by_cases heq : fd' = fd
      · subst heq
        exact ⟨[], .fresh fd' w.hist⟩
      · rw [hlive] at hfd'
        have hmem : fd' ∈ w.live := (List.mem_append.mp hfd').resolve_right fun hmem =>
          heq (List.mem_singleton.mp hmem)
        obtain ⟨ps, hw⟩ := h.whole fd' hmem
        exact ⟨ps, hw.quiet (hadds fd' heq) rfl⟩

end Sendings

namespace Offering

variable {L : Allows} {frame : Frame} {j : Nat} {w w' : World} {fd : Fd} {τ : List Event}

/-- The client at the index is left out. -/
theorem skip (h : Offering frame j w) : Offering frame (j + 1) w :=
  ⟨h.toSendings, fun fd hfd =>
    h.pending fd ((List.drop_subset_drop_left w.live (Nat.le_succ j)) hfd)⟩

/-- Part of the record for the client at the index: the others are as before. -/
theorem sending (h : Offering frame j w) (hj : w.live[j]? = some fd)
    (hτ : SendTrace L w.hist fd (record frame) τ) :
    Sending (w.log τ) ∧
      (∀ fd' ∈ w.live, fd' ≠ fd → ∃ ps, Whole fd' (w.log τ).hist ps) ∧
      ∀ fd' ∈ w.live.drop (j + 1), ∃ ps, Pending frame fd' (w.log τ).hist ps := by
  refine ⟨⟨h.wf.log hτ.not_onTable, ?_, fun fd' => ?_⟩, fun fd' hmem hne => ?_, fun fd' hmem => ?_⟩
  · rw [World.log_hist, offered_append, hτ.offered_eq, List.append_nil]
    exact h.legal
  · by_cases heq : fd' = fd
    · subst heq
      obtain ⟨ps, hp⟩ := h.pending fd' (by rw [drop_of_getElem? hj]; exact List.mem_cons_self)
      exact ⟨_, hp.send hτ⟩
    · obtain ⟨ps, hb⟩ := h.begun fd'
      exact ⟨ps, hb.quiet (hτ.not_adds fd') (hτ.sentTo_ne (Ne.symm heq))⟩
  · obtain ⟨ps, hw⟩ := h.whole fd' hmem
    exact ⟨ps, hw.quiet (hτ.not_adds fd') (hτ.sentTo_ne hne.symm)⟩
  · have hne : fd ≠ fd' := by
      rintro rfl
      exact not_mem_drop_succ h.wf.nodup hj hmem
    obtain ⟨ps, hp⟩ := h.pending fd' ((List.drop_subset_drop_left w.live (Nat.le_succ j)) hmem)
    exact ⟨ps, hp.quiet (hτ.not_adds fd') (hτ.sentTo_ne hne)⟩

/-- The client at the index has the record. -/
theorem sent (h : Offering frame j w) (hj : w.live[j]? = some fd)
    (hτ : SendTrace L w.hist fd (record frame) τ) (hsent : sentTo fd τ = record frame) :
    Offering frame (j + 1) (w.log τ) := by
  obtain ⟨hs, hothers, hpending⟩ := h.sending hj hτ
  refine ⟨⟨hs, fun fd' hmem => ?_⟩, hpending⟩
  by_cases heq : fd' = fd
  · subst heq
    obtain ⟨ps, hp⟩ := h.pending fd' (by rw [drop_of_getElem? hj]; exact List.mem_cons_self)
    exact ⟨_, hp.sent hτ hsent⟩
  · exact hothers fd' hmem heq

/-- The client at the index is taken out, whatever part of the record it got. -/
theorem dropped (h : Offering frame j w) (hj : w.live[j]? = some fd)
    (hτ : SendTrace L w.hist fd (record frame) τ)
    (hr : removeClient (w.log τ) j = .ok w') : Offering frame (j + 1) w' := by
  obtain ⟨hs, hothers, hpending⟩ := h.sending hj hτ
  obtain ⟨-, hlive, hhist, -⟩ := removeClient_spec hs.wf.table hj hr
  refine ⟨Sendings.remove hs hj hr hothers, fun fd' hmem => ?_⟩
  rw [hlive] at hmem
  obtain ⟨ps, hp⟩ := hpending fd' (mem_drop_of_eraseIdx hmem)
  rw [hhist]
  exact ⟨ps, hp.quiet (List.forall_mem_singleton.mpr rfl) rfl⟩

end Offering

theorem Sendings.serve {L : Allows} {w : World} (h : Sendings w) {s : Fd} {h' τ : List Event}
    (hτ : RecordTrace L h' s τ) : Sendings (w.log (.serving s :: τ)) :=
  h.quiet hτ.served_not_onTable hτ.served_sentTo (by simp [hτ.served_offered])

theorem Sendings.write {L : Allows} {w : World} (h : Sendings w) {s : Fd} {h' τ : List Event}
    (hτ : RecordTrace L h' s τ) (frame : Frame) (answer : Int) :
    Sendings (w.log (.serving s :: τ ++ [.write s frame answer])) := by
  refine h.quiet (hτ.passed_not_onTable rfl) (fun fd => ?_) ?_
  · rw [sentTo_append, hτ.served_sentTo]
    rfl
  · rw [offered_append, hτ.served_offered]
    simp [offered, Event.offered]

section Sections

variable (L : Allows)

theorem relay_offering (frame : Frame) (skip : Nat → Bool) :
    RelayInv L skip (record frame) Sending Sendings NotReturned (fun _ => Offering frame) where
  wf h := h.wf.table
  holds h := h.toSending
  skipped h _ _ := h.skip
  mid h hfd _ hτ := (h.sending hfd hτ).1
  sent h hfd _ hτ _ hsent := h.sent hfd hτ hsent
  dropped h hfd _ hτ _ hr := h.dropped hfd hτ hr
  spent _ := rfl
  stuck _ _ _ _ _ _ := rfl
  done h _ := h.toSendings

theorem pass_sendings (tapcfg : Bool) (ready : List Fd) :
    PassInv L tapcfg ready Sending (fun _ => Sendings) NotReturned (fun _ _ => Sendings) where
  wf h := h.wf.table
  holds h := h.toSending
  skipped h _ _ := h
  mid h _ _ hτ := (h.serve hτ).toSending
  refused h hfd _ hτ _ hr :=
    Sendings.remove (h.serve hτ).toSending hfd hr fun fd' hmem _ => (h.serve hτ).whole fd' hmem
  written _ h _ _ hτ _ _ _ _ := h.write hτ _ _
  rejected _ h _ _ hτ _ _ _ _ := ⟨(h.write hτ _ _).toSending, h.write hτ _ _⟩
  forwarded _ h _ _ hτ hlegal _ hbuf hframe := by
    refine RelayInv.sat_forwardLoop hlegal hbuf hframe (relay_offering L _ _)
      (h.offer (hτ.passed_not_onTable rfl) (fun fd => ?_) ?_ hlegal)
    · rw [sentTo_append, hτ.served_sentTo]
      rfl
    · rw [offered_append, hτ.served_offered]
      rfl
  spent _ := rfl
  stuck _ _ _ _ _ _ := rfl
  done h _ := h

/-- What the clients were sent over whole runs. -/
theorem sendings : WorldInv L (fun _ => Sending) fun _ => Sendings where
  init tapcfg := by
    refine ⟨⟨Sys.init_wf tapcfg, by simp [Sys.init, Sys.world], fun fd => ⟨[], ?_⟩⟩,
      fun fd hmem => ?_⟩
    · constructor <;> simp [Sys.init, Sys.world, sinceAdded]
    · cases hmem
  holds h := h.toSending
  add h hfd hadd := h.add hfd hadd
  broadcast fuel h hlegal :=
    RelayInv.sat_broadcast hlegal (relay_offering L _ _)
      (h.offer (List.forall_mem_singleton.mpr rfl) (fun _ => rfl) rfl hlegal)
  pass {tapcfg _ ready buf} fuel h hbuf :=
    (pass_sendings L tapcfg ready).sat fuel 0 buf _ hbuf
      (h.quiet (List.forall_mem_singleton.mpr rfl) (fun _ => rfl)
        (by simp [offered, Event.offered]))

end Sections

/-! ## The frames read from the device -/

/-- The frame of the device one event offers. -/
def Event.relayed : Event → Option Frame
  | .relay data => some data
  | _ => none

/-- The frame of a client one event offers. -/
def Event.forwarded : Event → Option Frame
  | .forward _ data => some data
  | _ => none

/-- The frames of the device offered to the clients. -/
def relayed (h : List Event) : List Frame := h.filterMap Event.relayed

/-- The frames of clients offered to the others. -/
def forwarded (h : List Event) : List Frame := h.filterMap Event.forwarded

@[simp] theorem relayed_append (h τ : List Event) : relayed (h ++ τ) = relayed h ++ relayed τ := by
  simp [relayed]

/-- With a device, the frames offered are those of the device. -/
theorem offered_eq_relayed {L : Allows} {h : List Event}
    (hs : ∀ e ∈ h, ∃ h₁, Lawful L true h₁ e) : offered h = relayed h := by
  refine List.filterMap_congr fun e he => ?_
  obtain ⟨h₁, hlaw⟩ := hs e he
  cases e <;> first | rfl | simp_all [Lawful]

/-- Without a device, the frames offered are those of clients. -/
theorem offered_eq_forwarded {L : Allows} {h : List Event}
    (hs : ∀ e ∈ h, ∃ h₁, Lawful L false h₁ e) : offered h = forwarded h := by
  refine List.filterMap_congr fun e he => ?_
  obtain ⟨h₁, hlaw⟩ := hs e he
  cases e <;> first | rfl | simp_all [Lawful]

/-- The frame `reader_thread` has read and not yet relayed. -/
def ReaderPc.inHand : ReaderPc → List Frame
  | .got f => [f]
  | _ => []

/-- The frames relayed so far are these. -/
structure Relayed (fs : List Frame) (w : World) : Prop where
  wf : w.Wf
  frames : relayed w.hist = fs

theorem Relayed.log {fs : List Frame} {w : World} (h : Relayed fs w) {τ : List Event}
    (htable : ∀ e ∈ τ, e.onTable = false) (hτ : relayed τ = []) :
    Relayed fs (w.log τ) :=
  ⟨h.wf.log htable, by rw [World.log_hist, relayed_append, hτ, List.append_nil, h.frames]⟩

theorem Relayed.remove {fs : List Frame} {w w' : World} (h : Relayed fs w) {j : Nat} {fd : Fd}
    (hj : w.live[j]? = some fd) (hr : removeClient w j = .ok w') : Relayed fs w' := by
  refine ⟨(h.wf.remove hj hr).1, ?_⟩
  rw [(removeClient_spec h.wf.table hj hr).2.2.1, relayed_append, h.frames]
  simp [relayed, Event.relayed]

theorem SendTrace.relayed_eq {L : Allows} {h : List Event} {s : Fd} {data : List Byte}
    {τ : List Event} (hτ : SendTrace L h s data τ) : relayed τ = [] := by
  rw [relayed, List.filterMap_eq_nil_iff]
  intro e he
  obtain ⟨d, r, -, rfl⟩ := hτ.only e he
  rfl

theorem RecordTrace.served_relayed {L : Allows} {h : List Event} {s : Fd} {τ : List Event}
    (hτ : RecordTrace L h s τ) : relayed (.serving s :: τ) = [] := by
  rw [relayed, List.filterMap_eq_nil_iff]
  intro e he
  rcases List.mem_cons.mp he with rfl | he
  · rfl
  · obtain ⟨n, r, -, rfl⟩ := hτ.only e he
    rfl

theorem RecordTrace.passed_relayed {L : Allows} {h : List Event} {s : Fd} {τ : List Event}
    (hτ : RecordTrace L h s τ) {e : Event} (he : e.relayed = none) :
    relayed (.serving s :: τ ++ [e]) = [] := by
  rw [relayed_append, hτ.served_relayed]
  simp [relayed, he]

section Reads

variable (L : Allows) (fs : List Frame)

theorem relay_relayed (skip : Nat → Bool) (data : List Byte) :
    RelayInv L skip data (Relayed fs) (Relayed fs) NotReturned (fun _ _ => Relayed fs) where
  wf h := h.wf.table
  holds h := h
  skipped h _ _ := h
  mid h _ _ hτ := h.log hτ.not_onTable hτ.relayed_eq
  sent h _ _ hτ _ _ := h.log hτ.not_onTable hτ.relayed_eq
  dropped h hfd _ hτ _ hr := (h.log hτ.not_onTable hτ.relayed_eq).remove hfd hr
  spent _ := rfl
  stuck _ _ _ _ _ _ := rfl
  done h _ := h

theorem pass_relayed (tapcfg : Bool) (ready : List Fd) :
    PassInv L tapcfg ready (Relayed fs) (fun _ => Relayed fs) NotReturned
      (fun _ _ => Relayed fs) where
  wf h := h.wf.table
  holds h := h
  skipped h _ _ := h
  mid h _ _ hτ := h.log hτ.served_not_onTable hτ.served_relayed
  refused h hfd _ hτ _ hr := (h.log hτ.served_not_onTable hτ.served_relayed).remove hfd hr
  written _ h _ _ hτ _ _ _ _ := h.log (hτ.passed_not_onTable rfl) (hτ.passed_relayed rfl)
  rejected _ h _ _ hτ _ _ _ _ :=
    ⟨h.log (hτ.passed_not_onTable rfl) (hτ.passed_relayed rfl),
      h.log (hτ.passed_not_onTable rfl) (hτ.passed_relayed rfl)⟩
  forwarded _ h _ _ hτ hlegal _ hbuf hframe :=
    RelayInv.sat_forwardLoop hlegal hbuf hframe (relay_relayed L fs _ _)
      (h.log (hτ.passed_not_onTable rfl) (hτ.passed_relayed rfl))
  spent _ := rfl
  stuck _ _ _ _ _ _ := rfl
  done h _ := h

/-- The frames relayed begin the frames read; when the mutex is free only the
frame in hand is missing. -/
theorem reads (L : Allows) :
    SysInv L (fun _ rs w => relayed w.hist <+: rs)
      (fun σ => σ.world.Wf ∧ σ.reads = relayed σ.hist ++ σ.reader.inHand) where
  init tapcfg := ⟨Sys.init_wf tapcfg, rfl⟩
  holds {σ} h := by
    rw [h.2]
    exact List.prefix_append _ _
  grow h := h.trans (List.prefix_append _ _)
  outside {σ σ'} h hs := by
    obtain ⟨hwf, hreads⟩ := h
    refine ⟨by rw [hs.sections.2.2.2]; exact hwf, ?_⟩
    cases hs with
    | startListening hr _ _ _ _ =>
        simp only [hr, ReaderPc.inHand] at hreads
        cases σ.server.tapcfg <;> exact hreads
    | startQuiet hr _ _ =>
        simp only [hr, ReaderPc.inHand] at hreads
        cases σ.server.tapcfg <;> exact hreads
    | readerCheck hr =>
        simp only [hr, ReaderPc.inHand] at hreads
        cases σ.server.running <;> exact hreads
    | readFrame hr _ =>
        simp only [hr, ReaderPc.inHand, List.append_nil] at hreads
        simp only [hreads, ReaderPc.inHand]
    | readNothing hr => simpa only [hr, ReaderPc.inHand] using hreads
    | join _ hr _ => simpa only [hr, ReaderPc.inHand] using hreads
    | _ => exact hreads
  locked {σ σ'} h hs := by
    cases hs with
    | @addClient _ _ w _ _ _ hfd hadd | @add _ _ w _ hfd hadd =>
        refine ⟨h.1.add hfd hadd, ?_⟩
        rcases addClient_spec h.1.table hadd with ⟨-, rfl, -⟩ | ⟨-, -, -, -, hhist, -⟩
        · exact h.2
        · have hsame : relayed w.hist = relayed σ.hist := by
            rw [hhist, relayed_append]
            exact List.append_nil _
          show σ.reads = relayed w.hist ++ σ.reader.inHand
          rw [hsame]
          exact h.2
    | buildEmpty | build | buildFault | addFault => exact h
  clear h := h
  broadcast {σ f} fuel h hr hlegal _ := by
    have hreads : σ.reads = relayed σ.hist ++ [f] := by rw [h.2, hr, ReaderPc.inHand]
    have hstart : Relayed σ.reads (σ.world.log [.relay f]) :=
      ⟨h.1.log (List.forall_mem_singleton.mpr rfl), by
        rw [World.log_hist, relayed_append, hreads]; rfl⟩
    refine (RelayInv.sat_broadcast hlegal (relay_relayed L σ.reads _ _) hstart).mono
      (fun w hw => ?_) (fun _ w _ hw => ⟨hw.wf, ?_⟩) (fun _ _ _ => id)
    · exact hw.frames ▸ List.prefix_refl _
    · show σ.reads = relayed w.hist ++ []
      rw [hw.frames, List.append_nil]
  pass {σ ready buf} fuel h hw hbuf := by
    have hstart : Relayed (relayed σ.hist) (σ.world.log [.round ready]) :=
      ⟨h.1.log (List.forall_mem_singleton.mpr rfl), by
        rw [World.log_hist, relayed_append]; exact List.append_nil _⟩
    refine ((pass_relayed L _ _ _).sat fuel 0 buf _ hbuf hstart).mono
      (fun w hw => ?_) (fun flow w _ hw => ⟨hw.wf, ?_⟩) (fun _ _ _ => id)
    · rw [hw.frames, h.2]
      exact List.prefix_append _ _
    · show σ.reads = relayed w.hist ++ σ.reader.inHand
      rw [hw.frames]
      exact h.2

end Reads

/-- In every run, whenever the mutex is free: the bytes sent to a client of the
table since it was added are whole records of legal frames.  With a device the
payloads are a subsequence of the frames read from it; without one, of the
frames forwarded, each of which had then just been received whole. -/
theorem sent_wellFormed {L : Allows} {σ : Sys} (h : Reachable L σ) (hf : σ.Free) {fd : Fd}
    (hfd : fd ∈ σ.live) :
    ∃ ps, sentTo fd (sinceAdded fd σ.hist) = records ps ∧ (∀ f ∈ ps, Legal bufSize f) ∧
      (σ.server.tapcfg = true → ps.Sublist σ.reads) ∧
      (σ.server.tapcfg = false → ps.Sublist (forwarded (sinceAdded fd σ.hist)) ∧
        ∀ h₁ c data h₂, σ.hist = h₁ ++ .forward c data :: h₂ →
          c ∈ tableOf h₁ ∧ receivedFrom c (sinceAdded c h₁) =
            records (passedFrom c (sinceAdded c h₁)) ++ record data) := by
  have hs : Sendings σ.world := ((sendings L).sysInv.reachable h).1 hf
  have hsince : sinceAdded fd σ.hist <:+ σ.hist := since_suffix _ _
  have hlaw : ∀ e ∈ sinceAdded fd σ.hist, ∃ h₁, Lawful L σ.server.tapcfg h₁ e := fun e he =>
    h.lawful (hsince.mem he)
  obtain ⟨ps, hbytes, horder⟩ : ∃ ps, Whole fd σ.hist ps := hs.whole fd hfd
  refine ⟨ps, hbytes, fun f hmem => ?_, fun hdev => ?_, fun hdev => ⟨?_, ?_⟩⟩
  · have hoffered : f ∈ offered (sinceAdded fd σ.hist) := horder.subset hmem
    exact hs.legal f ((hsince.sublist.filterMap _).subset hoffered)
  · rw [hdev] at hlaw
    rw [offered_eq_relayed hlaw] at horder
    exact (horder.trans (hsince.sublist.filterMap _)).trans ((reads L).reachable h).2.sublist
  · rw [hdev] at hlaw
    rwa [offered_eq_forwarded hlaw] at horder
  · intro h₁ c data h₂ hhist
    have hhonest : Along Honest [] σ.hist := ((streams L).sysInv.reachable h).2.honest
    obtain ⟨hmem, -, hd⟩ := hhonest.at hhist
    exact ⟨hmem, hd.split⟩

/-- A server without a device has forwarded a frame of client 5 to client 6. -/
theorem sent_wellFormed_forwarded :
    ∃ ps, records ps = [0, 1, 7] ∧ ps.Sublist [([7] : Frame)] := by
  let first : List Event := [.round [5], .serving 5, .recv 5 2 (some [0, 1]), .recv 5 1 (some [7]),
    .forward 5 [7], .send 6 [0, 1] (some 2), .send 6 [7] (some 1)]
  have hstart := atTop_reachable anyAnswer false (show [5, 6].Nodup by decide) (by decide)
  have hframe : Reachable anyAnswer
      (Sys.atTop false ⟨.holding [5, 6], [.added 5, .added 6] ++ first⟩) :=
    hstart.turn (show fdSet _ = .ok ([5, 6], 6) from rfl) (by decide)
      (show [5] ⊆ [5, 6] by decide) (scripted_follows_any (fun _ => [0, 1, 7]) 1) 8
      (by decide +kernel)
  obtain ⟨ps, hbytes, -, -, hforward⟩ := sent_wellFormed hframe (atTop_free _ _)
    (show 6 ∈ ClientTable.live (.holding [5, 6]) by decide)
  exact ⟨ps, hbytes.symm, (hforward rfl).1⟩

end TapCfg.Daemon
