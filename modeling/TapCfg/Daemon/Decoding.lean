/-
  Daemon/Decoding.lean --- what the server makes of the stream of one client.

  For each descriptor the history since it was added splits in two: the records
  of the frames passed on, and a tail that is part of one record (`Decoded`).
  Between two sections the tail of a client in the table is empty, and a client
  that was taken out has a failed call or a bad length to show for it
  (`Stream`).  No step for one client touches the split of another.

  The reference decoder `cut` never enters the induction; it is compared with
  the split at the end (`decoding_agrees`).
-/
import TapCfg.Daemon.Admission

set_option autoImplicit false

namespace TapCfg.Daemon

open TapCfg.Foundation
open Prog

/-! ## The split of one stream -/

/-- What was received from `fd` since it was added is the records of the frames
passed on, then `tail`. -/
structure Decoded (fd : Fd) (h : List Event) (tail : List Byte) : Prop where
  legal : ∀ f ∈ passedFrom fd (sinceAdded fd h), Legal bufSize f
  split : receivedFrom fd (sinceAdded fd h) = records (passedFrom fd (sinceAdded fd h)) ++ tail

/-- Why a client may have been taken out of the table. -/
def Excused (fd : Fd) (h : List Event) (tail : List Byte) : Prop :=
  SendFailed fd (sinceAdded fd h) ∨ RecvFailed fd (sinceAdded fd h) ∨ BadHead bufSize tail

/-- The stream of one descriptor between two sections. -/
structure Stream (fd : Fd) (w : World) (tail : List Byte) : Prop where
  decoded : Decoded fd w.hist tail
  within : PartialRecord tail
  pending : fd ∈ w.live → tail = []
  excused : .added fd ∈ w.hist → fd ∉ w.live → Excused fd w.hist tail

/-- Is the event the passing on of a frame? -/
def Event.passesOn : Event → Bool
  | .write _ _ _ => true
  | .forward _ _ => true
  | _ => false

/-- A frame is passed on just when its record has been received whole. -/
def Honest (h : List Event) : Event → Prop
  | .write c data _ => c ∈ tableOf h ∧ Legal bufSize data ∧ Decoded c h (record data)
  | .forward c data => c ∈ tableOf h ∧ Legal bufSize data ∧ Decoded c h (record data)
  | _ => True

/-- The event passes on a frame of `fd`. -/
def Event.Passes (fd : Fd) (frame : List Byte) (e : Event) : Prop :=
  (∃ ret, e = .write fd frame ret) ∨ e = .forward fd frame

/-- What the mutex protects, at every moment. -/
structure Streaming (w : World) : Prop where
  wf : w.Wf
  honest : Along Honest [] w.hist
  stream : ∀ fd, ∃ tail, Decoded fd w.hist tail ∧ PartialRecord tail

/-- What the mutex protects, between two sections. -/
structure Streams (w : World) : Prop where
  wf : w.Wf
  honest : Along Honest [] w.hist
  stream : ∀ fd, ∃ tail, Stream fd w tail

theorem Streams.streaming {w : World} (h : Streams w) : Streaming w :=
  ⟨h.wf, h.honest, fun fd => (h.stream fd).imp fun _ hs => ⟨hs.decoded, hs.within⟩⟩

theorem along_honest {h τ : List Event} (hτ : ∀ e ∈ τ, e.passesOn = false) :
    Along Honest h τ := by
  rw [along_iff]
  rintro τ₁ e τ₂ rfl
  have := hτ e (by simp)
  cases e <;> simp_all [Event.passesOn, Honest]

namespace Decoded

variable {fd : Fd} {h τ : List Event} {tail : List Byte}

/-- More bytes from the client. -/
theorem receive (hd : Decoded fd h tail) (hadds : ∀ e ∈ τ, e.adds fd = false)
    (hpass : passedFrom fd τ = []) : Decoded fd (h ++ τ) (tail ++ receivedFrom fd τ) := by
  constructor
  · rw [sinceAdded_append h hadds, passedFrom_append, hpass, List.append_nil]
    exact hd.legal
  · rw [sinceAdded_append h hadds, passedFrom_append, hpass, List.append_nil,
      receivedFrom_append, hd.split, List.append_assoc]

/-- Nothing that concerns the client. -/
theorem quiet (hd : Decoded fd h tail) (hadds : ∀ e ∈ τ, e.adds fd = false)
    (hpass : passedFrom fd τ = []) (hrecv : receivedFrom fd τ = []) :
    Decoded fd (h ++ τ) tail := by
  have := hd.receive hadds hpass
  rwa [hrecv, List.append_nil] at this

/-- The frame that has been received is passed on. -/
theorem pass {frame : List Byte} {e : Event} (hd : Decoded fd h (record frame))
    (hlegal : Legal bufSize frame) (he : e.Passes fd frame) : Decoded fd (h ++ [e]) [] := by
  have hadds : ∀ e' ∈ [e], e'.adds fd = false := by
    rcases he with ⟨ret, rfl⟩ | rfl <;> exact List.forall_mem_singleton.mpr rfl
  have hpass : passedFrom fd [e] = [frame] := by
    rcases he with ⟨ret, rfl⟩ | rfl <;> simp [passedFrom, Event.passedFrom]
  have hrecv : receivedFrom fd [e] = [] := by
    rcases he with ⟨ret, rfl⟩ | rfl <;> rfl
  constructor
  · rw [sinceAdded_append h hadds, passedFrom_append, hpass]
    intro f hf
    rcases List.mem_append.mp hf with hf | hf
    · exact hd.legal f hf
    · rw [List.mem_singleton.mp hf]
      exact hlegal
  · rw [sinceAdded_append h hadds, passedFrom_append, hpass, receivedFrom_append, hrecv, hd.split,
      records_append, records_singleton, List.append_nil]

/-- The descriptor has just been added. -/
theorem fresh (fd : Fd) (h : List Event) : Decoded fd (h ++ [.added fd]) [] := by
  constructor <;> rw [sinceAdded_added] <;> simp

end Decoded

theorem Excused.append {fd : Fd} {h τ : List Event} {tail : List Byte} (he : Excused fd h tail)
    (hadds : ∀ e ∈ τ, e.adds fd = false) : Excused fd (h ++ τ) tail := by
  rw [Excused, sinceAdded_append h hadds]
  refine he.imp ?_ (Or.imp_left ?_)
  · rintro ⟨d, hd⟩
    exact ⟨d, List.mem_append_left τ hd⟩
  · rintro ⟨n, hn⟩
    exact ⟨n, List.mem_append_left τ hn⟩

/-- Nothing that concerns the descriptor. -/
theorem Stream.quiet {fd : Fd} {w w' : World} {τ : List Event} {tail : List Byte}
    (h : Stream fd w tail) (hhist : w'.hist = w.hist ++ τ) (hlive : fd ∈ w'.live ↔ fd ∈ w.live)
    (hadds : ∀ e ∈ τ, e.adds fd = false) (hpass : passedFrom fd τ = [])
    (hrecv : receivedFrom fd τ = []) : Stream fd w' tail := by
  refine ⟨?_, h.within, fun hmem => h.pending (hlive.mp hmem), fun hadded hnot => ?_⟩
  · rw [hhist]
    exact h.decoded.quiet hadds hpass hrecv
  · rw [hhist] at hadded ⊢
    refine (h.excused ?_ fun hmem => hnot (hlive.mpr hmem)).append hadds
    rcases List.mem_append.mp hadded with hadded | hadded
    · exact hadded
    · have := hadds _ hadded
      simp [Event.adds] at this

/-! ## The two sections -/

namespace Streams

variable {L : Allows} {w w' : World}

/-- Part of a record out. -/
theorem sending (h : Streams w) {s : Fd} {data : List Byte} {τ : List Event}
    (hτ : SendTrace L w.hist s data τ) : Streams (w.log τ) := by
  refine ⟨h.wf.log hτ.not_onTable, ?_, fun fd => ?_⟩
  · refine along_append.mpr ⟨h.honest, along_honest fun e he => ?_⟩
    obtain ⟨d, r, -, rfl⟩ := hτ.only e he
    rfl
  · obtain ⟨tail, hs⟩ := h.stream fd
    exact ⟨tail, hs.quiet rfl Iff.rfl (hτ.not_adds fd) (hτ.passedFrom_eq fd)
      (hτ.receivedFrom_eq fd)⟩

/-- Part of a record in: only the stream of that client has moved. -/
theorem receiving (h : Streams w) {i : Nat} {fd : Fd} {τ : List Event}
    (hi : w.live[i]? = some fd) (hτ : RecordTrace L (w.hist ++ [.serving fd]) fd τ) :
    Along Honest [] (w.log (.serving fd :: τ)).hist ∧
      Decoded fd (w.log (.serving fd :: τ)).hist (receivedFrom fd τ) ∧
      ∀ fd', fd' ≠ fd → ∃ tail, Stream fd' (w.log (.serving fd :: τ)) tail := by
  have hadds : ∀ fd', ∀ e ∈ Event.serving fd :: τ, e.adds fd' = false := fun fd' e he =>
    Event.adds_eq_false (hτ.served_not_onTable e he) fd'
  have hpass : ∀ fd', passedFrom fd' (.serving fd :: τ) = [] := fun fd' => hτ.passedFrom_eq fd'
  refine ⟨?_, ?_, fun fd' hne => ?_⟩
  · refine along_append.mpr ⟨h.honest, along_honest fun e he => ?_⟩
    rcases List.mem_cons.mp he with rfl | he
    · rfl
    · obtain ⟨n, r, -, rfl⟩ := hτ.only e he
      rfl
  · obtain ⟨tail, hs⟩ := h.stream fd
    have htail : tail = [] := hs.pending (List.mem_of_getElem? hi)
    subst htail
    exact hs.decoded.receive (hadds fd) (hpass fd)
  · obtain ⟨tail, hs⟩ := h.stream fd'
    exact ⟨tail, hs.quiet rfl Iff.rfl (hadds fd') (hpass fd') (hτ.receivedFrom_ne hne.symm)⟩

/-- A client with an excuse is taken out. -/
theorem drop {fd : Fd} {j : Nat} {tail : List Byte} (hwf : w.Wf)
    (hhonest : Along Honest [] w.hist) (hd : Decoded fd w.hist tail)
    (hwithin : PartialRecord tail) (hexc : Excused fd w.hist tail)
    (hothers : ∀ fd', fd' ≠ fd → ∃ tail, Stream fd' w tail) (hj : w.live[j]? = some fd)
    (hr : removeClient w j = .ok w') : Streams w' := by
  obtain ⟨hwf', hlive⟩ := hwf.remove hj hr
  have hhist := (removeClient_spec hwf.table hj hr).2.2.1
  have hadds : ∀ fd', ∀ e ∈ [Event.removed fd], e.adds fd' = false := fun _ =>
    List.forall_mem_singleton.mpr rfl
  have hgone : fd ∉ w'.live := by
    rw [hlive]
    exact hwf.nodup.not_mem_erase
  refine ⟨hwf', ?_, fun fd' => ?_⟩
  · rw [hhist]
    exact along_append.mpr ⟨hhonest, along_singleton.mpr trivial⟩
  · by_cases heq : fd' = fd
    · subst heq
      refine ⟨tail, ?_, hwithin, fun hmem => (hgone hmem).elim, fun _ _ => ?_⟩
      · rw [hhist]
        exact hd.quiet (hadds fd') rfl rfl
      · rw [hhist]
        exact hexc.append (hadds fd')
    · obtain ⟨tail', hs⟩ := hothers fd' heq
      refine ⟨tail', hs.quiet hhist ?_ (hadds fd') rfl rfl⟩
      rw [hlive]
      exact List.mem_erase_of_ne heq

/-- A record was received whole and its frame is passed on. -/
theorem pass (h : Streams w) {i : Nat} {fd : Fd} {τ : List Event} {frame : List Byte} {e : Event}
    (hi : w.live[i]? = some fd) (hτ : RecordTrace L (w.hist ++ [.serving fd]) fd τ)
    (hlegal : Legal bufSize frame) (hgot : receivedFrom fd τ = record frame)
    (he : e.Passes fd frame) : Streams (w.log (.serving fd :: τ ++ [e])) := by
  obtain ⟨hhonest, hd, hothers⟩ := h.receiving hi hτ
  have htable : e.onTable = false := by
    rcases he with ⟨ret, rfl⟩ | rfl <;> rfl
  have hmem : fd ∈ tableOf (w.log (.serving fd :: τ)).hist := by
    rw [(h.wf.log hτ.served_not_onTable).told]
    exact List.mem_of_getElem? hi
  rw [hgot] at hd
  rw [← World.log_log]
  refine ⟨(h.wf.log hτ.served_not_onTable).log (List.forall_mem_singleton.mpr htable), ?_,
    fun fd' => ?_⟩
  · refine along_append.mpr ⟨hhonest, along_singleton.mpr ?_⟩
    rcases he with ⟨ret, rfl⟩ | rfl <;> exact ⟨hmem, hlegal, hd⟩
  · by_cases heq : fd' = fd
    · subst heq
      exact ⟨[], hd.pass hlegal he, .inl (by simp), fun _ => rfl,
        fun _ hnot => (hnot (List.mem_of_getElem? hi)).elim⟩
    · obtain ⟨tail, hs⟩ := hothers fd' heq
      refine ⟨tail, hs.quiet rfl Iff.rfl ?_ ?_ ?_⟩
      · exact List.forall_mem_singleton.mpr (Event.adds_eq_false htable fd')
      · rcases he with ⟨ret, rfl⟩ | rfl <;> simp [passedFrom, Event.passedFrom, Ne.symm heq]
      · rcases he with ⟨ret, rfl⟩ | rfl <;> rfl

/-- In the middle of a record in. -/
theorem reading (h : Streams w) {i : Nat} {fd : Fd} {τ : List Event}
    (hi : w.live[i]? = some fd) (hτ : RecordTrace L (w.hist ++ [.serving fd]) fd τ) :
    Streaming (w.log (.serving fd :: τ)) := by
  obtain ⟨hhonest, hd, hothers⟩ := h.receiving hi hτ
  refine ⟨h.wf.log hτ.served_not_onTable, hhonest, fun fd' => ?_⟩
  by_cases heq : fd' = fd
  · subst heq
    exact ⟨_, hd, hτ.inside⟩
  · exact (hothers fd' heq).imp fun _ hs => ⟨hs.decoded, hs.within⟩

end Streams

section Sections

variable (L : Allows)

theorem relay_streams (skip : Nat → Bool) (data : List Byte) :
    RelayInv L skip data Streaming Streams NotReturned (fun _ _ => Streams) where
  wf h := h.wf.table
  holds h := h.streaming
  skipped h _ _ := h
  mid h _ _ hτ := (h.sending hτ).streaming
  sent h _ _ hτ _ _ := h.sending hτ
  dropped {n j w fd τ w'} h hfd _ hτ hfailed hr := by
    have hs := h.sending hτ
    obtain ⟨tail, ht⟩ := hs.stream fd
    refine Streams.drop hs.wf hs.honest ht.decoded ht.within (.inl ?_) (fun fd' _ => hs.stream fd')
      hfd hr
    obtain ⟨d, hd⟩ := hfailed
    rw [World.log_hist, sinceAdded_append _ (hτ.not_adds fd)]
    exact ⟨d, List.mem_append_right _ hd⟩
  spent _ := rfl
  stuck _ _ _ _ _ _ := rfl
  done h _ := h

theorem pass_streams (tapcfg : Bool) (ready : List Fd) :
    PassInv L tapcfg ready Streaming (fun _ => Streams) NotReturned (fun _ _ => Streams) where
  wf h := h.wf.table
  holds h := h.streaming
  skipped h _ _ := h
  mid h hfd _ hτ := h.reading hfd hτ
  refused {n i w fd τ w'} h hfd _ hτ hrefused hr := by
    obtain ⟨hhonest, hd, hothers⟩ := h.receiving hfd hτ
    have hadds : ∀ e ∈ Event.serving fd :: τ, e.adds fd = false := fun e he =>
      Event.adds_eq_false (hτ.served_not_onTable e he) fd
    refine Streams.drop (h.wf.log hτ.served_not_onTable) hhonest hd hτ.inside ?_ hothers hfd hr
    rcases hrefused with ⟨n, hn⟩ | ⟨hbad, -⟩
    · rw [Excused, World.log_hist, sinceAdded_append _ hadds]
      exact .inr (.inl ⟨n, List.mem_append_right _ (List.mem_cons_of_mem _ hn)⟩)
    · exact .inr (.inr hbad)
  written _ h hfd _ hτ hlegal hgot _ _ := h.pass hfd hτ hlegal hgot (.inl ⟨_, rfl⟩)
  rejected _ h hfd _ hτ hlegal hgot _ _ :=
    ⟨(h.pass hfd hτ hlegal hgot (.inl ⟨_, rfl⟩)).streaming,
      h.pass hfd hτ hlegal hgot (.inl ⟨_, rfl⟩)⟩
  forwarded _ h hfd _ hτ hlegal hgot hbuf hframe :=
    RelayInv.sat_forwardLoop hlegal hbuf hframe (relay_streams L _ _)
      (h.pass hfd hτ hlegal hgot (.inr rfl))
  spent _ := rfl
  stuck _ _ _ _ _ _ := rfl
  done h _ := h

/-- A ghost event that opens a section. -/
theorem Streams.opening {w : World} (h : Streams w) {e : Event} (htable : e.onTable = false)
    (hon : e.passesOn = false) (hpass : ∀ fd, passedFrom fd [e] = [])
    (hrecv : ∀ fd, receivedFrom fd [e] = []) : Streams (w.log [e]) := by
  refine ⟨h.wf.log (List.forall_mem_singleton.mpr htable), ?_, fun fd => ?_⟩
  · exact along_append.mpr ⟨h.honest, along_honest (List.forall_mem_singleton.mpr hon)⟩
  · obtain ⟨tail, hs⟩ := h.stream fd
    exact ⟨tail, hs.quiet rfl Iff.rfl
      (List.forall_mem_singleton.mpr (Event.adds_eq_false htable fd)) (hpass fd) (hrecv fd)⟩

theorem Streams.add {w w' : World} {fd : Fd} {ret : Int} (h : Streams w) (hfd : fd ∉ w.live)
    (hadd : tapserverAddClient w fd = .ok (ret, w')) : Streams w' := by
  have hwf := h.wf.add hfd hadd
  rcases addClient_spec h.wf.table hadd with ⟨-, rfl, -⟩ | ⟨-, -, -, hlive, hhist, -⟩
  · exact h
  · refine ⟨hwf, ?_, fun fd' => ?_⟩
    · rw [hhist]
      exact along_append.mpr ⟨h.honest, along_singleton.mpr trivial⟩
    · by_cases heq : fd' = fd
      · subst heq
        refine ⟨[], ?_, .inl (by simp), fun _ => rfl, fun _ hnot => (hnot ?_).elim⟩
        · rw [hhist]
          exact .fresh fd' w.hist
        · rw [hlive]
          exact List.mem_append_right _ (List.mem_singleton.mpr rfl)
      · obtain ⟨tail, hs⟩ := h.stream fd'
        refine ⟨tail, hs.quiet hhist ?_ ?_ rfl rfl⟩
        · rw [hlive, List.mem_append, List.mem_singleton]
          exact or_iff_left heq
        · exact List.forall_mem_singleton.mpr (by simp [Event.adds, Ne.symm heq])

/-- The streams over whole runs. -/
theorem streams : WorldInv L (fun _ => Streaming) fun _ => Streams where
  init tapcfg := by
    refine ⟨Sys.init_wf tapcfg, trivial, fun fd => ⟨[], ⟨by simp [Sys.init, Sys.world, sinceAdded],
      by simp [Sys.init, Sys.world, sinceAdded]⟩, .inl (by simp), fun _ => rfl, ?_⟩⟩
    intro hmem
    cases hmem
  holds h := h.streaming
  add h hfd hadd := h.add hfd hadd
  broadcast fuel h hlegal :=
    RelayInv.sat_broadcast hlegal (relay_streams L _ _)
      (h.opening rfl rfl (fun _ => rfl) fun _ => rfl)
  pass {tapcfg w ready buf} fuel h hbuf :=
    (pass_streams L tapcfg ready).sat fuel 0 buf _ hbuf
      (h.opening rfl rfl (fun _ => rfl) fun _ => rfl)

end Sections

/-! ## The law of the history -/

/-- Every call was answered as the environment may, and the event can happen in
this mode: only a server with a device reads from it and writes to it, only a
server without forwards. -/
def Lawful (L : Allows) (tapcfg : Bool) (h : List Event) : Event → Prop
  | .send s data answer => L h (.send s data answer)
  | .recv s n answer => L h (.recv s n answer)
  | .write c data answer => tapcfg = true ∧ L h (.write c data answer)
  | .forward _ _ => tapcfg = false
  | .relay _ => tapcfg = true
  | _ => True

/-- The history is lawful. -/
structure Abiding (L : Allows) (tapcfg : Bool) (w : World) : Prop where
  wf : w.Wf
  lawful : Along (Lawful L tapcfg) [] w.hist

section Law

variable {L : Allows} {tapcfg : Bool} {w w' : World}

theorem Abiding.log (h : Abiding L tapcfg w) {τ : List Event}
    (htable : ∀ e ∈ τ, e.onTable = false) (hτ : Along (Lawful L tapcfg) w.hist τ) :
    Abiding L tapcfg (w.log τ) :=
  ⟨h.wf.log htable, along_append.mpr ⟨h.lawful, hτ⟩⟩

theorem Abiding.remove (h : Abiding L tapcfg w) {j : Nat} {fd : Fd} (hj : w.live[j]? = some fd)
    (hr : removeClient w j = .ok w') : Abiding L tapcfg w' := by
  refine ⟨(h.wf.remove hj hr).1, ?_⟩
  rw [(removeClient_spec h.wf.table hj hr).2.2.1]
  exact along_append.mpr ⟨h.lawful, along_singleton.mpr trivial⟩

theorem SendTrace.lawful {h : List Event} {s : Fd} {data : List Byte} {τ : List Event}
    (hτ : SendTrace L h s data τ) (tapcfg : Bool) : Along (Lawful L tapcfg) h τ := by
  rw [along_iff]
  intro τ₁ e τ₂ hs
  have hL := along_iff.mp hτ.along τ₁ e τ₂ hs
  obtain ⟨d, r, -, rfl⟩ := hτ.only e (by rw [hs]; simp)
  exact hL

theorem RecordTrace.lawful {h : List Event} {s : Fd} {τ : List Event}
    (hτ : RecordTrace L (h ++ [.serving s]) s τ) (tapcfg : Bool) :
    Along (Lawful L tapcfg) h (.serving s :: τ) := by
  refine ⟨trivial, along_iff.mpr fun τ₁ e τ₂ hs => ?_⟩
  have hL := along_iff.mp hτ.along τ₁ e τ₂ hs
  obtain ⟨n, r, -, rfl⟩ := hτ.only e (by rw [hs]; simp)
  exact hL

theorem relay_abiding (skip : Nat → Bool) (data : List Byte) :
    RelayInv L skip data (Abiding L tapcfg) (Abiding L tapcfg) NotReturned
      (fun _ _ => Abiding L tapcfg) where
  wf h := h.wf.table
  holds h := h
  skipped h _ _ := h
  mid h _ _ hτ := h.log hτ.not_onTable (hτ.lawful tapcfg)
  sent h _ _ hτ _ _ := h.log hτ.not_onTable (hτ.lawful tapcfg)
  dropped h hfd _ hτ _ hr := (h.log hτ.not_onTable (hτ.lawful tapcfg)).remove hfd hr
  spent _ := rfl
  stuck _ _ _ _ _ _ := rfl
  done h _ := h

theorem pass_abiding (ready : List Fd) :
    PassInv L tapcfg ready (Abiding L tapcfg) (fun _ => Abiding L tapcfg) NotReturned
      (fun _ _ => Abiding L tapcfg) where
  wf h := h.wf.table
  holds h := h
  skipped h _ _ := h
  mid h _ _ hτ := h.log hτ.served_not_onTable (hτ.lawful tapcfg)
  refused h hfd _ hτ _ hr := (h.log hτ.served_not_onTable (hτ.lawful tapcfg)).remove hfd hr
  written htap h _ _ hτ _ _ hL _ :=
    h.log (hτ.passed_not_onTable rfl)
      (along_append.mpr ⟨hτ.lawful tapcfg, along_singleton.mpr ⟨htap, hL⟩⟩)
  rejected {n i w fd τ frame answer} htap h _ _ hτ _ _ hL _ := by
    have hs : Abiding L tapcfg (w.log (.serving fd :: τ ++ [.write fd frame answer])) :=
      h.log (hτ.passed_not_onTable rfl)
        (along_append.mpr ⟨hτ.lawful tapcfg, along_singleton.mpr ⟨htap, hL⟩⟩)
    exact ⟨hs, hs⟩
  forwarded htap h _ _ hτ hlegal _ hbuf hframe :=
    RelayInv.sat_forwardLoop hlegal hbuf hframe (relay_abiding _ _)
      (h.log (hτ.passed_not_onTable rfl)
        (along_append.mpr ⟨hτ.lawful tapcfg, along_singleton.mpr htap⟩))
  spent _ := rfl
  stuck _ _ _ _ _ _ := rfl
  done h _ := h

end Law

/-- Every history is lawful. -/
theorem abiding (L : Allows) : WorldInv L (Abiding L) (Abiding L) where
  init tapcfg := ⟨Sys.init_wf tapcfg, trivial⟩
  holds h := h
  add h hfd hadd := by
    refine ⟨h.wf.add hfd hadd, ?_⟩
    rcases addClient_spec h.wf.table hadd with ⟨-, rfl, -⟩ | ⟨-, -, -, -, hhist, -⟩
    · exact h.lawful
    · rw [hhist]
      exact along_append.mpr ⟨h.lawful, along_singleton.mpr trivial⟩
  broadcast fuel h hlegal :=
    RelayInv.sat_broadcast hlegal (relay_abiding _ _)
      (h.log (List.forall_mem_singleton.mpr rfl) (along_singleton.mpr rfl))
  pass {tapcfg w ready buf} fuel h hbuf :=
    (pass_abiding ready).sat fuel 0 buf _ hbuf
      (h.log (List.forall_mem_singleton.mpr rfl) (along_singleton.mpr trivial))

/-- Every event of a run is lawful. -/
theorem Reachable.lawful {L : Allows} {σ : Sys} (h : Reachable L σ) {e : Event}
    (he : e ∈ σ.hist) : ∃ h₁, Lawful L σ.server.tapcfg h₁ e :=
  ((abiding L).sysInv.reachable h).2.lawful.of_mem he

/-! ## The frames written to the device -/

/-- The frame of `fd` one event writes to the device. -/
def Event.writtenFrom (fd : Fd) : Event → Option (List Byte)
  | .write c data _ => if c = fd then some data else none
  | _ => none

/-- The frames of `fd` given to `tapcfg_write`. -/
def writtenFrom (fd : Fd) (h : List Event) : List (List Byte) := h.filterMap (Event.writtenFrom fd)

/-- With a device, the frames passed on are those given to `tapcfg_write`. -/
theorem writtenFrom_eq {L : Allows} {fd : Fd} {h : List Event}
    (hs : ∀ e ∈ h, ∃ h₁, Lawful L true h₁ e) : writtenFrom fd h = passedFrom fd h := by
  refine List.filterMap_congr fun e he => ?_
  obtain ⟨h₁, hlaw⟩ := hs e he
  cases e <;> first | rfl | simp_all [Lawful]

/-- A record of bad length stays the last thing that was read: nothing behind it
has been received, and the frames before it are the ones passed on. -/
theorem Decoded.of_badHead {fd : Fd} {h : List Event} {tail s : List Byte} {fs : List (List Byte)}
    (hd : Decoded fd h tail) (hwithin : PartialRecord tail) (hfs : ∀ f ∈ fs, Legal bufSize f)
    (hsplit : receivedFrom fd (sinceAdded fd h) = records fs ++ s) (hbad : BadHead bufSize s) :
    s = tail ∧ s.length = 2 ∧ passedFrom fd (sinceAdded fd h) = fs := by
  have heq : records (passedFrom fd (sinceAdded fd h)) ++ tail = records fs ++ s := by
    rw [← hd.split, hsplit]
  have hcut := congrArg (cut bufSize) heq
  rw [cut_records_append bufSize_lt hd.legal, cut_records_append bufSize_lt hfs,
    cut_of_badHead hbad, List.append_nil] at hcut
  obtain ⟨rest, hrest, hlegal⟩ := cut_split bufSize tail
  have hs : tail = records (cut bufSize tail) ++ s := by
    have := heq
    rw [← hcut, records_append, List.append_assoc] at this
    exact List.append_cancel_left this
  have htwo : 2 ≤ s.length := hbad.1
  cases hg : cut bufSize tail with
  | nil =>
      rw [hg, records_nil, List.nil_append] at hs
      subst hs
      refine ⟨rfl, ?_, by rw [hg, List.append_nil] at hcut; exact hcut⟩
      rcases hwithin with hle | ⟨hfit, hle⟩
      · omega
      · rcases hbad.2 with hzero | hbig <;> omega
  | cons g gs =>
      -- a whole record and a length behind it are more than part of a record
      have hglegal : Legal bufSize g := hlegal g (by rw [hg]; exact List.mem_cons_self)
      have hval : headerValue tail = g.length := by
        rw [hs, hg, records_cons, List.append_assoc,
          headerValue_record (Nat.lt_of_le_of_lt hglegal.2 bufSize_lt)]
      have hlen : tail.length = 2 + g.length + (records gs).length + s.length := by
        conv => lhs; rw [hs, hg, records_cons]
        simp only [List.length_append, record_length]
      have hpos := hglegal.1
      rcases hwithin with hle | ⟨-, hle⟩ <;> omega

/-- In every run of a server with a device and at every moment: the frames of a
client given to `tapcfg_write` begin the list the reference decoder cuts from
its stream, however much of the stream has come; and once a bad length has been
received nothing behind it is read, and the client is taken out in the same
section. -/
theorem decoding_agrees {L : Allows} {σ : Sys} (h : Reachable L σ)
    (hdev : σ.server.tapcfg = true) {fd : Fd} {stream : List Byte}
    (hstream : receivedFrom fd (sinceAdded fd σ.hist) <+: stream) :
    writtenFrom fd (sinceAdded fd σ.hist) <+: cut bufSize stream ∧
      ∀ fs s, (∀ f ∈ fs, Legal bufSize f) →
        receivedFrom fd (sinceAdded fd σ.hist) = records fs ++ s → BadHead bufSize s →
        s.length = 2 ∧ writtenFrom fd (sinceAdded fd σ.hist) = fs ∧ (σ.Free → fd ∉ σ.live) := by
  have hlaw : ∀ e ∈ sinceAdded fd σ.hist, ∃ h₁, Lawful L true h₁ e := fun e he =>
    hdev ▸ h.lawful ((since_suffix _ _).mem he)
  obtain ⟨hfree, hmoment⟩ := (streams L).sysInv.reachable h
  obtain ⟨tail, hd, hwithin⟩ : ∃ tail, Decoded fd σ.hist tail ∧ PartialRecord tail :=
    hmoment.stream fd
  rw [writtenFrom_eq hlaw]
  refine ⟨?_, fun fs s hfs hrecv hbad => ?_⟩
  · obtain ⟨rest, hrest⟩ := hstream
    rw [← hrest, hd.split, List.append_assoc, cut_records_append bufSize_lt hd.legal]
    exact List.prefix_append _ _
  · obtain ⟨-, hlen, hpassed⟩ := hd.of_badHead hwithin hfs hrecv hbad
    refine ⟨hlen, hpassed, fun hf hmem => ?_⟩
    obtain ⟨tail', hs⟩ := (hfree hf).stream fd
    obtain ⟨heq, -⟩ := hs.decoded.of_badHead hs.within hfs hrecv hbad
    have : s = [] := heq.trans (hs.pending hmem)
    subst this
    simp at hlen

/-- Two rounds of a server with a device: client 5 has sent a frame and then a
bad length. -/
theorem decoding_agrees_badLength :
    ∃ σ, Reachable anyAnswer σ ∧ writtenFrom 5 (sinceAdded 5 σ.hist) = [[7]] ∧ 5 ∉ σ.live := by
  let first : List Event := [.round [5], .serving 5, .recv 5 2 (some [0, 1]), .recv 5 1 (some [7]),
    .write 5 [7] 1]
  let second : List Event := [.round [5], .serving 5, .recv 5 2 (some [0, 0]), .removed 5]
  have hfollows := scripted_follows_any (fun _ => [0, 1, 7, 0, 0, 0, 1, 8]) 1
  have hstart := atTop_reachable anyAnswer true (show [5].Nodup by decide) (by decide)
  have hframe : Reachable anyAnswer (Sys.atTop true ⟨.holding [5], .added 5 :: first⟩) :=
    hstart.turn (show fdSet _ = .ok ([5], 5) from rfl) (by decide) (List.Subset.refl [5]) hfollows
      5 (by decide +kernel)
  have hbad : Reachable anyAnswer
      (Sys.atTop true ⟨⟨0, 5, [5, 0, 0, 0, 0]⟩, .added 5 :: first ++ second⟩) :=
    hframe.turn (show fdSet _ = .ok ([5], 5) from rfl) (by decide) (List.Subset.refl [5]) hfollows
      5 (by decide +kernel)
  obtain ⟨-, h⟩ := decoding_agrees hbad rfl (List.prefix_refl (receivedFrom 5 _))
  obtain ⟨-, hwritten, hgone⟩ := h [[7]] [0, 0] (by decide) rfl (by decide)
  exact ⟨_, hbad, hwritten, hgone (atTop_free _ _)⟩

end TapCfg.Daemon
