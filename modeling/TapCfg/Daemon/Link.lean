/-
  Daemon/Link.lean --- two tapservers and the connection between them.

  One server relays the frames of its device to its clients; one client is
  another server, which writes what it decodes to its own device.  The
  connection is known by its contract alone: at every moment the bytes one end
  has received are the beginning of the bytes the other end has sent.  How
  `send` and `recv` cut the stream, and how the steps of the two servers
  interleave, is left open.

  The encoder's side (`levels`): as long as no send fails, each client of the
  table has been sent the records of all the frames relayed since it was added.
  The decoder's side is `streams`.  Neither end can drop the connection over
  what it receives, because what the other sends are records of legal frames.
-/
import TapCfg.Daemon.Encoding

set_option autoImplicit false

namespace TapCfg.Daemon

open TapCfg.Foundation
open Prog

/-- No send fails, and no `recv` from `fd`: the connection stays open. -/
def Steady (fd : Fd) : Allows := fun _ e =>
  match e with
  | .send _ _ none => False
  | .recv s _ none => s ≠ fd
  | _ => True

/-! ## The encoder -/

/-- What was sent to each descriptor begins the records of the frames offered
since it was added. -/
structure Even (w : World) : Prop where
  wf : w.Wf
  begun : ∀ fd, sentTo fd (sinceAdded fd w.hist) <+: records (offered (sinceAdded fd w.hist))

/-- Between two sections the clients of the table have been sent all of it. -/
structure Level (w : World) : Prop extends Even w where
  exact : ∀ fd ∈ w.live,
    sentTo fd (sinceAdded fd w.hist) = records (offered (sinceAdded fd w.hist))

/-- At index `j` of the loop the clients before it have the frame, and only the
frame is missing to the others. -/
structure Midway (frame : Frame) (j : Nat) (w : World) : Prop extends Even w where
  exact : ∀ fd ∈ w.live.take j,
    sentTo fd (sinceAdded fd w.hist) = records (offered (sinceAdded fd w.hist))
  pending : ∀ fd ∈ w.live.drop j, ∃ fs,
    sentTo fd (sinceAdded fd w.hist) = records fs ∧ offered (sinceAdded fd w.hist) = fs ++ [frame]

section Encoder

variable {w w' : World} {τ : List Event}

/-- Events that send and offer nothing keep both sides of the balance. -/
theorem balance_quiet {fd : Fd} {h : List Event} (htable : ∀ e ∈ τ, e.onTable = false)
    (hsent : sentTo fd τ = []) (hoffer : offered τ = []) :
    sentTo fd (sinceAdded fd (h ++ τ)) = sentTo fd (sinceAdded fd h) ∧
      offered (sinceAdded fd (h ++ τ)) = offered (sinceAdded fd h) := by
  rw [sinceAdded_append h fun e he => Event.adds_eq_false (htable e he) fd, sentTo_append,
    offered_append, hsent, hoffer, List.append_nil, List.append_nil]
  exact ⟨rfl, rfl⟩

theorem Level.quiet (h : Level w) (htable : ∀ e ∈ τ, e.onTable = false)
    (hsent : ∀ fd, sentTo fd τ = []) (hoffer : offered τ = []) : Level (w.log τ) := by
  refine ⟨⟨h.wf.log htable, fun fd => ?_⟩, fun fd hfd => ?_⟩
  · obtain ⟨hs, ho⟩ := balance_quiet (h := w.hist) htable (hsent fd) hoffer
    rw [World.log_hist, hs, ho]
    exact h.begun fd
  · obtain ⟨hs, ho⟩ := balance_quiet (h := w.hist) htable (hsent fd) hoffer
    rw [World.log_hist, hs, ho]
    exact h.exact fd hfd

theorem removed_since (fd fd' : Fd) (h : List Event) :
    sentTo fd' (sinceAdded fd' (h ++ [.removed fd])) = sentTo fd' (sinceAdded fd' h) ∧
      offered (sinceAdded fd' (h ++ [.removed fd])) = offered (sinceAdded fd' h) := by
  rw [sinceAdded_append h (List.forall_mem_singleton.mpr rfl), sentTo_append, offered_append]
  exact ⟨List.append_nil _, List.append_nil _⟩

theorem Level.remove (h : Level w) {j : Nat} {fd : Fd} (hj : w.live[j]? = some fd)
    (hr : removeClient w j = .ok w') : Level w' := by
  obtain ⟨hwf, hlive⟩ := h.wf.remove hj hr
  have hhist := (removeClient_spec h.wf.table hj hr).2.2.1
  refine ⟨⟨hwf, fun fd' => ?_⟩, fun fd' hfd' => ?_⟩
  · obtain ⟨hs, ho⟩ := removed_since fd fd' w.hist
    rw [hhist, hs, ho]
    exact h.begun fd'
  · obtain ⟨hs, ho⟩ := removed_since fd fd' w.hist
    rw [hhist, hs, ho]
    exact h.exact fd' (List.erase_subset (hlive ▸ hfd'))

theorem Level.add (h : Level w) {fd : Fd} {ret : Int} (hfd : fd ∉ w.live)
    (hadd : tapserverAddClient w fd = .ok (ret, w')) : Level w' := by
  have hwf := h.wf.add hfd hadd
  rcases addClient_spec h.wf.table hadd with ⟨-, rfl, -⟩ | ⟨-, -, -, hlive, hhist, -⟩
  · exact h
  · have hother : ∀ fd', fd' ≠ fd →
        sentTo fd' (sinceAdded fd' w'.hist) = sentTo fd' (sinceAdded fd' w.hist) ∧
          offered (sinceAdded fd' w'.hist) = offered (sinceAdded fd' w.hist) := by
      intro fd' hne
      rw [hhist, sinceAdded_append w.hist (List.forall_mem_singleton.mpr
        (by simp [Event.adds, Ne.symm hne])), sentTo_append, offered_append]
      exact ⟨List.append_nil _, List.append_nil _⟩
    have hself : sinceAdded fd w'.hist = [] := by rw [hhist, sinceAdded_added]
    refine ⟨⟨hwf, fun fd' => ?_⟩, fun fd' hfd' => ?_⟩
    · by_cases heq : fd' = fd
      · rw [heq, hself]
        exact List.nil_prefix
      · obtain ⟨hs, ho⟩ := hother fd' heq
        rw [hs, ho]
        exact h.begun fd'
    · by_cases heq : fd' = fd
      · rw [heq, hself]
        rfl
      · obtain ⟨hs, ho⟩ := hother fd' heq
        rw [hs, ho]
        rw [hlive] at hfd'
        exact h.exact fd' ((List.mem_append.mp hfd').resolve_right fun hmem =>
          heq (List.mem_singleton.mp hmem))

/-- The frame begins to be offered. -/
theorem Level.relay (h : Level w) (frame : Frame) : Midway frame 0 (w.log [.relay frame]) := by
  have hsince : ∀ fd, sinceAdded fd (w.hist ++ [.relay frame]) =
      sinceAdded fd w.hist ++ [.relay frame] := fun fd =>
    sinceAdded_append w.hist (List.forall_mem_singleton.mpr rfl)
  have hsent : ∀ fd, sentTo fd (sinceAdded fd (w.hist ++ [.relay frame])) =
      sentTo fd (sinceAdded fd w.hist) := fun fd => by
    rw [hsince, sentTo_append]
    exact List.append_nil _
  have hoffer : ∀ fd, offered (sinceAdded fd (w.hist ++ [.relay frame])) =
      offered (sinceAdded fd w.hist) ++ [frame] := fun fd => by
    rw [hsince, offered_append]
    rfl
  refine ⟨⟨h.wf.log (List.forall_mem_singleton.mpr rfl), fun fd => ?_⟩, fun fd hfd => ?_,
    fun fd hfd => ⟨offered (sinceAdded fd w.hist), ?_, hoffer fd⟩⟩
  · rw [World.log_hist, hsent, hoffer, records_append]
    exact (h.begun fd).trans (List.prefix_append _ _)
  · cases hfd
  · rw [World.log_hist, hsent]
    exact h.exact fd (List.mem_of_mem_drop hfd)

/-- Part of the record for the client at the index. -/
theorem Midway.sending {L : Allows} {frame : Frame} {j : Nat} {fd : Fd} (h : Midway frame j w)
    (hj : w.live[j]? = some fd) (hτ : SendTrace L w.hist fd (record frame) τ) :
    Even (w.log τ) := by
  refine ⟨h.wf.log hτ.not_onTable, fun fd' => ?_⟩
  rw [World.log_hist, sinceAdded_append _ (hτ.not_adds fd'), sentTo_append, offered_append,
    hτ.offered_eq, List.append_nil]
  by_cases heq : fd' = fd
  · subst heq
    obtain ⟨fs, hs, ho⟩ := h.pending fd' (by rw [drop_of_getElem? hj]; exact List.mem_cons_self)
    rw [hs, ho, records_append, records_singleton]
    exact (List.prefix_append_right_inj _).mpr hτ.sent
  · rw [hτ.sentTo_ne (Ne.symm heq), List.append_nil]
    exact h.begun fd'

/-- The client at the index has the record. -/
theorem Midway.sent {L : Allows} {frame : Frame} {j : Nat} {fd : Fd} (h : Midway frame j w)
    (hj : w.live[j]? = some fd) (hτ : SendTrace L w.hist fd (record frame) τ)
    (hsent : sentTo fd τ = record frame) : Midway frame (j + 1) (w.log τ) := by
  have hother : ∀ fd', fd' ≠ fd →
      sentTo fd' (sinceAdded fd' (w.hist ++ τ)) = sentTo fd' (sinceAdded fd' w.hist) ∧
        offered (sinceAdded fd' (w.hist ++ τ)) = offered (sinceAdded fd' w.hist) := fun fd' hne =>
    balance_quiet hτ.not_onTable (hτ.sentTo_ne (Ne.symm hne)) hτ.offered_eq
  refine ⟨h.sending hj hτ, fun fd' hfd' => ?_, fun fd' hfd' => ?_⟩
  · by_cases heq : fd' = fd
    · subst heq
      obtain ⟨fs, hs, ho⟩ := h.pending fd' (by rw [drop_of_getElem? hj]; exact List.mem_cons_self)
      rw [World.log_hist, sinceAdded_append _ (hτ.not_adds fd'), sentTo_append, offered_append,
        hτ.offered_eq, List.append_nil, hs, ho, hsent, records_append, records_singleton]
    · obtain ⟨hs, ho⟩ := hother fd' heq
      have hmem : fd' ∈ w.live.take (j + 1) := hfd'
      rw [List.take_add_one, hj, List.mem_append] at hmem
      rw [World.log_hist, hs, ho]
      exact h.exact fd' (hmem.resolve_right fun hfd => heq (by simpa using hfd))
  · have hne : fd' ≠ fd := by
      rintro rfl
      exact not_mem_drop_succ h.wf.nodup hj hfd'
    obtain ⟨hs, ho⟩ := hother fd' hne
    have hrest := List.drop_subset_drop_left w.live (Nat.le_succ j) hfd'
    obtain ⟨fs, hs', ho'⟩ := h.pending fd' hrest
    exact ⟨fs, by rw [World.log_hist, hs, hs'], by rw [World.log_hist, ho, ho']⟩

/-- While the connections are steady no send of a record fails. -/
theorem SendTrace.not_failed {fd s : Fd} {h : List Event} {data : List Byte}
    (hτ : SendTrace (Steady fd) h s data τ) : ¬ SendFailed s τ := by
  rintro ⟨d, hd⟩
  obtain ⟨τ₁, τ₂, hs⟩ := List.append_of_mem hd
  exact along_iff.mp hτ.along τ₁ _ τ₂ hs

end Encoder

section Sections

variable (fd : Fd)

theorem relay_midway (frame : Frame) :
    RelayInv (Steady fd) (fun _ => false) (record frame) Even Level NotReturned
      (fun _ => Midway frame) where
  wf h := h.wf.table
  holds h := h.toEven
  skipped _ _ hskip := by cases hskip
  mid h hfd _ hτ := h.sending hfd hτ
  sent h hfd _ hτ _ hsent := h.sent hfd hτ hsent
  dropped _ _ _ hτ hfailed _ := (hτ.not_failed hfailed).elim
  spent _ := rfl
  stuck _ _ _ _ _ _ := rfl
  done h hj := ⟨h.toEven, fun fd' hfd' => h.exact fd' (by rwa [List.take_of_length_le hj])⟩

theorem pass_level (ready : List Fd) :
    PassInv (Steady fd) true ready Even (fun _ => Level) NotReturned (fun _ _ => Level) where
  wf h := h.wf.table
  holds h := h.toEven
  skipped h _ _ := h
  mid h _ _ hτ := (h.quiet hτ.served_not_onTable hτ.served_sentTo hτ.served_offered).toEven
  refused h hfd _ hτ _ hr :=
    (h.quiet hτ.served_not_onTable hτ.served_sentTo hτ.served_offered).remove hfd hr
  written _ h _ _ hτ _ _ _ _ := by
    rw [← World.log_log]
    exact (h.quiet hτ.served_not_onTable hτ.served_sentTo hτ.served_offered).quiet
      (List.forall_mem_singleton.mpr rfl) (fun _ => rfl) rfl
  rejected {n i w c τ frame answer} _ h _ _ hτ _ _ _ _ := by
    have hlevel : Level ((w.log (.serving c :: τ)).log [.write c frame answer]) :=
      (h.quiet hτ.served_not_onTable hτ.served_sentTo hτ.served_offered).quiet
        (List.forall_mem_singleton.mpr rfl) (fun _ => rfl) rfl
    rw [← World.log_log]
    exact ⟨hlevel.toEven, hlevel⟩
  forwarded htap := by cases htap
  spent _ := rfl
  stuck _ _ _ _ _ _ := rfl
  done h _ := h

/-- As long as the connections are steady, a server with a device keeps its
clients level. -/
theorem levels : WorldInv (Steady fd) (fun tapcfg w => tapcfg = true → Even w)
    (fun tapcfg w => w.Wf ∧ (tapcfg = true → Level w)) where
  init tapcfg := by
    refine ⟨Sys.init_wf tapcfg, fun _ => ⟨⟨Sys.init_wf tapcfg, fun fd => List.nil_prefix⟩, ?_⟩⟩
    intro fd hmem
    cases hmem
  holds h hdev := (h.2 hdev).toEven
  add h hfd hadd := ⟨h.1.add hfd hadd, fun hdev => (h.2 hdev).add hfd hadd⟩
  broadcast {w f} fuel h hlegal := by
    refine (RelayInv.sat_broadcast hlegal (relay_midway fd f) ((h.2 rfl).relay f)).mono
      (fun _ hI _ => hI) (fun _ _ _ hQ => ⟨hQ.wf, fun _ => hQ⟩) (fun _ _ _ => id)
  pass {tapcfg w ready buf} fuel h hbuf := by
    cases tapcfg with
    | true =>
        have hlevel : Level (w.log [.round ready]) :=
          (h.2 rfl).quiet (List.forall_mem_singleton.mpr rfl) (fun _ => rfl) rfl
        exact ((pass_level fd ready).sat fuel 0 buf _ hbuf hlevel).mono
          (fun _ hI _ => hI) (fun _ _ _ hQ => ⟨hQ.wf, fun _ => hQ⟩) (fun _ _ _ => id)
    | false =>
        have hwf : (w.log [.round ready]).Wf := h.1.log (List.forall_mem_singleton.mpr rfl)
        exact ((pass_shrunk _ _ false ready).sat fuel 0 buf _ hbuf (Shrunk.refl hwf)).mono
          (fun _ _ hdev => by cases hdev) (fun _ _ _ hQ => ⟨hQ.wf, fun hdev => by cases hdev⟩)
          (fun _ _ _ => id)

end Sections

/-! ## The connection -/

/-- The contract of a connection between the descriptor `a` of `A` and the
descriptor `b` of `B`, at one moment: both ends have it, and what one end has
received begins what the other has sent. -/
structure Channel (a b : Fd) (A B : Sys) : Prop where
  left : .added a ∈ A.hist
  right : .added b ∈ B.hist
  forth : receivedFrom b (sinceAdded b B.hist) <+: sentTo a (sinceAdded a A.hist)
  back : receivedFrom a (sinceAdded a A.hist) <+: sentTo b (sinceAdded b B.hist)

/-- Two servers with devices and a steady connection between them. -/
structure Linked (a b : Fd) (A B : Sys) : Prop extends Channel a b A B where
  sender : Reachable (Steady a) A
  receiver : Reachable (Steady b) B
  senderDevice : A.server.tapcfg = true
  receiverDevice : B.server.tapcfg = true

/-- The joint runs: from the moment both ends have the connection and have
received nothing yet, the two servers make their steps in any order, and the
connection keeps its contract. -/
inductive LinkRun (a b : Fd) : Sys → Sys → Prop where
  | connect {A B : Sys} (h : Linked a b A B) (ha : receivedFrom a (sinceAdded a A.hist) = [])
      (hb : receivedFrom b (sinceAdded b B.hist) = []) : LinkRun a b A B
  | left {A A' B : Sys} (h : LinkRun a b A B) (hs : Step (Steady a) A A')
      (hc : Channel a b A' B) : LinkRun a b A' B
  | right {A B B' : Sys} (h : LinkRun a b A B) (hs : Step (Steady b) B B')
      (hc : Channel a b A B') : LinkRun a b A B'

theorem LinkRun.linked {a b : Fd} {A B : Sys} (h : LinkRun a b A B) : Linked a b A B := by
  induction h with
  | connect h _ _ => exact h
  | left _ hs hc ih =>
      exact ⟨hc, ih.sender.step hs, ih.receiver, hs.tapcfg.trans ih.senderDevice,
        ih.receiverDevice⟩
  | right _ hs hc ih =>
      exact ⟨hc, ih.sender, ih.receiver.step hs, ih.senderDevice,
        hs.tapcfg.trans ih.receiverDevice⟩

/-- The frames `reader_thread` has read, without those it had relayed before
`fd` was added. -/
def readSince (fd : Fd) (σ : Sys) : List Frame :=
  σ.reads.drop ((relayed σ.hist).length - (relayed (sinceAdded fd σ.hist)).length)

theorem readSince_of_reads (fd : Fd) {σ : Sys} {rest : List Frame}
    (h : σ.reads = relayed σ.hist ++ rest) :
    readSince fd σ = relayed (sinceAdded fd σ.hist) ++ rest := by
  obtain ⟨before, hbefore⟩ := since_suffix (Event.adds fd) σ.hist
  have hsplit : relayed σ.hist = relayed before ++ relayed (sinceAdded fd σ.hist) := by
    rw [← relayed_append, sinceAdded, hbefore]
  have hlen : (relayed σ.hist).length - (relayed (sinceAdded fd σ.hist)).length =
      (relayed before).length := by
    rw [hsplit, List.length_append]
    omega
  rw [readSince, hlen, h, hsplit, List.append_assoc, List.drop_left]

/-- What a server has sent over a steady connection begins the records of the
frames it has relayed since then, all of them legal. -/
theorem sent_begins (fd : Fd) {fd' : Fd} {σ : Sys} (h : Reachable (Steady fd') σ)
    (hdev : σ.server.tapcfg = true) :
    sentTo fd (sinceAdded fd σ.hist) <+: records (relayed (sinceAdded fd σ.hist)) ∧
      ∀ f ∈ relayed (sinceAdded fd σ.hist), Legal bufSize f := by
  have hsince : sinceAdded fd σ.hist <:+ σ.hist := since_suffix _ _
  have hlaw : ∀ e ∈ sinceAdded fd σ.hist, ∃ h₁, Lawful (Steady fd') true h₁ e := fun e he =>
    hdev ▸ h.lawful (hsince.mem he)
  have heven : Even σ.world := ((levels fd').sysInv.reachable h).2 hdev
  have hlegal : ∀ f ∈ offered σ.hist, Legal bufSize f :=
    ((sendings (Steady fd')).sysInv.reachable h).2.legal
  rw [← offered_eq_relayed hlaw]
  exact ⟨heven.begun fd, fun f hf => hlegal f ((hsince.sublist.filterMap _).subset hf)⟩

/-- A server does not drop a steady connection over records of legal frames. -/
theorem steady_kept {fd : Fd} {σ : Sys} (h : Reachable (Steady fd) σ) (hf : σ.Free)
    (hadded : .added fd ∈ σ.hist) {fs : List Frame} (hlegal : ∀ f ∈ fs, Legal bufSize f)
    (hin : receivedFrom fd (sinceAdded fd σ.hist) <+: records fs) : fd ∈ σ.live := by
  have hsince : sinceAdded fd σ.hist <:+ σ.hist := since_suffix _ _
  obtain ⟨tail, hs⟩ := (((streams (Steady fd)).sysInv.reachable h).1 hf).stream fd
  have hd : Decoded fd σ.hist tail := hs.decoded
  by_contra hnot
  rcases hs.excused hadded hnot with ⟨d, hd⟩ | ⟨n, hn⟩ | hbad
  · obtain ⟨h₁, hlaw⟩ := h.lawful (hsince.mem hd)
    exact hlaw
  · obtain ⟨h₁, hlaw⟩ := h.lawful (hsince.mem hn)
    exact hlaw rfl
  · rw [hd.split] at hin
    obtain ⟨rest, hrest, htail⟩ := records_inside bufSize_lt hd.legal hlegal hin
    refine not_badHead_of_inside bufSize_lt (fun g hg => hlegal g ?_) htail hbad
    rw [hrest]
    exact List.mem_append_right _ hg

/-- In every state of two linked servers: the frames the receiver gives to its
device begin the list of frames the sender has read from its own; and they are
that list once the sender has relayed all it has read and the receiver has
received and serviced all that was sent. -/
theorem link_delivers {a b : Fd} {A B : Sys} (h : Linked a b A B) :
    writtenFrom b (sinceAdded b B.hist) <+: readSince a A ∧
      (A.Free → A.reader.inHand = [] → B.Free →
        receivedFrom b (sinceAdded b B.hist) = sentTo a (sinceAdded a A.hist) →
        writtenFrom b (sinceAdded b B.hist) = readSince a A) := by
  have hlaw : ∀ e ∈ sinceAdded b B.hist, ∃ h₁, Lawful (Steady b) true h₁ e := fun e he =>
    h.receiverDevice ▸ h.receiver.lawful ((since_suffix _ _).mem he)
  obtain ⟨hsent, hlegal⟩ := sent_begins a h.sender h.senderDevice
  obtain ⟨hsent', hlegal'⟩ := sent_begins b h.receiver h.receiverDevice
  have hin : receivedFrom b (sinceAdded b B.hist) <+: records (relayed (sinceAdded a A.hist)) :=
    h.forth.trans hsent
  have hin' : receivedFrom a (sinceAdded a A.hist) <+: records (relayed (sinceAdded b B.hist)) :=
    h.back.trans hsent'
  rw [writtenFrom_eq hlaw]
  refine ⟨?_, fun hAfree hhand hBfree hall => ?_⟩
  · obtain ⟨tail, hd, -⟩ : ∃ tail, Decoded b B.hist tail ∧ PartialRecord tail :=
      ((streams (Steady b)).sysInv.reachable h.receiver).2.stream b
    rw [hd.split] at hin
    obtain ⟨later, hlater, -⟩ := records_inside bufSize_lt hd.legal hlegal hin
    obtain ⟨rest, hrest⟩ := ((reads (Steady a)).reachable h.sender).2
    have hrelayed : relayed (sinceAdded a A.hist) =
        passedFrom b (sinceAdded b B.hist) ++ later := hlater
    rw [readSince_of_reads a hrest.symm, hrelayed, List.append_assoc]
    exact List.prefix_append _ _
  · -- nothing is pending at either end, so the two streams of records are one
    have hA : a ∈ A.live := steady_kept h.sender hAfree h.left hlegal' hin'
    have hB : b ∈ B.live := steady_kept h.receiver hBfree h.right hlegal hin
    obtain ⟨tail, hs⟩ := (((streams (Steady b)).sysInv.reachable h.receiver).1 hBfree).stream b
    have hd : Decoded b B.hist [] := hs.pending hB ▸ hs.decoded
    have hlevel : Level A.world :=
      (((levels a).sysInv.reachable h.sender).1 hAfree).2 h.senderDevice
    have hlawA : ∀ e ∈ sinceAdded a A.hist, ∃ h₁, Lawful (Steady a) true h₁ e := fun e he =>
      h.senderDevice ▸ h.sender.lawful ((since_suffix _ _).mem he)
    have hwhole : sentTo a (sinceAdded a A.hist) = records (offered (sinceAdded a A.hist)) :=
      hlevel.exact a hA
    have hreads := (((reads (Steady a)).reachable h.sender).1 hAfree).2
    rw [hhand] at hreads
    have hrecords : records (passedFrom b (sinceAdded b B.hist)) =
        records (relayed (sinceAdded a A.hist)) := by
      rw [← offered_eq_relayed hlawA, ← hwhole, ← hall, hd.split, List.append_nil]
    have hcut := congrArg (cut bufSize) hrecords
    rw [cut_records bufSize_lt hd.legal, cut_records bufSize_lt hlegal] at hcut
    rw [hcut, readSince_of_reads a hreads, List.append_nil]

/-- A frame crosses: the sender has relayed it to descriptor 5, the receiver has
decoded it from descriptor 9. -/
theorem link_delivers_frame : ∃ A B, Linked 5 9 A B ∧
    writtenFrom 9 (sinceAdded 9 B.hist) = readSince 5 A ∧ readSince 5 A = [[7]] := by
  have hfollows : ∀ fd, Follows (scripted (fun _ => [0, 1, 7]) 1) (osEnv (Steady fd)) := fun fd =>
    scripted_follows _ _ (fun _ _ _ => trivial) (fun _ _ _ _ => trivial) (fun _ _ _ => trivial)
  have hA := (atTop_reachable (Steady 5) true (show [5].Nodup by decide) (by decide)).relays
    (atTop_free _ _) rfl (show Legal bufSize [7] by decide) (hfollows 5) 4
    (w := ⟨.holding [5], [.added 5, .relay [7], .send 5 [0, 1] (some 2), .send 5 [7] (some 1)]⟩)
    (by decide +kernel)
  have hB : Reachable (Steady 9) (Sys.atTop true ⟨.holding [9], [.added 9, .round [9], .serving 9,
      .recv 9 2 (some [0, 1]), .recv 9 1 (some [7]), .write 9 [7] 1]⟩) :=
    (atTop_reachable (Steady 9) true (show [9].Nodup by decide) (by decide)).turn
      (show fdSet _ = .ok ([9], 9) from rfl) (by decide) (List.Subset.refl [9]) (hfollows 9) 5
      (by decide +kernel)
  have hlinked : Linked 5 9 _ _ := ⟨⟨by decide, by decide, by decide, by decide⟩, hA, hB, rfl, rfl⟩
  refine ⟨_, _, hlinked, (link_delivers hlinked).2 ?_ rfl (atTop_free _ _) (by decide), rfl⟩
  exact ⟨by simp [Sys.ReaderInside], by simp [Sys.WriterInside, Sys.withWorld, Sys.atTop]⟩

end TapCfg.Daemon
