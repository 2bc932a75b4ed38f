/-
  Daemon/Closing.lean --- a client that closes its connection.

  Source: src/daemon/tapserver.c, lines 138-151 (recv_data).

  `recv` answers 0 once the peer has closed.  `recv_data` adds the 0 to its
  count and calls again, so a stream that ends inside a record, or where a
  record should begin, is never given up.  `Tolerates` says what a pass owes a
  client that closes; a pass tolerates the end of a stream just when the stream
  does not end before its first record does (`closing_tolerated_iff`).

  For the one direction a bound on the number of calls is carried through the
  pass (`Serviced`); for the other an environment is given in which the pass
  uses up every bound (`Unharmed`).
-/
import TapCfg.Daemon.Admission

set_option autoImplicit false

namespace TapCfg.Daemon

open TapCfg.Foundation
open Prog

/-! ## The environment -/

/-- What `recv` has not returned yet of all that client `c` has sent. -/
def unread (c : Fd) (sent : List Byte) (h : List Event) : List Byte :=
  sent.drop (receivedFrom c h).length

/-- Client `c` has sent `sent` and has closed its connection, the others have
not closed theirs: `send` accepts at least one byte, `recv` returns at least one
byte while data is there, and nothing for ever after the end of the stream.  Any
call may fail. -/
def PeerClosed (c : Fd) (sent : List Byte) : Allows
  | _, .send _ data (some k) => data ≠ [] → 0 < k
  | h, .recv fd n (some chunk) =>
      if fd = c then chunk <+: unread c sent h ∧ (0 < n → unread c sent h ≠ [] → chunk ≠ [])
      else 0 < n → chunk ≠ []
  | _, _ => True

/-- No call on another client or on the device fails; a length that is 0 or does
not fit the buffer counts as a failed read, as in the source. -/
structure Unfailing (c : Fd) (τ : List Event) : Prop where
  send : ∀ fd, SendFailed fd τ → fd = c
  recv : ∀ fd, RecvFailed fd τ → fd = c
  length : ∀ fd, BadHead bufSize (receivedFrom fd τ) → fd = c
  device : ∀ client data ret, .write client data ret ∈ τ → 0 < ret

/-- The end of the stream of `c` has been met. -/
def MetEnd (c : Fd) (τ : List Event) : Prop := ∃ n, .recv c n (some []) ∈ τ

/-- What a pass that begins in `w₀` and ends in `w` owes its clients. -/
def Settled (c : Fd) (w₀ w : World) : Prop :=
  ∃ τ, w.hist = w₀.hist ++ τ ∧
    (Unfailing c τ → (MetEnd c τ → c ∉ w.live) ∧ ∀ fd ∈ w₀.live, fd ≠ c → fd ∈ w.live)

/-- A pass that begins in `w₀`, with `rest` all that is left to come from client
`c`, terminates and leaves the table as it should be. -/
def Tolerates (tapcfg : Bool) (ready : List Fd) (c : Fd) (rest : List Byte) (w₀ : World) : Prop :=
  ∃ bound, ∀ fuel, bound ≤ fuel → ∀ buf : List Byte, buf.length = bufSize →
    Sat (osEnv (PeerClosed c (receivedFrom c w₀.hist ++ rest))) (fun _ => True)
      (fun _ w => Settled c w₀ w) (fun _ _ => False) (servicePass fuel tapcfg ready 0 buf) w₀

/-! ## How many calls a record takes -/

section Calls

variable {c : Fd} {sent : List Byte} {h τ : List Event} {fd : Fd}

/-- What a closed peer leaves `send` to do still makes progress. -/
theorem peerClosed_progressive (c : Fd) (sent : List Byte) : Progressive (PeerClosed c sent) :=
  fun _ _ _ hd hlaw => Nat.lt_irrefl 0 (hlaw hd)

/-- So does every call to `recv` that returns something. -/
theorem RecordTrace.length_le (hτ : RecordTrace (PeerClosed c sent) h fd τ)
    (hdata : ∀ n, .recv fd n (some []) ∉ τ) (hnf : ¬ RecvFailed fd τ) :
    τ.length ≤ 2 + bufSize := by
  refine Nat.le_trans (length_le_flatMap fun e he => ?_) hτ.recvd
  obtain ⟨n, r, -, rfl⟩ := hτ.only e he
  cases r with
  | none => exact (hnf ⟨n, he⟩).elim
  | some chunk =>
      rintro hnil
      have hchunk : chunk = [] := by simpa [Event.receivedFrom] using hnil
      exact hdata n (hchunk ▸ he)

theorem unread_eq {rest : List Byte} (hs : receivedFrom c h ++ rest = sent) :
    unread c sent h = rest := by
  unfold unread
  rw [← hs, List.drop_left]

/-- `recv` returns what the client has sent, in order. -/
theorem received_inside (hτ : Along (PeerClosed c sent) h τ) (hs : receivedFrom c h <+: sent) :
    receivedFrom c (h ++ τ) <+: sent := by
  induction τ using List.reverseRecOn with
  | nil => simpa using hs
  | append_singleton τ e ih =>
      obtain ⟨hbefore, he⟩ := along_append.mp hτ
      obtain ⟨rest, hrest⟩ := ih hbefore
      have hlaw := along_singleton.mp he
      rw [← List.append_assoc, receivedFrom_append, ← hrest]
      apply (List.prefix_append_right_inj _).mpr
      cases e with
      | recv s n answer =>
          cases answer with
          | none => exact List.nil_prefix
          | some chunk =>
              by_cases hc : s = c
              · subst hc
                have hin : chunk <+: unread s sent (h ++ τ) := by
                  simp only [PeerClosed, if_true] at hlaw
                  exact hlaw.1
                rw [unread_eq hrest] at hin
                simpa [receivedFrom, Event.receivedFrom] using hin
              · simp [receivedFrom, Event.receivedFrom, hc]
      | _ => exact List.nil_prefix

/-- Reading the record of a client that has closed never meets the end of its
stream, when the stream does not end before the record does. -/
theorem RecordTrace.not_metEnd {rest : List Byte} (hτ : RecordTrace (PeerClosed c sent) h c τ)
    (hs : receivedFrom c h ++ rest = sent) (hrest : ¬ Short bufSize rest) : ¬ MetEnd c τ := by
  rintro ⟨n, hn⟩
  obtain ⟨τ₁, τ₂, hsplit⟩ := List.append_of_mem hn
  obtain ⟨hbefore, -⟩ := along_append.mp (hsplit ▸ hτ.along)
  obtain ⟨m, r, hpos, heq⟩ := hτ.only _ hn
  obtain ⟨tail, htail⟩ := received_inside hbefore ⟨rest, hs⟩
  rw [receivedFrom_append, List.append_assoc, ← hs] at htail
  have hrestEq : receivedFrom c τ₁ ++ tail = rest := List.append_cancel_left htail
  have hlaw := along_iff.mp hτ.along τ₁ _ τ₂ hsplit
  simp only [PeerClosed, if_true] at hlaw
  have hne : tail ≠ [] := by
    rintro rfl
    have hshort := along_iff.mp hτ.asked τ₁ _ τ₂ hsplit
    rw [List.nil_append] at hshort
    rw [List.append_nil] at hrestEq
    exact hrest (hrestEq ▸ hshort)
  have hunread : unread c sent (h ++ τ₁) = tail := by
    apply unread_eq
    rw [receivedFrom_append, List.append_assoc, hrestEq, hs]
  cases heq
  exact hlaw.2 hpos (hunread ▸ hne) rfl

end Calls

/-! ## A stream that does not end inside a record -/

theorem Unfailing.before {c : Fd} {τ ρ : List Event} (h : Unfailing c (τ ++ ρ)) :
    Unfailing c τ := by
  refine ⟨fun fd hf => ?_, fun fd hf => ?_, fun fd hbad => ?_, fun client data r hr => ?_⟩
  · exact h.send fd (SendFailed.append_iff.mpr (.inl hf))
  · obtain ⟨n, hn⟩ := hf
    exact h.recv fd ⟨n, List.mem_append_left ρ hn⟩
  · apply h.length fd
    rw [receivedFrom_append]
    exact hbad.append _
  · exact h.device client data r (List.mem_append_left ρ hr)

/-- A pass that began in `w₀` and has made the events `τ` stands at index `i`:
the clients from there on have not been read, the end of the stream of `c` has
not been met, and the others are there as long as nothing fails. -/
structure Serviced (c : Fd) (w₀ : World) (τ : List Event) (i : Nat) (w : World) : Prop where
  shrunk : Shrunk w₀ w
  hist : w.hist = w₀.hist ++ τ
  unserved : ∀ fd ∈ w.live.drop i, receivedFrom fd τ = []
  unmet : ¬ MetEnd c τ
  kept : Unfailing c τ → ∀ fd ∈ w₀.live, fd ≠ c → fd ∈ w.live

namespace Serviced

variable {c : Fd} {w₀ w w' : World} {τ ρ : List Event} {i : Nat}

theorem begin (c : Fd) (hw : w₀.Wf) : Serviced c w₀ [] 0 w₀ where
  shrunk := .refl hw
  hist := (List.append_nil _).symm
  unserved _ _ := rfl
  unmet := fun ⟨_, hn⟩ => List.not_mem_nil hn
  kept _ _ hfd _ := hfd

/-- The client at the index has had its turn, or had none. -/
theorem pass (h : Serviced c w₀ τ i w) : Serviced c w₀ τ (i + 1) w :=
  ⟨h.shrunk, h.hist, fun fd hfd => h.unserved fd (List.drop_subset_drop_left _ (Nat.le_succ i) hfd),
    h.unmet, h.kept⟩

/-- Events that receive nothing. -/
theorem quiet (h : Serviced c w₀ τ i w) (htab : ∀ e ∈ ρ, e.onTable = false)
    (hrecv : ∀ fd, receivedFrom fd ρ = []) (hmet : ¬ MetEnd c ρ) :
    Serviced c w₀ (τ ++ ρ) i (w.log ρ) where
  shrunk := h.shrunk.log htab
  hist := by rw [World.log_hist, h.hist, List.append_assoc]
  unserved fd hfd := by
    rw [receivedFrom_append, hrecv, List.append_nil]
    exact h.unserved fd hfd
  unmet := by
    rintro ⟨n, hn⟩
    exact (List.mem_append.mp hn).elim (fun hn => h.unmet ⟨n, hn⟩) fun hn => hmet ⟨n, hn⟩
  kept hun := h.kept hun.before

/-- One event that receives nothing. -/
theorem note (h : Serviced c w₀ τ i w) {e : Event} (htab : e.onTable = false)
    (hrecv : ∀ fd, receivedFrom fd [e] = []) (hmet : ∀ n, e ≠ .recv c n (some [])) :
    Serviced c w₀ (τ ++ [e]) i (w.log [e]) := by
  apply h.quiet (List.forall_mem_singleton.mpr htab) hrecv
  rintro ⟨n, hn⟩
  exact hmet n (List.mem_singleton.mp hn).symm

/-- Part of a record to one of the clients. -/
theorem sending (h : Serviced c w₀ τ i w) {L : Allows} {fd : Fd} {data : List Byte}
    (hρ : SendTrace L w.hist fd data ρ) : Serviced c w₀ (τ ++ ρ) i (w.log ρ) := by
  apply h.quiet hρ.not_onTable hρ.receivedFrom_eq
  rintro ⟨n, hn⟩
  obtain ⟨d, r, -, heq⟩ := hρ.only _ hn
  cases heq

/-- The client at the index is read. -/
theorem serve (h : Serviced c w₀ τ i w) {rest : List Byte} (hrest : ¬ Short bufSize rest) {fd : Fd}
    (hi : w.live[i]? = some fd)
    (hρ : RecordTrace (PeerClosed c (receivedFrom c w₀.hist ++ rest)) (w.hist ++ [.serving fd])
      fd ρ) :
    Serviced c w₀ (τ ++ .serving fd :: ρ) (i + 1) (w.log (.serving fd :: ρ)) where
  shrunk := h.shrunk.log hρ.served_not_onTable
  hist := by rw [World.log_hist, h.hist, List.append_assoc]
  unserved fd' hfd' := by
    have hne : fd ≠ fd' := by
      rintro rfl
      exact not_mem_drop_succ h.shrunk.wf.nodup hi hfd'
    have hnone : receivedFrom fd' (.serving fd :: ρ) = [] := hρ.receivedFrom_ne hne
    rw [receivedFrom_append, hnone, List.append_nil]
    exact h.pass.unserved fd' hfd'
  unmet := by
    rintro ⟨n, hn⟩
    rcases List.mem_append.mp hn with hn | hn
    · exact h.unmet ⟨n, hn⟩
    · have hmem : .recv c n (some []) ∈ ρ := by simpa using hn
      obtain ⟨m, r, -, heq⟩ := hρ.only _ hmem
      cases heq
      have hnew : receivedFrom c τ = [] := by
        apply h.unserved
        rw [drop_of_getElem? hi]
        exact List.mem_cons_self
      refine hρ.not_metEnd ?_ hrest ⟨n, hmem⟩
      have hserving : receivedFrom c [.serving c] = [] := rfl
      rw [receivedFrom_append, h.hist, receivedFrom_append, hnew, hserving, List.append_nil,
        List.append_nil]
  kept hun := h.kept hun.before

/-- A client is taken out; if it is not `c`, something has failed. -/
theorem drop (h : Serviced c w₀ τ i w) {j : Nat} {fd : Fd} (hj : w.live[j]? = some fd)
    (hfail : Unfailing c τ → fd = c) (hr : removeClient w j = .ok w') :
    Serviced c w₀ (τ ++ [.removed fd]) i w' := by
  obtain ⟨-, herase⟩ := h.shrunk.wf.remove hj hr
  obtain ⟨-, hlive, hhist, -⟩ := removeClient_spec h.shrunk.wf.table hj hr
  have hnone : ∀ fd', receivedFrom fd' [.removed fd] = [] := fun _ => rfl
  refine ⟨h.shrunk.remove hj hr, by rw [hhist, h.hist, List.append_assoc], fun fd' hfd' => ?_, ?_,
    fun hun fd' hfd' hne => ?_⟩
  · rw [receivedFrom_append, hnone, List.append_nil]
    rw [hlive] at hfd'
    exact h.unserved fd' (mem_drop_of_eraseIdx hfd')
  · rintro ⟨n, hn⟩
    exact h.unmet ⟨n, by simpa using hn⟩
  · have hc := hfail hun.before
    rw [herase]
    exact (List.mem_erase_of_ne (hc ▸ hne)).mpr (h.kept hun.before fd' hfd' hne)

/-- No client meets the end of its stream when it is read. -/
theorem unended (h : Serviced c w₀ τ i w) {rest : List Byte} (hrest : ¬ Short bufSize rest)
    {fd : Fd} (hi : w.live[i]? = some fd)
    (hρ : RecordTrace (PeerClosed c (receivedFrom c w₀.hist ++ rest)) (w.hist ++ [.serving fd])
      fd ρ) : ∀ m, .recv fd m (some []) ∉ ρ := by
  intro m hm
  by_cases hc : fd = c
  · subst hc
    exact (h.serve hrest hi hρ).unmet ⟨m, by simp [hm]⟩
  · obtain ⟨τ₁, τ₂, hsplit⟩ := List.append_of_mem hm
    have hlaw := along_iff.mp hρ.along τ₁ _ τ₂ hsplit
    obtain ⟨m', r, hpos, heq⟩ := hρ.only _ hm
    cases heq
    simp only [PeerClosed, if_neg hc] at hlaw
    exact hlaw hpos rfl

/-- An index of the table is one of the table the pass began with. -/
theorem lt_live (h : Serviced c w₀ τ i w) {j : Nat} {fd : Fd} (hj : w.live[j]? = some fd) :
    j < w₀.live.length :=
  Nat.lt_of_lt_of_le (List.getElem?_eq_some_iff.mp hj).1 h.shrunk.sub.length_le

theorem settled (h : Serviced c w₀ τ i w) : Settled c w₀ w :=
  ⟨τ, h.hist, fun hun => ⟨fun hmet => (h.unmet hmet).elim, h.kept hun⟩⟩

end Serviced

/-- Enough for the calls of one record and the iterations of both loops. -/
def passBound (w₀ : World) : Nat := 2 * w₀.live.length + bufSize + 4

section Bounded

variable (c : Fd) (rest : List Byte) (w₀ : World)

theorem relay_serviced (i : Nat) (skip : Nat → Bool) {frame : List Byte}
    (hlegal : Legal bufSize frame) :
    RelayInv (PeerClosed c (receivedFrom c w₀.hist ++ rest)) skip (record frame) (fun _ => True)
      (fun w => ∃ τ, Serviced c w₀ τ i w) (fun _ _ => False)
      (fun n j w => (∃ τ, Serviced c w₀ τ i w) ∧ j ≤ w₀.live.length ∧
        w₀.live.length + bufSize + 4 ≤ n + j) where
  wf h := by
    obtain ⟨⟨τ, hs⟩, -⟩ := h
    exact hs.shrunk.wf.table
  holds _ := trivial
  skipped h hj _ := by
    obtain ⟨⟨τ, hs⟩, -, hle⟩ := h
    have hlt := hs.lt_live hj
    exact ⟨⟨τ, hs⟩, by omega, by omega⟩
  mid _ _ _ _ := trivial
  sent h hj _ hτ _ _ := by
    obtain ⟨⟨τ, hs⟩, -, hle⟩ := h
    have hlt := hs.lt_live hj
    exact ⟨⟨_, hs.sending hτ⟩, by omega, by omega⟩
  dropped {n j w fd ρ w'} h hj _ hρ hf hr := by
    obtain ⟨⟨τ, hs⟩, -, hle⟩ := h
    have hlt := hs.lt_live hj
    have hfail : Unfailing c (τ ++ ρ) → fd = c := fun hun =>
      hun.send fd (SendFailed.append_iff.mpr (.inr hf))
    exact ⟨⟨_, (hs.sending hρ).drop hj hfail hr⟩, by omega, by omega⟩
  spent h := by
    obtain ⟨-, hj, hle⟩ := h
    omega
  stuck h hj _ hτ hle hnf := by
    obtain ⟨⟨τ, hs⟩, -, hbound⟩ := h
    have hlt := hs.lt_live hj
    have hcalls := hτ.length_le (peerClosed_progressive c _) hnf
    have hframe := hlegal.2
    rw [record_length] at hcalls
    omega
  done h _ := h.1

theorem pass_serviced (tapcfg : Bool) (ready : List Fd) (hrest : ¬ Short bufSize rest) :
    PassInv (PeerClosed c (receivedFrom c w₀.hist ++ rest)) tapcfg ready (fun _ => True)
      (fun _ => Settled c w₀) (fun _ _ => False)
      (fun n i w => (∃ τ, Serviced c w₀ τ i w) ∧ i ≤ w₀.live.length ∧ passBound w₀ ≤ n + i) where
  wf h := by
    obtain ⟨⟨τ, hs⟩, -⟩ := h
    exact hs.shrunk.wf.table
  holds _ := trivial
  skipped h hi _ := by
    obtain ⟨⟨τ, hs⟩, -, hle⟩ := h
    have hlt := hs.lt_live hi
    exact ⟨⟨τ, hs.pass⟩, by omega, by omega⟩
  mid _ _ _ _ := trivial
  refused {n i w fd ρ w'} h hi _ hρ hrefused hr := by
    obtain ⟨⟨τ, hs⟩, -, hle⟩ := h
    have hlt := hs.lt_live hi
    have hnew : receivedFrom fd τ = [] := by
      apply hs.unserved
      rw [drop_of_getElem? hi]
      exact List.mem_cons_self
    have hfail : Unfailing c (τ ++ .serving fd :: ρ) → fd = c := by
      intro hun
      rcases hrefused with ⟨m, hm⟩ | ⟨hbad, -⟩
      · exact hun.recv fd ⟨m, List.mem_append_right τ (List.mem_cons_of_mem _ hm)⟩
      · apply hun.length fd
        rw [receivedFrom_append, hnew]
        exact hbad
    exact ⟨⟨_, (hs.serve hrest hi hρ).drop hi hfail hr⟩, by omega, by omega⟩
  written {n i w fd ρ frame answer} _ h hi _ hρ _ _ _ _ := by
    obtain ⟨⟨τ, hs⟩, -, hle⟩ := h
    have hlt := hs.lt_live hi
    have hs' := (hs.serve hrest hi hρ).note (e := .write fd frame answer) rfl (fun _ => rfl)
      (by simp)
    rw [World.log_log] at hs'
    exact ⟨⟨_, hs'⟩, by omega, by omega⟩
  rejected {n i w fd ρ frame answer} _ h hi _ hρ _ _ _ hanswer := by
    obtain ⟨⟨τ, hs⟩, -, -⟩ := h
    refine ⟨trivial, τ ++ (.serving fd :: ρ ++ [.write fd frame answer]), ?_, fun hun => ?_⟩
    · rw [World.log_hist, hs.hist, List.append_assoc]
    · have := hun.device fd frame answer (by simp)
      omega
  forwarded {n i w fd ρ frame buf} _ h hi _ hρ hlegal _ hbuf hframe := by
    obtain ⟨⟨τ, hs⟩, -, hle⟩ := h
    have hlt := hs.lt_live hi
    have hs' := (hs.serve hrest hi hρ).note (e := .forward fd frame) rfl (fun _ => rfl) (by simp)
    rw [World.log_log] at hs'
    have hroom : w₀.live.length + bufSize + 4 ≤ n + 0 := by
      unfold passBound at hle
      omega
    refine (RelayInv.sat_forwardLoop hlegal hbuf hframe (relay_serviced c rest w₀ (i + 1) _ hlegal)
      ⟨⟨_, hs'⟩, Nat.zero_le _, hroom⟩).mono (fun _ h => h) (fun _ _ _ hs => ⟨hs, ?_, ?_⟩)
      (fun _ _ _ h => h) <;> omega
  spent h := by
    obtain ⟨-, hi, hle⟩ := h
    unfold passBound at hle
    omega
  stuck {n i w fd ρ} h hi _ hρ hle hnf := by
    obtain ⟨⟨τ, hs⟩, -, hbound⟩ := h
    have hlt := hs.lt_live hi
    have hcalls := hρ.length_le (hs.unended hrest hi hρ) hnf
    unfold passBound at hbound
    omega
  done h _ := by
    obtain ⟨⟨τ, hs⟩, -⟩ := h
    exact hs.settled

end Bounded

/-- A stream that does not end before its first record does is tolerated. -/
theorem tolerates_of_not_short {w₀ : World} (hw : w₀.Wf) (tapcfg : Bool) (ready : List Fd) (c : Fd)
    {rest : List Byte} (hrest : ¬ Short bufSize rest) : Tolerates tapcfg ready c rest w₀ := by
  refine ⟨passBound w₀, fun fuel hfuel buf hbuf => ?_⟩
  exact (pass_serviced c rest w₀ tapcfg ready hrest).sat fuel 0 buf w₀ hbuf
    ⟨⟨[], .begin c hw⟩, Nat.zero_le _, hfuel⟩

/-! ## A stream that ends inside a record -/

/-- Everything goes well but for the end of the stream of `c`: every byte
offered is accepted, the other clients send the byte 1 for ever, the device
takes every frame. -/
def undisturbed (c : Fd) (sent : List Byte) (h : List Event) : (k : Call) → k.Ans
  | .send _ data => (some data.length : Option Nat)
  | .recv fd n => some (if fd = c then (unread c sent h).take n else List.replicate n 1)
  | .write _ _ => (1 : Int)

/-- The answers are those of `undisturbed`. -/
def Undisturbed (c : Fd) (sent : List Byte) : Allows := fun h e =>
  ∃ k : Call, e = k.event (undisturbed c sent h k)

/-- The environment that gives these answers. -/
def undisturbedOs (c : Fd) (sent : List Byte) : Responder World Call Call.Ans := fun w k =>
  (undisturbed c sent w.hist k, w.log [k.event (undisturbed c sent w.hist k)])

theorem Undisturbed.closed {c : Fd} {sent : List Byte} {h : List Event} {e : Event}
    (he : Undisturbed c sent h e) : PeerClosed c sent h e := by
  obtain ⟨k, rfl⟩ := he
  cases k with
  | send fd data => exact List.length_pos_iff.mpr
  | write fd data => trivial
  | recv fd n =>
      simp only [Call.event, undisturbed, PeerClosed]
      split
      · refine ⟨List.take_prefix _ _, fun hn hne => ?_⟩
        rw [Ne, List.take_eq_nil_iff]
        rintro (hzero | hnil)
        · omega
        · exact hne hnil
      · intro hn hnil
        have hlen := congrArg List.length hnil
        simp only [List.length_replicate, List.length_nil] at hlen
        omega

theorem undisturbed_credible (c : Fd) (sent : List Byte) (h : List Event) (k : Call) :
    (k.event (undisturbed c sent h k)).Credible := by
  cases k with
  | send fd data => exact Nat.le_refl _
  | write fd data => trivial
  | recv fd n =>
      simp only [Call.event, undisturbed, Event.Credible]
      split
      · exact List.length_take_le _ _
      · exact Nat.le_of_eq List.length_replicate

theorem undisturbedOs_follows (c : Fd) (sent : List Byte) :
    Follows (undisturbedOs c sent) (osEnv (Undisturbed c sent)) := fun w k =>
  ⟨undisturbed_credible c sent w.hist k, ⟨k, rfl⟩, rfl⟩

theorem undisturbedOs_follows_closed (c : Fd) (sent : List Byte) :
    Follows (undisturbedOs c sent) (osEnv (PeerClosed c sent)) := fun w k =>
  ⟨undisturbed_credible c sent w.hist k, Undisturbed.closed ⟨k, rfl⟩, rfl⟩

section Answers

variable {c : Fd} {sent : List Byte} {h τ : List Event} {fd : Fd}

/-- No call fails. -/
theorem SendTrace.undisturbed {data : List Byte}
    (hτ : SendTrace (Undisturbed c sent) h fd data τ) : ¬ SendFailed fd τ := by
  rintro ⟨d, hd⟩
  obtain ⟨τ₁, τ₂, hs⟩ := List.append_of_mem hd
  obtain ⟨k, hk⟩ := along_iff.mp hτ.along τ₁ _ τ₂ hs
  cases k <;> simp [Call.event, TapCfg.Daemon.undisturbed] at hk

theorem RecordTrace.undisturbed (hτ : RecordTrace (Undisturbed c sent) h fd τ) :
    ¬ RecvFailed fd τ := by
  rintro ⟨n, hn⟩
  obtain ⟨τ₁, τ₂, hs⟩ := List.append_of_mem hn
  obtain ⟨k, hk⟩ := along_iff.mp hτ.along τ₁ _ τ₂ hs
  cases k <;> simp [Call.event, TapCfg.Daemon.undisturbed] at hk

/-- The other clients send the byte 1 for ever. -/
theorem RecordTrace.ones (hτ : RecordTrace (Undisturbed c sent) h fd τ) (hne : fd ≠ c) :
    ∀ b ∈ receivedFrom fd τ, b = 1 := by
  intro b hb
  obtain ⟨e, he, hbe⟩ := List.mem_flatMap.mp hb
  obtain ⟨τ₁, τ₂, hs⟩ := List.append_of_mem he
  obtain ⟨k, rfl⟩ := along_iff.mp hτ.along τ₁ e τ₂ hs
  obtain ⟨n, r, -, heq⟩ := hτ.only _ he
  cases k with
  | send => cases heq
  | write => cases heq
  | recv s m =>
      cases heq
      simp only [Call.event, TapCfg.Daemon.undisturbed, Event.receivedFrom, if_neg hne,
        if_true] at hbe
      exact List.eq_of_mem_replicate hbe

/-- A stream of the byte 1 announces records of 257 bytes. -/
theorem not_badHead_ones {s : List Byte} (hs : ∀ b ∈ s, b = 1) : ¬ BadHead bufSize s := by
  rintro ⟨hlen, hbad⟩
  match s, hlen with
  | b₀ :: b₁ :: _, _ =>
      obtain rfl := hs b₀ (by simp)
      obtain rfl := hs b₁ (by simp)
      revert hbad
      simp [headerValue, bufSize]

/-- So no record of theirs is refused. -/
theorem RecordTrace.not_refused (hτ : RecordTrace (Undisturbed c sent) h fd τ) (hne : fd ≠ c) :
    ¬ Refused fd τ := by
  rintro (hf | ⟨hbad, -⟩)
  · exact hτ.undisturbed hf
  · exact not_badHead_ones (hτ.ones hne) hbad

/-- The record of the client that has closed comes to no end. -/
theorem RecordTrace.endless {rest : List Byte} (hτ : RecordTrace (Undisturbed c sent) h c τ)
    (hs : receivedFrom c h ++ rest = sent) (hrest : Short bufSize rest) :
    ¬ Refused c τ ∧ ∀ frame, Legal bufSize frame → receivedFrom c τ ≠ record frame := by
  have hin := received_inside (hτ.along.mono fun _ _ => Undisturbed.closed) ⟨rest, hs⟩
  rw [receivedFrom_append, ← hs] at hin
  obtain ⟨tail, htail⟩ := (List.prefix_append_right_inj _).mp hin
  refine ⟨?_, fun frame hlegal hframe => ?_⟩
  · rintro (hf | ⟨hbad, -⟩)
    · exact hτ.undisturbed hf
    · obtain ⟨hlen, hvalue⟩ := htail ▸ hbad.append tail
      rcases hrest with hshort | ⟨hfit, hshort⟩ <;> omega
  · have hle := hlegal.2
    have hvalue : headerValue rest = frame.length := by
      rw [← htail, hframe, headerValue_record (Nat.lt_of_le_of_lt hle bufSize_lt)]
    have hlen : 2 + frame.length ≤ rest.length := by
      rw [← htail, hframe, List.length_append, record_length]
      omega
    rcases hrest with hshort | ⟨hfit, hshort⟩ <;> omega

end Answers

/-- A pass that began in `w₀` has taken nobody out and has not come to `c`, of
which nothing has been read. -/
structure Unharmed (c : Fd) (w₀ : World) (i : Nat) (w : World) : Prop where
  wf : w.table.Wf
  live : w.live = w₀.live
  ahead : c ∈ w.live.drop i
  untouched : receivedFrom c w.hist = receivedFrom c w₀.hist

namespace Unharmed

variable {c : Fd} {w₀ w : World} {i : Nat} {τ : List Event}

theorem quiet (h : Unharmed c w₀ i w) (hrecv : receivedFrom c τ = []) :
    Unharmed c w₀ i (w.log τ) :=
  ⟨h.wf, h.live, h.ahead, by rw [World.log_hist, receivedFrom_append, hrecv, List.append_nil,
    h.untouched]⟩

/-- What is still to come from `c` when its turn begins. -/
theorem serving (h : Unharmed c w₀ i w) (rest : List Byte) :
    receivedFrom c (w.hist ++ [.serving c]) ++ rest = receivedFrom c w₀.hist ++ rest := by
  have hturn := h.quiet (show receivedFrom c [.serving c] = [] from rfl)
  exact congrArg (· ++ rest) hturn.untouched

/-- The client at the index is another one. -/
theorem pass (h : Unharmed c w₀ i w) {fd : Fd} (hi : w.live[i]? = some fd) (hne : fd ≠ c) :
    Unharmed c w₀ (i + 1) w := by
  refine ⟨h.wf, h.live, ?_, h.untouched⟩
  have hmem := h.ahead
  rw [drop_of_getElem? hi] at hmem
  exact (List.mem_cons.mp hmem).resolve_left (Ne.symm hne)

end Unharmed

/-- The turn of one client reads nothing of another. -/
theorem receivedFrom_turn {L : Allows} {h τ : List Event} {c fd : Fd} {e : Event}
    (hτ : RecordTrace L h fd τ) (hne : fd ≠ c) (he : receivedFrom c [e] = []) :
    receivedFrom c (.serving fd :: τ ++ [e]) = [] := by
  rw [receivedFrom_append, he, List.append_nil]
  exact hτ.receivedFrom_ne hne

section Unbounded

variable (c : Fd) (rest : List Byte) (w₀ : World)

theorem relay_unharmed (i : Nat) (skip : Nat → Bool) (data : List Byte) :
    RelayInv (Undisturbed c (receivedFrom c w₀.hist ++ rest)) skip data (fun _ => True)
      (Unharmed c w₀ i) (fun _ _ => True) (fun _ _ => Unharmed c w₀ i) where
  wf h := h.wf
  holds _ := trivial
  skipped h _ _ := h
  mid _ _ _ _ := trivial
  sent h _ _ hτ _ _ := h.quiet (hτ.receivedFrom_eq c)
  dropped _ _ _ hτ hf _ := (hτ.undisturbed hf).elim
  spent _ := trivial
  stuck _ _ _ _ _ _ := trivial
  done h _ := h

/-- In this environment the pass comes to `c` and goes no further. -/
theorem pass_unharmed (tapcfg : Bool) {ready : List Fd} (hready : c ∈ ready)
    (hrest : Short bufSize rest) :
    PassInv (Undisturbed c (receivedFrom c w₀.hist ++ rest)) tapcfg ready (fun _ => True)
      (fun _ _ => False) (fun _ _ => True) (fun _ => Unharmed c w₀) where
  wf h := h.wf
  holds _ := trivial
  skipped h hi hnot := h.pass hi fun heq => hnot (heq ▸ hready)
  mid _ _ _ _ := trivial
  refused {n i w fd τ w'} h hi _ hτ hrefused _ := by
    by_cases hc : fd = c
    · subst hc
      exact ((hτ.endless (h.serving rest) hrest).1 hrefused).elim
    · exact (hτ.not_refused hc hrefused).elim
  written {n i w fd τ frame answer} _ h hi _ hτ hlegal hgot _ _ := by
    by_cases hc : fd = c
    · subst hc
      exact ((hτ.endless (h.serving rest) hrest).2 frame hlegal hgot).elim
    · exact (h.pass hi hc).quiet (receivedFrom_turn hτ hc rfl)
  rejected {n i w fd τ frame answer} _ _ _ _ _ _ _ hL hanswer := by
    obtain ⟨k, hk⟩ := hL
    cases k <;> simp [Call.event, undisturbed] at hk
    omega
  forwarded {n i w fd τ frame buf} _ h hi _ hτ hlegal hgot hbuf hframe := by
    by_cases hc : fd = c
    · subst hc
      exact ((hτ.endless (h.serving rest) hrest).2 frame hlegal hgot).elim
    · apply RelayInv.sat_forwardLoop hlegal hbuf hframe (relay_unharmed c rest w₀ (i + 1) _ _)
      exact (h.pass hi hc).quiet (receivedFrom_turn hτ hc rfl)
  spent _ := trivial
  stuck _ _ _ _ _ _ := trivial
  done {n i w} h hle := by
    have hmem := h.ahead
    rw [List.drop_eq_nil_of_le hle] at hmem
    cases hmem

end Unbounded

/-- A stream that ends before its first record does is not tolerated: no bound
is enough for the pass that meets its end. -/
theorem not_tolerates_of_short {w₀ : World} (hw : w₀.Wf) (tapcfg : Bool) {ready : List Fd} {c : Fd}
    (hc : c ∈ w₀.live) (hready : c ∈ ready) {rest : List Byte} (hrest : Short bufSize rest) :
    ¬ Tolerates tapcfg ready c rest w₀ := by
  rintro ⟨bound, h⟩
  have hreturns := (h bound (Nat.le_refl _) (List.replicate bufSize 0) List.length_replicate).run
    (undisturbedOs_follows_closed c (receivedFrom c w₀.hist ++ rest))
  have hruns := ((pass_unharmed c rest w₀ tapcfg hready hrest).sat bound 0
    (List.replicate bufSize 0) w₀ List.length_replicate ⟨hw.table, rfl, hc, rfl⟩).run
    (undisturbedOs_follows c (receivedFrom c w₀.hist ++ rest))
  cases hrun : (servicePass bound tapcfg ready 0 (List.replicate bufSize 0)).run
      (undisturbedOs c (receivedFrom c w₀.hist ++ rest)) w₀ with
  | mk result w =>
      rw [hrun] at hreturns hruns
      cases result with
      | ok flow => exact hruns
      | error e => exact hreturns

/-! ## The end of a stream -/

/-- For every table, every client of it that `select` has reported and every end
of its stream: the pass terminates and settles the table if and only if the
stream does not end before its first record does. -/
theorem closing_tolerated_iff {w₀ : World} (hw : w₀.Wf) (tapcfg : Bool) {ready : List Fd} {c : Fd}
    (hc : c ∈ w₀.live) (hready : c ∈ ready) (rest : List Byte) :
    Tolerates tapcfg ready c rest w₀ ↔ ¬ Short bufSize rest :=
  ⟨fun h hshort => not_tolerates_of_short hw tapcfg hc hready hshort h,
    tolerates_of_not_short hw tapcfg ready c⟩

/-- Client 5 of a forwarder closes after a whole record. -/
theorem closing_tolerated_record :
    Tolerates false [5, 6] 5 [0, 1, 7] ⟨.holding [5, 6], [.added 5, .added 6]⟩ := by
  have hw : World.Wf ⟨.holding [5, 6], [.added 5, .added 6]⟩ := ⟨by decide, by decide, by decide⟩
  exact (closing_tolerated_iff hw false (by decide) (by decide) [0, 1, 7]).mpr (by decide)

/-- Client 5 of a server with a device, which a run reaches with `select` having
reported it, closes between two records, inside a length or inside a payload. -/
theorem closing_not_tolerated : ∃ σ, Reachable anyAnswer σ ∧ σ.writer = .selected [5] ∧
    ∀ rest : List Byte, rest ∈ [[], [0], [0, 3, 1]] →
      ¬ Tolerates σ.server.tapcfg [5] 5 rest (σ.world.log [.round [5]]) := by
  have htop := atTop_reachable anyAnswer true (show [5].Nodup by decide) (by decide)
  have hbuild := htop.step (.locked (atTop_free _ _)
    (.build rfl (show fdSet _ = .ok ([5], 5) from rfl) (by decide)))
  have hselect := hbuild.step (.outside (.select rfl (List.Subset.refl [5])))
  refine ⟨_, hselect, rfl, fun rest hrest => ?_⟩
  refine not_tolerates_of_short ⟨by decide, by decide, by decide⟩ true (by decide) (by decide) ?_
  revert rest
  decide

end TapCfg.Daemon
