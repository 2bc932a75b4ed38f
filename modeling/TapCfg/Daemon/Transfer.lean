/-
  Daemon/Transfer.lean --- `send_data`, `recv_data`, and one record through each.

  Source: src/daemon/tapserver.c, lines 123-151 (the loops), 185-194 and 299-302
  (a record out), 267-276 (a record in).

  Both loops run until the whole count is through or the call answers -1.  An
  answer of 0 leaves the count where it is and the loop goes on, as in the
  source.  The loops take a bound `fuel` on the number of calls; a section whose
  bound is used up stops at `Fault.fuel`, which means "has not returned yet".

  Each function has one rule: `sat_sendRecord` and `sat_recvRecord` reduce what
  must hold at every moment of the loops, and after them, to statements about
  the events the loop has made so far (`SendTrace`, `RecvTrace`).
-/
import TapCfg.Daemon.ClientTable

set_option autoImplicit false

namespace TapCfg.Daemon

open TapCfg.Foundation
open Prog

/-! ## Sending -/

/-- `send_data`, with `sent` of the `len` bytes already accepted. -/
def sendData : Nat → Fd → List Byte → Nat → Nat → Io Int
  | 0, _, _, _, _ => .fault .fuel
  | fuel + 1, s, buf, len, sent =>
      if sent < len then do
        match ← send s ((buf.drop sent).take (len - sent)) with
        | none => return -1
        | some count => sendData fuel s buf len (sent + count)
      else return sent

/-- The two `send_data` calls that make up one record. -/
def sendRecord (fuel : Nat) (s : Fd) (sizebuf buf : List Byte) (len : Nat) : Io Int := do
  let tmp ← sendData fuel s sizebuf 2 0
  if tmp > 0 then sendData fuel s buf len 0 else return tmp

/-- `τ` is part of the sending of `data` to `s`, begun after the history `h`. -/
structure SendTrace (L : Allows) (h : List Event) (s : Fd) (data : List Byte)
    (τ : List Event) : Prop where
  only : ∀ e ∈ τ, ∃ d r, d ≠ [] ∧ e = .send s d r
  sent : sentTo s τ <+: data
  along : Along L h τ
  credible : ∀ e ∈ τ, e.Credible

/-- A call to `send` answered -1. -/
def SendFailed (s : Fd) (τ : List Event) : Prop := ∃ d, Event.send s d none ∈ τ

theorem SendFailed.append_iff {s : Fd} {τ ρ : List Event} :
    SendFailed s (τ ++ ρ) ↔ SendFailed s τ ∨ SendFailed s ρ := by
  simp only [SendFailed, List.mem_append, exists_or]

/-- Every call to `send` of a nonempty buffer accepts something or fails. -/
def Progressive (L : Allows) : Prop := ∀ h s d, d ≠ [] → ¬ L h (.send s d (some 0))

theorem length_le_flatMap {E : Type} {f : E → List Byte} {τ : List E} (h : ∀ e ∈ τ, f e ≠ []) :
    τ.length ≤ (τ.flatMap f).length := by
  induction τ with
  | nil => exact Nat.zero_le _
  | cons e τ ih =>
      have hpos : 0 < (f e).length := List.length_pos_iff.mpr (h e List.mem_cons_self)
      have hrest := ih fun e' he' => h e' (List.mem_cons_of_mem e he')
      rw [List.flatMap_cons, List.length_append, List.length_cons]
      omega

namespace SendTrace

variable {L : Allows} {h : List Event} {s : Fd} {data : List Byte} {τ ρ : List Event}

theorem nil (L : Allows) (h : List Event) (s : Fd) (data : List Byte) :
    SendTrace L h s data [] := ⟨by simp, by simp, trivial, by simp⟩

theorem append {data' : List Byte} (hτ : SendTrace L h s data τ)
    (hρ : SendTrace L (h ++ τ) s data' ρ)
    (hsent : sentTo s τ ++ sentTo s ρ <+: data) :
    SendTrace L h s data (τ ++ ρ) := by
  refine ⟨fun e he => ?_, by simpa using hsent, along_append.mpr ⟨hτ.along, hρ.along⟩,
    fun e he => ?_⟩
  · exact (List.mem_append.mp he).elim (hτ.only e) (hρ.only e)
  · exact (List.mem_append.mp he).elim (hτ.credible e) (hρ.credible e)

/-- One more call. -/
theorem concat {d : List Byte} {answer : Option Nat} (hτ : SendTrace L h s data τ)
    (hd : d ≠ []) (hL : L (h ++ τ) (.send s d answer)) (hcred : (Event.send s d answer).Credible)
    (hsent : sentTo s τ ++ sentTo s [.send s d answer] <+: data) :
    SendTrace L h s data (τ ++ [.send s d answer]) := by
  have hone : SendTrace L (h ++ τ) s (sentTo s [.send s d answer]) [.send s d answer] :=
    ⟨fun e he => ⟨d, answer, hd, List.mem_singleton.mp he⟩, List.prefix_refl _,
      by simpa using hL, by simpa using hcred⟩
  exact hτ.append hone hsent

/-- Sending leaves the table alone. -/
theorem not_onTable (hτ : SendTrace L h s data τ) : ∀ e ∈ τ, e.onTable = false := by
  intro e he
  obtain ⟨d, r, -, rfl⟩ := hτ.only e he
  rfl

theorem not_adds (hτ : SendTrace L h s data τ) (fd : Fd) : ∀ e ∈ τ, e.adds fd = false := by
  intro e he
  obtain ⟨d, r, -, rfl⟩ := hτ.only e he
  rfl

/-- What is sent to one descriptor is not sent to another. -/
theorem sentTo_ne (hτ : SendTrace L h s data τ) {fd : Fd} (hne : s ≠ fd) : sentTo fd τ = [] := by
  rw [sentTo, List.flatMap_eq_nil_iff]
  intro e he
  obtain ⟨d, r, -, rfl⟩ := hτ.only e he
  cases r <;> simp [Event.sentTo, hne]

theorem receivedFrom_eq (hτ : SendTrace L h s data τ) (fd : Fd) : receivedFrom fd τ = [] := by
  rw [receivedFrom, List.flatMap_eq_nil_iff]
  intro e he
  obtain ⟨d, r, -, rfl⟩ := hτ.only e he
  rfl

theorem passedFrom_eq (hτ : SendTrace L h s data τ) (fd : Fd) : passedFrom fd τ = [] := by
  rw [passedFrom, List.filterMap_eq_nil_iff]
  intro e he
  obtain ⟨d, r, -, rfl⟩ := hτ.only e he
  rfl

theorem offered_eq (hτ : SendTrace L h s data τ) : offered τ = [] := by
  rw [offered, List.filterMap_eq_nil_iff]
  intro e he
  obtain ⟨d, r, -, rfl⟩ := hτ.only e he
  rfl

/-- A call that does not fail makes progress, so there are not many. -/
theorem length_le (hL : Progressive L) (hτ : SendTrace L h s data τ) (hnf : ¬ SendFailed s τ) :
    τ.length ≤ data.length := by
  refine Nat.le_trans (length_le_flatMap fun e he => ?_) hτ.sent.length_le
  obtain ⟨τ₁, τ₂, hs⟩ := List.append_of_mem he
  have hlaw := along_iff.mp hτ.along τ₁ e τ₂ hs
  obtain ⟨d, r, hd, rfl⟩ := hτ.only e he
  cases r with
  | none => exact (hnf ⟨d, he⟩).elim
  | some k =>
      have hk : k ≠ 0 := by
        rintro rfl
        exact hL _ _ _ hd hlaw
      have hpos : 0 < d.length := List.length_pos_iff.mpr hd
      apply List.ne_nil_of_length_pos
      simp only [Event.sentTo, if_true, List.length_take]
      omega

end SendTrace

section SendRules

variable {L : Allows} {I : World → Prop} {Q : Int → World → Prop} {F : Fault → World → Prop}

/-- The loop of `send_data` when `sent` bytes have been accepted, in the calls `τ`. -/
structure PartSent (L : Allows) (h : List Event) (s : Fd) (buf : List Byte) (len sent : Nat)
    (τ : List Event) : Prop where
  trace : SendTrace L h s (buf.take len) τ
  unfailed : ¬ SendFailed s τ
  accepted : sentTo s τ = buf.take sent
  le : sent ≤ len

/-- What the loop has left to send. -/
def unsent (buf : List Byte) (len sent : Nat) : List Byte := (buf.drop sent).take (len - sent)

theorem unsent_ne_nil {buf : List Byte} {len sent : Nat} (hlen : len ≤ buf.length)
    (hlt : sent < len) : unsent buf len sent ≠ [] := by
  apply List.ne_nil_of_length_pos
  simp only [unsent, List.length_take, List.length_drop]
  omega

namespace PartSent

variable {h τ : List Event} {s : Fd} {buf : List Byte} {len sent : Nat}

/-- A call that fails ends the loop. -/
theorem fail (hτ : PartSent L h s buf len sent τ) (hlen : len ≤ buf.length) (hlt : sent < len)
    (hL : L (h ++ τ) (.send s (unsent buf len sent) none)) :
    SendTrace L h s (buf.take len) (τ ++ [.send s (unsent buf len sent) none]) ∧
      SendFailed s (τ ++ [.send s (unsent buf len sent) none]) := by
  refine ⟨hτ.trace.concat (unsent_ne_nil hlen hlt) hL trivial ?_,
    _, List.mem_append_right τ List.mem_cons_self⟩
  simpa [sentTo, Event.sentTo] using hτ.trace.sent

/-- A call that accepts `k` bytes. -/
theorem accept {k : Nat} (hτ : PartSent L h s buf len sent τ) (hlen : len ≤ buf.length)
    (hlt : sent < len) (hL : L (h ++ τ) (.send s (unsent buf len sent) (some k)))
    (hcred : (Event.send s (unsent buf len sent) (some k)).Credible) :
    PartSent L h s buf len (sent + k) (τ ++ [.send s (unsent buf len sent) (some k)]) := by
  have hk : k ≤ len - sent := by
    have hcount : k ≤ (unsent buf len sent).length := hcred
    simp only [unsent, List.length_take, List.length_drop] at hcount
    omega
  have hone : sentTo s [.send s (unsent buf len sent) (some k)] = (buf.drop sent).take k := by
    simp [sentTo, Event.sentTo, unsent, List.take_take, Nat.min_eq_left hk]
  have hacc : buf.take sent ++ (buf.drop sent).take k = buf.take (sent + k) := List.take_add.symm
  refine ⟨hτ.trace.concat (unsent_ne_nil hlen hlt) hL hcred ?_, ?_, ?_, by omega⟩
  · rw [hτ.accepted, hone, hacc]
    exact List.take_prefix_take_left (by omega)
  · rw [SendFailed.append_iff]
    rintro (hf | ⟨d, hd⟩)
    · exact hτ.unfailed hf
    · simp at hd
  · rw [sentTo_append, hτ.accepted, hone, hacc]

end PartSent

/-- The loop of `send_data` from the middle: `τ₀` has been made. -/
theorem sat_sendData_from {s : Fd} {buf : List Byte} {len : Nat} (hlen : len ≤ buf.length)
    (w : World)
    (hmid : ∀ τ, SendTrace L w.hist s (buf.take len) τ → I (w.log τ))
    (hok : ∀ τ, SendTrace L w.hist s (buf.take len) τ → ¬ SendFailed s τ →
      sentTo s τ = buf.take len → Q len (w.log τ))
    (herr : ∀ τ, SendTrace L w.hist s (buf.take len) τ → SendFailed s τ → Q (-1) (w.log τ)) :
    ∀ (fuel sent : Nat) (τ₀ : List Event),
      (∀ τ, SendTrace L w.hist s (buf.take len) τ → fuel + τ₀.length ≤ τ.length →
        ¬ SendFailed s τ → F .fuel (w.log τ)) →
      PartSent L w.hist s buf len sent τ₀ →
      Sat (osEnv L) I Q F (sendData fuel s buf len sent) (w.log τ₀) := by
  intro fuel
  induction fuel with
  | zero =>
      intro sent τ₀ hfuel hτ₀
      exact sat_fault (hmid τ₀ hτ₀.trace) (hfuel τ₀ hτ₀.trace (by omega) hτ₀.unfailed)
  | succ fuel ih =>
      intro sent τ₀ hfuel hτ₀
      rw [sendData]
      by_cases hlt : sent < len
      · rw [if_pos hlt]
        refine sat_bind (sat_send (hmid τ₀ hτ₀.trace) fun answer hcred hL => ?_)
        rw [World.log_log]
        cases answer with
        | none =>
            obtain ⟨hτ, hf⟩ := hτ₀.fail hlen hlt hL
            exact ⟨hmid _ hτ, sat_ret (hmid _ hτ) (herr _ hτ hf)⟩
        | some k =>
            have hτ := hτ₀.accept hlen hlt hL hcred
            refine ⟨hmid _ hτ.trace, ih (sent + k) _ (fun τ h hle hf => hfuel τ h ?_ hf) hτ⟩
            simp only [List.length_append, List.length_singleton] at hle
            omega
      · rw [if_neg hlt]
        have heq : sent = len := Nat.le_antisymm hτ₀.le (Nat.not_lt.mp hlt)
        subst heq
        exact sat_ret (hmid τ₀ hτ₀.trace) (hok τ₀ hτ₀.trace hτ₀.unfailed hτ₀.accepted)

/-- The rule for `send_data`. -/
theorem sat_sendData {fuel : Nat} {s : Fd} {buf : List Byte} {len : Nat} (hlen : len ≤ buf.length)
    {w : World}
    (hmid : ∀ τ, SendTrace L w.hist s (buf.take len) τ → I (w.log τ))
    (hok : ∀ τ, SendTrace L w.hist s (buf.take len) τ → ¬ SendFailed s τ →
      sentTo s τ = buf.take len → Q len (w.log τ))
    (herr : ∀ τ, SendTrace L w.hist s (buf.take len) τ → SendFailed s τ → Q (-1) (w.log τ))
    (hfuel : ∀ τ, SendTrace L w.hist s (buf.take len) τ → fuel ≤ τ.length → ¬ SendFailed s τ →
      F .fuel (w.log τ)) :
    Sat (osEnv L) I Q F (sendData fuel s buf len 0) w := by
  have h := sat_sendData_from hlen w hmid hok herr fuel 0 []
    (fun τ hτ hle => hfuel τ hτ (by simpa using hle))
    ⟨.nil _ _ _ _, by simp [SendFailed], by simp, Nat.zero_le len⟩
  simpa using h

/-- The rule for a whole record out. -/
theorem sat_sendRecord {fuel : Nat} {s : Fd} {sizebuf buf : List Byte} {len : Nat}
    (hsize : sizebuf.length = 2) (hpos : 1 ≤ len) (hlen : len ≤ buf.length) {w : World}
    (hmid : ∀ τ, SendTrace L w.hist s (sizebuf ++ buf.take len) τ → I (w.log τ))
    (hok : ∀ τ r, 0 < r → SendTrace L w.hist s (sizebuf ++ buf.take len) τ → ¬ SendFailed s τ →
      sentTo s τ = sizebuf ++ buf.take len → Q r (w.log τ))
    (herr : ∀ τ, SendTrace L w.hist s (sizebuf ++ buf.take len) τ → SendFailed s τ →
      Q (-1) (w.log τ))
    (hfuel : ∀ τ, SendTrace L w.hist s (sizebuf ++ buf.take len) τ → fuel ≤ τ.length →
      ¬ SendFailed s τ → F .fuel (w.log τ)) :
    Sat (osEnv L) I Q F (sendRecord fuel s sizebuf buf len) w := by
  have htake : sizebuf.take 2 = sizebuf := List.take_of_length_le (by omega)
  have hfirst : ∀ τ, SendTrace L w.hist s (sizebuf.take 2) τ →
      SendTrace L w.hist s (sizebuf ++ buf.take len) τ := by
    intro τ hτ
    rw [htake] at hτ
    exact ⟨hτ.only, hτ.sent.trans (List.prefix_append _ _), hτ.along, hτ.credible⟩
  refine sat_bind (sat_sendData (by omega) (fun τ hτ => hmid τ (hfirst τ hτ)) ?_ ?_
    (fun τ hτ => hfuel τ (hfirst τ hτ)))
  · -- the length is through: the payload is sent after the events `τ`
    intro τ hτ hnf hsent
    rw [htake] at hsent
    have hboth : ∀ ρ, SendTrace L (w.log τ).hist s (buf.take len) ρ →
        SendTrace L w.hist s (sizebuf ++ buf.take len) (τ ++ ρ) := by
      intro ρ hρ
      apply (hfirst τ hτ).append hρ
      rw [hsent]
      exact (List.prefix_append_right_inj _).mpr hρ.sent
    have hnone : ∀ ρ, ¬ SendFailed s ρ → ¬ SendFailed s (τ ++ ρ) := fun ρ h h' =>
      (SendFailed.append_iff.mp h').elim hnf h
    rw [if_pos (by decide)]
    refine sat_sendData hlen (fun ρ hρ => ?_) (fun ρ hρ hn hs => ?_) (fun ρ hρ hf => ?_)
      (fun ρ hρ hle hn => ?_)
    · rw [World.log_log]
      exact hmid _ (hboth ρ hρ)
    · rw [World.log_log]
      exact hok _ _ (by omega) (hboth ρ hρ) (hnone ρ hn) (by rw [sentTo_append, hsent, hs])
    · rw [World.log_log]
      exact herr _ (hboth ρ hρ) (SendFailed.append_iff.mpr (.inr hf))
    · rw [World.log_log]
      refine hfuel _ (hboth ρ hρ) ?_ (hnone ρ hn)
      simp only [List.length_append]
      omega
  · intro τ hτ hf
    rw [if_neg (by decide)]
    exact sat_ret (hmid τ (hfirst τ hτ)) (herr τ (hfirst τ hτ) hf)

end SendRules

/-! ## Receiving -/

/-- `recv_data`, with `recvd` bytes of the `len` already in the buffer. -/
def recvData : Nat → Fd → List Byte → Nat → Nat → Io (Int × List Byte)
  | 0, _, _, _, _ => .fault .fuel
  | fuel + 1, s, buf, len, recvd =>
      if recvd < len then do
        match ← recv s (len - recvd) with
        | none => return (-1, buf)
        | some chunk => recvData fuel s (splice buf recvd chunk) len (recvd + chunk.length)
      else return (recvd, buf)

/-- `(sizebuf[0]&0xff) << 8 | sizebuf[1]` -/
def sizeOf : List Byte → Nat
  | b₀ :: b₁ :: _ => ((b₀.toNat &&& 0xff) <<< 8) ||| b₁.toNat
  | _ => 0

/-- What the servicing loop knows after it has tried to read one record: the
result, the length bytes, the length and the frame buffer. -/
structure Received where
  tmp : Int
  sizebuf : List Byte
  len : Nat
  buf : List Byte

/-- The two `recv_data` calls that read one record.  `sizebuf` is not
initialised in the source; every byte of it that is read has been received. -/
def recvRecord (fuel : Nat) (s : Fd) (buf : List Byte) : Io Received := do
  let (tmp, sizebuf) ← recvData fuel s [0, 0] 2 0
  if tmp > 0 then
    let len := sizeOf sizebuf
    if len ≤ bufSize then
      let (tmp, buf) ← recvData fuel s buf len 0
      return ⟨tmp, sizebuf, len, buf⟩
    else return ⟨-1, sizebuf, len, buf⟩  -- "Buffer size error handled as read error"
  else return ⟨tmp, sizebuf, 0, buf⟩

theorem sizeOf_eq (s : List Byte) : sizeOf s = headerValue s := by
  match s with
  | [] => rfl
  | [_] => rfl
  | b₀ :: b₁ :: _ =>
      have h0 := b₀.toNat_lt
      have h1 := b₁.toNat_lt
      have hmask : b₀.toNat &&& 0xff = b₀.toNat := by
        rw [show (0xff : Nat) = 2 ^ 8 - 1 from rfl, Nat.and_two_pow_sub_one_eq_mod]
        omega
      simp only [sizeOf, headerValue, hmask]
      rw [← Nat.shiftLeft_add_eq_or_of_lt (by omega), Nat.shiftLeft_eq]

/-- `τ` is part of the receiving of at most `max` bytes from `s`, begun after
the history `h`. -/
structure RecvTrace (L : Allows) (h : List Event) (s : Fd) (max : Nat) (τ : List Event) : Prop where
  only : ∀ e ∈ τ, ∃ n r, 0 < n ∧ e = .recv s n r
  recvd : (receivedFrom s τ).length ≤ max
  /-- a call is made only as long as something is missing -/
  short : Along (fun h' _ => (receivedFrom s h').length < max) [] τ
  along : Along L h τ
  credible : ∀ e ∈ τ, e.Credible

/-- A call to `recv` answered -1. -/
def RecvFailed (s : Fd) (τ : List Event) : Prop := ∃ n, Event.recv s n none ∈ τ

theorem RecvFailed.append_iff {s : Fd} {τ ρ : List Event} :
    RecvFailed s (τ ++ ρ) ↔ RecvFailed s τ ∨ RecvFailed s ρ := by
  simp only [RecvFailed, List.mem_append, exists_or]

namespace RecvTrace

variable {L : Allows} {h : List Event} {s : Fd} {max : Nat} {τ ρ : List Event}

theorem nil (L : Allows) (h : List Event) (s : Fd) (max : Nat) : RecvTrace L h s max [] :=
  ⟨by simp, by simp, trivial, trivial, by simp⟩

theorem append {max' : Nat} (hτ : RecvTrace L h s max τ)
    (hρ : RecvTrace L (h ++ τ) s max' ρ) (hmax : (receivedFrom s τ).length + max' ≤ max) :
    RecvTrace L h s max (τ ++ ρ) := by
  have hrecvd := hρ.recvd
  refine ⟨fun e he => ?_, ?_, along_append.mpr ⟨hτ.short, along_iff.mpr fun ρ₁ e ρ₂ hs => ?_⟩,
    along_append.mpr ⟨hτ.along, hρ.along⟩, fun e he => ?_⟩
  · exact (List.mem_append.mp he).elim (hτ.only e) (hρ.only e)
  · rw [receivedFrom_append, List.length_append]
    omega
  · have hshort := along_iff.mp hρ.short ρ₁ e ρ₂ hs
    simp only [List.nil_append, receivedFrom_append, List.length_append] at hshort ⊢
    omega
  · exact (List.mem_append.mp he).elim (hτ.credible e) (hρ.credible e)

/-- One more call. -/
theorem concat {n : Nat} {answer : Option (List Byte)} (hτ : RecvTrace L h s max τ) (hn : 0 < n)
    (hL : L (h ++ τ) (.recv s n answer)) (hcred : (Event.recv s n answer).Credible)
    (hmax : (receivedFrom s τ).length + n ≤ max) :
    RecvTrace L h s max (τ ++ [.recv s n answer]) := by
  have hgot : (receivedFrom s [.recv s n answer]).length ≤ n := by
    cases answer with
    | none => exact Nat.zero_le n
    | some chunk =>
        have hchunk : chunk.length ≤ n := hcred
        simpa [receivedFrom, Event.receivedFrom] using hchunk
  have hone : RecvTrace L (h ++ τ) s n [.recv s n answer] :=
    ⟨fun e he => ⟨n, answer, hn, List.mem_singleton.mp he⟩, hgot, along_singleton.mpr (by simpa),
      by simpa using hL, by simpa using hcred⟩
  exact hτ.append hone hmax

/-- A call that fails, when something is missing. -/
theorem fail (hτ : RecvTrace L h s max τ) (hlt : (receivedFrom s τ).length < max)
    (hL : L (h ++ τ) (.recv s (max - (receivedFrom s τ).length) none)) :
    RecvTrace L h s max (τ ++ [.recv s (max - (receivedFrom s τ).length) none]) ∧
      RecvFailed s (τ ++ [.recv s (max - (receivedFrom s τ).length) none]) :=
  ⟨hτ.concat (by omega) hL trivial (by omega), _, List.mem_append_right τ List.mem_cons_self⟩

/-- A call that answers some bytes, when something is missing. -/
theorem accept {chunk : List Byte} (hτ : RecvTrace L h s max τ) (hnf : ¬ RecvFailed s τ)
    (hlt : (receivedFrom s τ).length < max)
    (hL : L (h ++ τ) (.recv s (max - (receivedFrom s τ).length) (some chunk)))
    (hcred : (Event.recv s (max - (receivedFrom s τ).length) (some chunk)).Credible) :
    RecvTrace L h s max (τ ++ [.recv s (max - (receivedFrom s τ).length) (some chunk)]) ∧
      ¬ RecvFailed s (τ ++ [.recv s (max - (receivedFrom s τ).length) (some chunk)]) := by
  have hchunk : chunk.length ≤ max - (receivedFrom s τ).length := hcred
  refine ⟨hτ.concat (by omega) hL hcred (by omega), ?_⟩
  rw [RecvFailed.append_iff]
  rintro (h | ⟨n, hn⟩)
  · exact hnf h
  · simp at hn

theorem weaken {max' : Nat} (hτ : RecvTrace L h s max τ) (hle : max ≤ max') :
    RecvTrace L h s max' τ :=
  ⟨hτ.only, Nat.le_trans hτ.recvd hle, hτ.short.mono fun _ _ h => Nat.lt_of_lt_of_le h hle,
    hτ.along, hτ.credible⟩

theorem not_onTable (hτ : RecvTrace L h s max τ) : ∀ e ∈ τ, e.onTable = false := by
  intro e he
  obtain ⟨n, r, -, rfl⟩ := hτ.only e he
  rfl

/-- Receiving from one descriptor receives nothing from another. -/
theorem receivedFrom_ne (hτ : RecvTrace L h s max τ) {fd : Fd} (hne : s ≠ fd) :
    receivedFrom fd τ = [] := by
  rw [receivedFrom, List.flatMap_eq_nil_iff]
  intro e he
  obtain ⟨n, r, -, rfl⟩ := hτ.only e he
  cases r <;> simp [Event.receivedFrom, hne]

theorem sentTo_eq (hτ : RecvTrace L h s max τ) (fd : Fd) : sentTo fd τ = [] := by
  rw [sentTo, List.flatMap_eq_nil_iff]
  intro e he
  obtain ⟨n, r, -, rfl⟩ := hτ.only e he
  rfl

theorem passedFrom_eq (hτ : RecvTrace L h s max τ) (fd : Fd) : passedFrom fd τ = [] := by
  rw [passedFrom, List.filterMap_eq_nil_iff]
  intro e he
  obtain ⟨n, r, -, rfl⟩ := hτ.only e he
  rfl

theorem offered_eq (hτ : RecvTrace L h s max τ) : offered τ = [] := by
  rw [offered, List.filterMap_eq_nil_iff]
  intro e he
  obtain ⟨n, r, -, rfl⟩ := hτ.only e he
  rfl

end RecvTrace

section RecvRules

variable {L : Allows} {I : World → Prop} {F : Fault → World → Prop}

/-- The loop of `recv_data` from the middle: `τ₀` has been made, and the buffer
holds what it received over the old contents. -/
theorem sat_recvData_from {s : Fd} {old : List Byte} {len : Nat}
    {Q : Int × List Byte → World → Prop} (w : World)
    (hmid : ∀ τ, RecvTrace L w.hist s len τ → I (w.log τ))
    (hok : ∀ τ, RecvTrace L w.hist s len τ → ¬ RecvFailed s τ → (receivedFrom s τ).length = len →
      Q (len, receivedFrom s τ ++ old.drop len) (w.log τ))
    (herr : ∀ τ, RecvTrace L w.hist s len τ → RecvFailed s τ →
      Q (-1, receivedFrom s τ ++ old.drop (receivedFrom s τ).length) (w.log τ)) :
    ∀ (fuel : Nat) (τ₀ : List Event),
      (∀ τ, RecvTrace L w.hist s len τ → fuel + τ₀.length ≤ τ.length → ¬ RecvFailed s τ →
        F .fuel (w.log τ)) →
      RecvTrace L w.hist s len τ₀ → ¬ RecvFailed s τ₀ →
      Sat (osEnv L) I Q F
        (recvData fuel s (receivedFrom s τ₀ ++ old.drop (receivedFrom s τ₀).length) len
          (receivedFrom s τ₀).length) (w.log τ₀) := by
  intro fuel
  induction fuel with
  | zero =>
      intro τ₀ hfuel hτ₀ hnf
      exact sat_fault (hmid τ₀ hτ₀) (hfuel τ₀ hτ₀ (by omega) hnf)
  | succ fuel ih =>
      intro τ₀ hfuel hτ₀ hnf
      have hle := hτ₀.recvd
      rw [recvData]
      by_cases hlt : (receivedFrom s τ₀).length < len
      · rw [if_pos hlt]
        refine sat_bind (sat_recv (hmid τ₀ hτ₀) fun answer hcred hL => ?_)
        rw [World.log_log]
        cases answer with
        | none =>
            obtain ⟨hτ, hf⟩ := hτ₀.fail hlt hL
            have hq := herr _ hτ hf
            have hgot : receivedFrom s [.recv s (len - (receivedFrom s τ₀).length) none] = [] := rfl
            rw [receivedFrom_append, hgot, List.append_nil] at hq
            exact ⟨hmid _ hτ, sat_ret (hmid _ hτ) hq⟩
        | some chunk =>
            obtain ⟨hτ, hnf'⟩ := hτ₀.accept hnf hlt hL hcred
            have hgot : receivedFrom s
                [.recv s (len - (receivedFrom s τ₀).length) (some chunk)] = chunk := by
              simp [receivedFrom, Event.receivedFrom]
            refine ⟨hmid _ hτ, ?_⟩
            have hrest := ih _ (fun τ h hl hf => hfuel τ h ?_ hf) hτ hnf'
            · rw [receivedFrom_append, hgot, ← splice_append, List.length_append] at hrest
              exact hrest
            · simp only [List.length_append, List.length_singleton] at hl
              omega
      · rw [if_neg hlt]
        have heq : (receivedFrom s τ₀).length = len := by omega
        have hq := hok τ₀ hτ₀ hnf heq
        rw [heq]
        exact sat_ret (hmid τ₀ hτ₀) hq

/-- The rule for `recv_data`. -/
theorem sat_recvData {fuel : Nat} {s : Fd} {buf : List Byte} {len : Nat}
    {Q : Int × List Byte → World → Prop} {w : World}
    (hmid : ∀ τ, RecvTrace L w.hist s len τ → I (w.log τ))
    (hok : ∀ τ, RecvTrace L w.hist s len τ → ¬ RecvFailed s τ → (receivedFrom s τ).length = len →
      Q (len, receivedFrom s τ ++ buf.drop len) (w.log τ))
    (herr : ∀ τ, RecvTrace L w.hist s len τ → RecvFailed s τ →
      Q (-1, receivedFrom s τ ++ buf.drop (receivedFrom s τ).length) (w.log τ))
    (hfuel : ∀ τ, RecvTrace L w.hist s len τ → fuel ≤ τ.length → ¬ RecvFailed s τ →
      F .fuel (w.log τ)) :
    Sat (osEnv L) I Q F (recvData fuel s buf len 0) w := by
  have h := sat_recvData_from w hmid hok herr fuel []
    (fun τ hτ hle => hfuel τ hτ (by simpa using hle)) (RecvTrace.nil _ _ _ _)
    (by rintro ⟨n, hn⟩; simp at hn)
  simpa using h

/-- What can have been received of a record that is being read. -/
def PartialRecord (s : List Byte) : Prop :=
  s.length ≤ 2 ∨ (headerValue s ≤ bufSize ∧ s.length ≤ 2 + headerValue s)

/-- `τ` is part of the reading of one record from `s`. -/
structure RecordTrace (L : Allows) (h : List Event) (s : Fd) (τ : List Event) : Prop
    extends RecvTrace L h s (2 + bufSize) τ where
  inside : PartialRecord (receivedFrom s τ)
  /-- a call is made only as long as the record is not complete -/
  asked : Along (fun h' _ => Short bufSize (receivedFrom s h')) [] τ

/-- Why a record is not passed on: a failed call, or a length that is 0 or does
not fit the buffer. -/
def Refused (s : Fd) (τ : List Event) : Prop :=
  RecvFailed s τ ∨ (BadHead bufSize (receivedFrom s τ) ∧ (receivedFrom s τ).length = 2)

namespace RecordTrace

variable {L : Allows} {h : List Event} {s : Fd} {τ : List Event}

/-- Turning to a client and reading its record leave the table alone. -/
theorem served_not_onTable (hτ : RecordTrace L h s τ) :
    ∀ e ∈ Event.serving s :: τ, e.onTable = false :=
  List.forall_mem_cons.mpr ⟨rfl, hτ.not_onTable⟩

/-- So does what is done with the record. -/
theorem passed_not_onTable (hτ : RecordTrace L h s τ) {e : Event} (he : e.onTable = false) :
    ∀ e' ∈ Event.serving s :: τ ++ [e], e'.onTable = false :=
  List.forall_mem_append.mpr ⟨hτ.served_not_onTable, List.forall_mem_singleton.mpr he⟩

/-- Reading a record sends nothing and offers nothing. -/
theorem served_sentTo (hτ : RecordTrace L h s τ) (fd : Fd) : sentTo fd (.serving s :: τ) = [] :=
  hτ.sentTo_eq fd

theorem served_offered (hτ : RecordTrace L h s τ) : offered (.serving s :: τ) = [] :=
  hτ.offered_eq

end RecordTrace

theorem RecordTrace.ofHeader {L : Allows} {h : List Event} {s : Fd} {τ : List Event}
    (hτ : RecvTrace L h s 2 τ) : RecordTrace L h s τ :=
  ⟨hτ.weaken (by omega), .inl hτ.recvd, hτ.short.mono fun _ _ h => .inl h⟩

theorem RecordTrace.ofPayload {L : Allows} {h : List Event} {s : Fd} {τ ρ : List Event}
    (hτ : RecvTrace L h s 2 τ) (htwo : (receivedFrom s τ).length = 2)
    (hfit : headerValue (receivedFrom s τ) ≤ bufSize)
    (hρ : RecvTrace L (h ++ τ) s (headerValue (receivedFrom s τ)) ρ) :
    RecordTrace L h s (τ ++ ρ) := by
  have hlen := hρ.recvd
  refine ⟨(hτ.weaken (by omega)).append hρ (by omega), .inr ?_,
    along_append.mpr ⟨hτ.short.mono fun _ _ h => .inl h, along_iff.mpr fun ρ₁ e ρ₂ hs => .inr ?_⟩⟩
  · rw [receivedFrom_append, headerValue_append (by omega), List.length_append]
    exact ⟨hfit, by omega⟩
  · have hshort := along_iff.mp hρ.short ρ₁ e ρ₂ hs
    rw [List.nil_append, receivedFrom_append, headerValue_append (by omega),
      List.length_append] at *
    exact ⟨hfit, by omega⟩

/-- How the reading of the payload ends, for a payload of `len` bytes. -/
inductive PayloadRead (s : Fd) (buf : List Byte) (len : Nat) (ρ : List Event) :
    Int → List Byte → Prop where
  | done (hlen : (receivedFrom s ρ).length = len) :
      PayloadRead s buf len ρ len (receivedFrom s ρ ++ buf.drop len)
  | failed (hle : (receivedFrom s ρ).length ≤ len) (hf : RecvFailed s ρ) :
      PayloadRead s buf len ρ (-1) (receivedFrom s ρ ++ buf.drop (receivedFrom s ρ).length)

theorem PayloadRead.length {s : Fd} {buf got : List Byte} {len : Nat} {ρ : List Event} {tmp : Int}
    (h : PayloadRead s buf len ρ tmp got) (hbuf : buf.length = bufSize) (hfit : len ≤ bufSize) :
    got.length = bufSize := by
  cases h with
  | done hlen =>
      rw [List.length_append, List.length_drop]
      omega
  | failed hle hf =>
      rw [List.length_append, List.length_drop]
      omega

/-- The payload is read after the length bytes, which came with the events `τ`. -/
theorem sat_recvPayload {fuel : Nat} {s : Fd} {buf : List Byte} {w : World} {τ : List Event}
    (hτ : RecvTrace L w.hist s 2 τ) (hnf : ¬ RecvFailed s τ) (htwo : (receivedFrom s τ).length = 2)
    (hfit : headerValue (receivedFrom s τ) ≤ bufSize)
    (hmid : ∀ τ, RecordTrace L w.hist s τ → I (w.log τ))
    (hfuel : ∀ τ, RecordTrace L w.hist s τ → fuel ≤ τ.length → ¬ RecvFailed s τ →
      F .fuel (w.log τ)) :
    Sat (osEnv L) I (fun got w' => ∃ ρ, w' = w.log (τ ++ ρ) ∧ RecordTrace L w.hist s (τ ++ ρ) ∧
        PayloadRead s buf (headerValue (receivedFrom s τ)) ρ got.1 got.2) F
      (recvData fuel s buf (headerValue (receivedFrom s τ)) 0) (w.log τ) := by
  have htrace := fun ρ => RecordTrace.ofPayload (ρ := ρ) hτ htwo hfit
  refine sat_recvData (fun ρ hρ => ?_) (fun ρ hρ _ hlen => ?_) (fun ρ hρ hf => ?_)
    (fun ρ hρ hle hf => ?_)
  · rw [World.log_log]
    exact hmid _ (htrace ρ hρ)
  · exact ⟨ρ, World.log_log _ _ _, htrace ρ hρ, .done hlen⟩
  · exact ⟨ρ, World.log_log _ _ _, htrace ρ hρ, .failed hρ.recvd hf⟩
  · rw [World.log_log]
    refine hfuel _ (htrace ρ hρ) ?_ ?_
    · simp only [List.length_append]
      omega
    · rw [RecvFailed.append_iff]
      exact fun h => h.elim hnf hf

/-- The rule for a whole record in. -/
theorem sat_recvRecord {fuel : Nat} {s : Fd} {buf : List Byte} (hbuf : buf.length = bufSize)
    {Q : Received → World → Prop} {w : World}
    (hmid : ∀ τ, RecordTrace L w.hist s τ → I (w.log τ))
    (hok : ∀ τ frame r, 0 < r.tmp → r.sizebuf = header frame.length → r.len = frame.length →
      r.buf.length = bufSize → r.buf.take frame.length = frame → Legal bufSize frame →
      RecordTrace L w.hist s τ → receivedFrom s τ = record frame → Q r (w.log τ))
    (hbad : ∀ τ r, r.tmp ≤ 0 → r.buf.length = bufSize → RecordTrace L w.hist s τ →
      Refused s τ → Q r (w.log τ))
    (hfuel : ∀ τ, RecordTrace L w.hist s τ → fuel ≤ τ.length → ¬ RecvFailed s τ →
      F .fuel (w.log τ)) :
    Sat (osEnv L) I Q F (recvRecord fuel s buf) w := by
  refine sat_bind (sat_recvData (fun τ hτ => hmid τ (.ofHeader hτ)) ?_ ?_
    (fun τ hτ hle hf => hfuel τ (.ofHeader hτ) hle hf))
  · -- the length bytes are in: the payload is read after the events `τ`
    intro τ hτ hnf htwo
    have hτ2 : receivedFrom s τ ++ ([0, 0] : List Byte).drop 2 = receivedFrom s τ := by simp
    simp only [hτ2, sizeOf_eq]
    rw [if_pos (by decide)]
    split
    · rename_i hfit
      refine sat_bind ((sat_recvPayload hτ hnf htwo hfit hmid hfuel).post ?_)
      rintro ⟨tmp, got⟩ w' ⟨ρ, rfl, htrace, hread⟩
      have hbl := hread.length hbuf hfit
      refine sat_ret (hmid _ htrace) ?_
      cases hread with
      | done hlen =>
          by_cases hzero : headerValue (receivedFrom s τ) = 0
          · have hnil : receivedFrom s ρ = [] := List.length_eq_zero_iff.mp (by omega)
            refine hbad _ _ (by simp [hzero]) hbl htrace (.inr ?_)
            rw [receivedFrom_append, hnil, List.append_nil]
            exact ⟨⟨by omega, .inl hzero⟩, htwo⟩
          · have hhead : receivedFrom s τ = header (receivedFrom s ρ).length := by
              match hr : receivedFrom s τ, htwo with
              | [b₀, b₁], _ => rw [hlen, hr, header_headerValue]
            have hpos : (0 : Int) < headerValue (receivedFrom s τ) := by omega
            exact hok _ (receivedFrom s ρ) _ hpos hhead hlen.symm hbl List.take_left
              ⟨by omega, by omega⟩ htrace (by rw [receivedFrom_append, record, ← hhead])
      | failed hle hf =>
          exact hbad _ _ (by simp) hbl htrace (.inl (RecvFailed.append_iff.mpr (.inr hf)))
    · rename_i hbig
      exact sat_ret (hmid τ (.ofHeader hτ)) (hbad τ _ (by simp) hbuf (.ofHeader hτ)
        (.inr ⟨⟨by omega, .inr (by omega)⟩, htwo⟩))
  · intro τ hτ hf
    dsimp only
    rw [if_neg (by decide)]
    exact sat_ret (hmid τ (.ofHeader hτ)) (hbad τ _ (by simp) hbuf (.ofHeader hτ) (.inl hf))

end RecvRules

end TapCfg.Daemon
