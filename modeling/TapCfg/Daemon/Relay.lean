/-
  Daemon/Relay.lean --- one frame to every client of the table.

  Source: src/daemon/tapserver.c, lines 182-201 (reader_thread) and 293-308
  (the forward loop of writer_thread).

  The two loops are one loop: the forward loop leaves out one index, and uses
  the length bytes it has received instead of computing them.  The bound on the
  client count is read again in every iteration, because a removal changes it.

  `RelayInv` lists what an assertion `J` at the head of the loop must survive:
  a client that is left out, a record that is accepted whole, and a record that
  fails and takes its client out of the table.  `RelayInv.sat` is the induction
  over the loop, made once.
-/
import TapCfg.Daemon.Transfer

set_option autoImplicit false

namespace TapCfg.Daemon

open TapCfg.Foundation
open Prog

/-- `server->clienttab[i]` -/
def clienttabAt (i : Nat) : Io Fd := do
  let w ← load
  match w.table.clienttab[i]? with
  | some fd => return fd
  | none => .fault .bounds

/-- One iteration: the record, and the removal when it fails.  The source reads
`clienttab[i]` before each of the two sends; nothing writes it in between. -/
def sendToClient (fuel : Nat) (sizebuf buf : List Byte) (len j : Nat) : Io Unit := do
  let fd ← clienttabAt j
  let tmp ← sendRecord fuel fd sizebuf buf len
  if tmp ≤ 0 then update (removeClient · j) else return ()

/-- The loop from index `j` on, leaving out the indices `skip` names. -/
def relay : Nat → (Nat → Bool) → List Byte → List Byte → Nat → Nat → Io Unit
  | 0, _, _, _, _, _ => .fault .fuel
  | fuel + 1, skip, sizebuf, buf, len, j => do
      let w ← load
      if (j : Int) < w.table.clients then
        if skip j then relay fuel skip sizebuf buf len (j + 1)
        else do
          sendToClient fuel sizebuf buf len j
          relay fuel skip sizebuf buf len (j + 1)
      else return ()

/-- `sizebuf[0] = (len >> 8) & 0xff; sizebuf[1] = len & 0xff` -/
def sizeBytes (len : Nat) : List Byte :=
  [UInt8.ofNat ((len >>> 8) &&& 0xff), UInt8.ofNat (len &&& 0xff)]

/-- The section of `reader_thread`: the frame in `buf` to every client. -/
def broadcast (fuel : Nat) (buf : List Byte) : Io Unit :=
  relay fuel (fun _ => false) (sizeBytes buf.length) buf buf.length 0

/-- The forward loop of `writer_thread` for the client at index `i`. -/
def forwardLoop (fuel : Nat) (sizebuf buf : List Byte) (len i : Nat) : Io Unit :=
  relay fuel (fun j => i == j) sizebuf buf len 0

theorem sizeBytes_eq {n : Nat} (h : n < 65536) : sizeBytes n = header n := by
  have hmask : (0xff : Nat) = 2 ^ 8 - 1 := rfl
  have hlow : UInt8.ofNat (n % 2 ^ 8) = UInt8.ofNat n := by
    apply UInt8.toNat_inj.mp
    simp only [UInt8.toNat_ofNat']
    omega
  rw [sizeBytes, header, hmask, Nat.and_two_pow_sub_one_eq_mod, Nat.and_two_pow_sub_one_eq_mod,
    hlow, Nat.shiftRight_eq_div_pow, Nat.mod_eq_of_lt (by omega)]

section Rules

variable {L : Allows} {I : World → Prop} {F : Fault → World → Prop}

/-- The rule for reading an entry in use. -/
theorem sat_clienttabAt {i : Nat} {fd : Fd} {Q : Fd → World → Prop} {w : World}
    (hw : w.table.Wf) (hi : w.live[i]? = some fd) (hI : I w) (hQ : Q fd w) :
    Sat (osEnv L) I Q F (clienttabAt i) w := by
  have hget : w.table.clienttab[i]? = some fd :=
    (hw.getElem? (List.getElem?_eq_some_iff.mp hi).1).trans hi
  refine sat_bind (sat_load hI ?_)
  simp only [hget]
  exact sat_ret hI hQ

/-- The rule for `remove_client` at an index in use. -/
theorem sat_removeClient {i : Nat} {fd : Fd} {Q : Unit → World → Prop} {w : World}
    (hw : w.table.Wf) (hi : w.live[i]? = some fd) (hI : I w)
    (h : ∀ w', removeClient w i = .ok w' → I w' ∧ Q () w') :
    Sat (osEnv L) I Q F (update (removeClient · i)) w := by
  obtain ⟨w', hr, -⟩ := removeClient_ok hw hi
  exact sat_update hr hI (h w' hr).1 (h w' hr).2

/-- What an assertion at the head of the loop must survive, for a record `data`. -/
structure RelayInv (L : Allows) (skip : Nat → Bool) (data : List Byte) (I Q : World → Prop)
    (F : Fault → World → Prop) (J : Nat → Nat → World → Prop) : Prop where
  wf : ∀ {n j w}, J n j w → w.table.Wf
  holds : ∀ {n j w}, J n j w → I w
  /-- the client is left out -/
  skipped : ∀ {n j w fd}, J (n + 1) j w → w.live[j]? = some fd → skip j = true → J n (j + 1) w
  /-- in the middle of a record -/
  mid : ∀ {n j w fd τ}, J (n + 1) j w → w.live[j]? = some fd → skip j = false →
    SendTrace L w.hist fd data τ → I (w.log τ)
  /-- the record was accepted whole -/
  sent : ∀ {n j w fd τ}, J (n + 1) j w → w.live[j]? = some fd → skip j = false →
    SendTrace L w.hist fd data τ → ¬ SendFailed fd τ → sentTo fd τ = data → J n (j + 1) (w.log τ)
  /-- a send failed and the client was taken out -/
  dropped : ∀ {n j w fd τ w'}, J (n + 1) j w → w.live[j]? = some fd → skip j = false →
    SendTrace L w.hist fd data τ → SendFailed fd τ → removeClient (w.log τ) j = .ok w' →
    J n (j + 1) w'
  /-- the bound on the iterations is used up -/
  spent : ∀ {j w}, J 0 j w → F .fuel w
  /-- the bound on the calls is used up -/
  stuck : ∀ {n j w fd τ}, J (n + 1) j w → w.live[j]? = some fd → skip j = false →
    SendTrace L w.hist fd data τ → n ≤ τ.length → ¬ SendFailed fd τ → F .fuel (w.log τ)
  /-- the loop is over -/
  done : ∀ {n j w}, J (n + 1) j w → w.live.length ≤ j → Q w

/-- The induction over the loop. -/
theorem RelayInv.sat {skip : Nat → Bool} {sizebuf buf : List Byte} {len : Nat}
    {Q : World → Prop} {J : Nat → Nat → World → Prop}
    (hinv : RelayInv L skip (sizebuf ++ buf.take len) I Q F J)
    (hsize : sizebuf.length = 2) (hpos : 1 ≤ len) (hlen : len ≤ buf.length) :
    ∀ (fuel j : Nat) (w : World), J fuel j w →
      Sat (osEnv L) I (fun _ w' => Q w') F (relay fuel skip sizebuf buf len j) w := by
  intro fuel
  induction fuel with
  | zero => intro j w hJ; exact sat_fault (hinv.holds hJ) (hinv.spent hJ)
  | succ n ih =>
      intro j w hJ
      have hw := hinv.wf hJ
      refine sat_bind (sat_load (hinv.holds hJ) ?_)
      by_cases hlt : (j : Int) < w.table.clients
      · rw [if_pos hlt]
        have hj : j < w.live.length := hw.lt_clients.mp hlt
        obtain ⟨fd, hfd⟩ : ∃ fd, w.live[j]? = some fd := ⟨_, List.getElem?_eq_getElem hj⟩
        cases hskip : skip j with
        | true =>
            rw [if_pos rfl]
            exact ih (j + 1) w (hinv.skipped hJ hfd hskip)
        | false =>
            rw [if_neg (by decide)]
            refine sat_bind (sat_bind (sat_clienttabAt hw hfd (hinv.holds hJ) (sat_bind ?_)))
            refine sat_sendRecord hsize hpos hlen (fun τ hτ => hinv.mid hJ hfd hskip hτ) ?_ ?_
              (fun τ hτ hle hnf => hinv.stuck hJ hfd hskip hτ hle hnf)
            · intro τ r hr hτ hnf hsent
              rw [if_neg (by omega)]
              have hJ' := hinv.sent hJ hfd hskip hτ hnf hsent
              exact sat_ret (hinv.holds hJ') (ih (j + 1) _ hJ')
            · intro τ hτ hf
              rw [if_pos (by decide)]
              refine sat_removeClient (w := w.log τ) hw hfd (hinv.mid hJ hfd hskip hτ)
                fun w' hr => ?_
              have hJ' := hinv.dropped hJ hfd hskip hτ hf hr
              exact ⟨hinv.holds hJ', ih (j + 1) w' hJ'⟩
      · rw [if_neg hlt]
        have hdone := Nat.le_of_not_lt fun h => hlt (hw.lt_clients.mpr h)
        exact sat_ret (hinv.holds hJ) (hinv.done hJ hdone)

/-- The rule for the section of `reader_thread`. -/
theorem RelayInv.sat_broadcast {buf : List Byte} {Q : World → Prop}
    {J : Nat → Nat → World → Prop} (hlegal : Legal bufSize buf)
    (hinv : RelayInv L (fun _ => false) (record buf) I Q F J) {fuel : Nat} {w : World}
    (hJ : J fuel 0 w) :
    Sat (osEnv L) I (fun _ w' => Q w') F (broadcast fuel buf) w := by
  have hsize : sizeBytes buf.length = header buf.length :=
    sizeBytes_eq (Nat.lt_of_le_of_lt hlegal.2 bufSize_lt)
  have hdata : sizeBytes buf.length ++ buf.take buf.length = record buf := by
    rw [hsize, List.take_length, record]
  exact RelayInv.sat (hdata ▸ hinv) rfl hlegal.1 (Nat.le_refl _) fuel 0 w hJ

/-- The rule for the forward loop, when the buffer begins with the frame. -/
theorem RelayInv.sat_forwardLoop {frame buf : List Byte} {i : Nat} {Q : World → Prop}
    {J : Nat → Nat → World → Prop} (hlegal : Legal bufSize frame)
    (hbuf : buf.length = bufSize) (hframe : buf.take frame.length = frame)
    (hinv : RelayInv L (fun j => i == j) (record frame) I Q F J) {fuel : Nat} {w : World}
    (hJ : J fuel 0 w) :
    Sat (osEnv L) I (fun _ w' => Q w') F
      (forwardLoop fuel (header frame.length) buf frame.length i) w := by
  have hdata : header frame.length ++ buf.take frame.length = record frame := by
    rw [hframe, record]
  have hle := hlegal.2
  exact RelayInv.sat (hdata ▸ hinv) rfl hlegal.1 (by omega) fuel 0 w hJ

end Rules

end TapCfg.Daemon
