/-
  Daemon/Service.lean --- the servicing pass of writer_thread.

  Source: src/daemon/tapserver.c, lines 259-310.

  `serviceClient` is the body of the loop for one index, `servicePass` the loop.
  The pass holds the table mutex from its first to its last step.  In device
  mode a frame goes to `tapcfg_write`, and a result that is not positive ends
  the thread (`Flow.exit`); in forwarder mode it goes through `forwardLoop`.

  `sat_serviceClient` is the rule for one iteration.  `PassInv` lists what an
  assertion `J` at the head of the loop must survive, `PassInv.sat` is the
  induction over the loop, made once.
-/
import TapCfg.Daemon.Relay

set_option autoImplicit false

namespace TapCfg.Daemon

open TapCfg.Foundation
open Prog

/-- How an iteration or the pass goes on. -/
inductive Flow where
  /-- to the next statement after the loop body or the loop -/
  | next
  /-- `running = 0` and `goto exit` -/
  | exit
  deriving DecidableEq, Repr

/-- The body of the servicing loop at index `i`.  `tapcfg` tells whether the
thread has a device, `ready` is the set `select` has left, `buf` the frame
buffer of the thread. -/
def serviceClient (fuel : Nat) (tapcfg : Bool) (ready : List Fd) (i : Nat) (buf : List Byte) :
    Io (Flow × List Byte) := do
  let fd ← clienttabAt i
  if fd ∈ ready then do
    mark (.serving fd)
    let r ← recvRecord fuel fd buf
    if r.tmp ≤ 0 then do
      update (removeClient · i)
      return (.next, r.buf)
    else if tapcfg then do
      let tmp ← tapcfgWrite fd (r.buf.take r.len)
      if tmp ≤ 0 then return (.exit, r.buf) else return (.next, r.buf)
    else do
      mark (.forward fd (r.buf.take r.len))
      forwardLoop fuel r.sizebuf r.buf r.len i
      return (.next, r.buf)
  else return (.next, buf)

/-- The loop from index `i` on. -/
def servicePass : Nat → Bool → List Fd → Nat → List Byte → Io Flow
  | 0, _, _, _, _ => .fault .fuel
  | fuel + 1, tapcfg, ready, i, buf => do
      let w ← load
      if (i : Int) < w.table.clients then do
        let (flow, buf) ← serviceClient fuel tapcfg ready i buf
        match flow with
        | .exit => return .exit
        | .next => servicePass fuel tapcfg ready (i + 1) buf
      else return .next

section Rules

variable {L : Allows} {I : World → Prop} {F : Fault → World → Prop}

/-- The rule for one iteration, at an index in use. -/
theorem sat_serviceClient {tapcfg : Bool} {ready : List Fd} {n i : Nat} {fd : Fd} {buf : List Byte}
    (hbuf : buf.length = bufSize) {Q : Flow × List Byte → World → Prop} {w : World}
    (hw : w.table.Wf) (hfd : w.live[i]? = some fd) (hI : I w)
    (hskip : fd ∉ ready → Q (.next, buf) w)
    (hmid : fd ∈ ready → ∀ τ, RecordTrace L (w.hist ++ [.serving fd]) fd τ →
      I (w.log (.serving fd :: τ)))
    (hrefused : fd ∈ ready → ∀ τ w' buf', RecordTrace L (w.hist ++ [.serving fd]) fd τ →
      Refused fd τ → removeClient (w.log (.serving fd :: τ)) i = .ok w' →
      buf'.length = bufSize → I w' ∧ Q (.next, buf') w')
    (hwrite : tapcfg = true → fd ∈ ready → ∀ τ frame answer buf',
      RecordTrace L (w.hist ++ [.serving fd]) fd τ → Legal bufSize frame →
      receivedFrom fd τ = record frame →
      L (w.hist ++ .serving fd :: τ) (.write fd frame answer) → buf'.length = bufSize →
      I (w.log (.serving fd :: τ ++ [.write fd frame answer])) ∧
        Q (if answer ≤ 0 then .exit else .next, buf')
          (w.log (.serving fd :: τ ++ [.write fd frame answer])))
    (hforward : tapcfg = false → fd ∈ ready → ∀ τ frame buf',
      RecordTrace L (w.hist ++ [.serving fd]) fd τ → Legal bufSize frame →
      receivedFrom fd τ = record frame → buf'.length = bufSize →
      buf'.take frame.length = frame →
      Sat (osEnv L) I (fun _ w' => Q (.next, buf') w') F
        (forwardLoop n (header frame.length) buf' frame.length i)
        (w.log (.serving fd :: τ ++ [.forward fd frame])))
    (hstuck : fd ∈ ready → ∀ τ, RecordTrace L (w.hist ++ [.serving fd]) fd τ → n ≤ τ.length →
      ¬ RecvFailed fd τ → F .fuel (w.log (.serving fd :: τ))) :
    Sat (osEnv L) I Q F (serviceClient n tapcfg ready i buf) w := by
  refine sat_bind (sat_clienttabAt hw hfd hI ?_)
  by_cases hready : fd ∈ ready
  · rw [if_pos hready]
    have hlog : ∀ τ : List Event, (w.log [.serving fd]).log τ = w.log (.serving fd :: τ) :=
      fun τ => by rw [World.log_log, List.singleton_append]
    refine sat_bind (sat_mark hI (hmid hready [] ⟨RecvTrace.nil _ _ _ _, .inl (by simp), trivial⟩)
      (sat_bind ?_))
    refine sat_recvRecord hbuf (fun τ hτ => hlog τ ▸ hmid hready τ hτ) ?_ ?_
      (fun τ hτ hle hnf => hlog τ ▸ hstuck hready τ hτ hle hnf)
    · -- a complete record: the frame is passed on
      intro τ frame r htmp hsize hlen hrbuf htake hlegal hτ hgot
      have hdata : r.buf.take r.len = frame := by rw [hlen, htake]
      rw [if_neg (by omega), hlog, hdata]
      cases htap : tapcfg with
      | true =>
          rw [if_pos rfl]
          refine sat_bind (sat_tapcfgWrite (hmid hready τ hτ) fun answer hL => ?_)
          rw [World.log_log]
          obtain ⟨hI', hQ⟩ := hwrite htap hready τ frame answer r.buf hτ hlegal hgot hL hrbuf
          by_cases hanswer : answer ≤ 0
          · rw [if_pos hanswer] at hQ ⊢
            exact ⟨hI', sat_ret hI' hQ⟩
          · rw [if_neg hanswer] at hQ ⊢
            exact ⟨hI', sat_ret hI' hQ⟩
      | false =>
          rw [if_neg (by decide), hsize, hlen]
          have hloop := hforward htap hready τ frame r.buf hτ hlegal hgot hrbuf htake
          refine sat_bind (sat_mark (hmid hready τ hτ) ?_ (sat_bind ?_)) <;> rw [World.log_log]
          · exact hloop.holds
          · exact hloop.mono (fun _ h => h) (fun _ _ hI' hQ => sat_ret hI' hQ) (fun _ _ _ h => h)
    · -- a failed call or a bad length: the client is taken out
      intro τ r htmp hrbuf hτ hr
      rw [if_pos htmp, hlog]
      refine sat_bind (sat_removeClient (w := w.log (.serving fd :: τ)) hw hfd (hmid hready τ hτ)
        fun w' hremove => ?_)
      obtain ⟨hI', hQ⟩ := hrefused hready τ w' r.buf hτ hr hremove hrbuf
      exact ⟨hI', sat_ret hI' hQ⟩
  · rw [if_neg hready]
    exact sat_ret hI (hskip hready)

/-- What an assertion at the head of the loop must survive. -/
structure PassInv (L : Allows) (tapcfg : Bool) (ready : List Fd) (I : World → Prop)
    (Q : Flow → World → Prop) (F : Fault → World → Prop) (J : Nat → Nat → World → Prop) :
    Prop where
  wf : ∀ {n i w}, J n i w → w.table.Wf
  holds : ∀ {n i w}, J n i w → I w
  /-- `select` has not reported the client -/
  skipped : ∀ {n i w fd}, J (n + 1) i w → w.live[i]? = some fd → fd ∉ ready → J n (i + 1) w
  /-- in the middle of a record -/
  mid : ∀ {n i w fd τ}, J (n + 1) i w → w.live[i]? = some fd → fd ∈ ready →
    RecordTrace L (w.hist ++ [.serving fd]) fd τ → I (w.log (.serving fd :: τ))
  /-- no record: the client was taken out -/
  refused : ∀ {n i w fd τ w'}, J (n + 1) i w → w.live[i]? = some fd → fd ∈ ready →
    RecordTrace L (w.hist ++ [.serving fd]) fd τ → Refused fd τ →
    removeClient (w.log (.serving fd :: τ)) i = .ok w' → J n (i + 1) w'
  /-- device mode: the device took the frame -/
  written : ∀ {n i w fd τ frame answer}, tapcfg = true → J (n + 1) i w → w.live[i]? = some fd →
    fd ∈ ready → RecordTrace L (w.hist ++ [.serving fd]) fd τ → Legal bufSize frame →
    receivedFrom fd τ = record frame →
    L (w.hist ++ .serving fd :: τ) (.write fd frame answer) → 0 < answer →
    J n (i + 1) (w.log (.serving fd :: τ ++ [.write fd frame answer]))
  /-- device mode: the device did not take the frame -/
  rejected : ∀ {n i w fd τ frame answer}, tapcfg = true → J (n + 1) i w → w.live[i]? = some fd →
    fd ∈ ready → RecordTrace L (w.hist ++ [.serving fd]) fd τ → Legal bufSize frame →
    receivedFrom fd τ = record frame →
    L (w.hist ++ .serving fd :: τ) (.write fd frame answer) → answer ≤ 0 →
    I (w.log (.serving fd :: τ ++ [.write fd frame answer])) ∧
      Q .exit (w.log (.serving fd :: τ ++ [.write fd frame answer]))
  /-- forwarder mode: the frame goes through the forward loop -/
  forwarded : ∀ {n i w fd τ frame buf}, tapcfg = false → J (n + 1) i w → w.live[i]? = some fd →
    fd ∈ ready → RecordTrace L (w.hist ++ [.serving fd]) fd τ → Legal bufSize frame →
    receivedFrom fd τ = record frame → buf.length = bufSize → buf.take frame.length = frame →
    Sat (osEnv L) I (fun _ w' => J n (i + 1) w') F
      (forwardLoop n (header frame.length) buf frame.length i)
      (w.log (.serving fd :: τ ++ [.forward fd frame]))
  /-- the bound on the iterations is used up -/
  spent : ∀ {i w}, J 0 i w → F .fuel w
  /-- the bound on the calls is used up -/
  stuck : ∀ {n i w fd τ}, J (n + 1) i w → w.live[i]? = some fd → fd ∈ ready →
    RecordTrace L (w.hist ++ [.serving fd]) fd τ → n ≤ τ.length → ¬ RecvFailed fd τ →
    F .fuel (w.log (.serving fd :: τ))
  /-- the loop is over -/
  done : ∀ {n i w}, J (n + 1) i w → w.live.length ≤ i → Q .next w

variable {tapcfg : Bool} {ready : List Fd} {Q : Flow → World → Prop} {J : Nat → Nat → World → Prop}

/-- One iteration leaves the pass in `Q`, or `J` holds at the head of the next
one and the frame buffer keeps its length. -/
theorem PassInv.sat_iteration (hinv : PassInv L tapcfg ready I Q F J) {n i : Nat}
    {buf : List Byte} (hbuf : buf.length = bufSize) {w : World} (hJ : J (n + 1) i w)
    (hi : i < w.live.length) :
    Sat (osEnv L) I
      (fun r w' => r.2.length = bufSize ∧
        match r.1 with
        | .exit => Q .exit w'
        | .next => J n (i + 1) w')
      F (serviceClient n tapcfg ready i buf) w := by
  obtain ⟨fd, hfd⟩ : ∃ fd, w.live[i]? = some fd := ⟨_, List.getElem?_eq_getElem hi⟩
  apply sat_serviceClient hbuf (hinv.wf hJ) hfd (hinv.holds hJ)
  · intro hnot
    exact ⟨hbuf, hinv.skipped hJ hfd hnot⟩
  · intro hready τ hτ
    exact hinv.mid hJ hfd hready hτ
  · intro hready τ w' buf' hτ hrefused hr hbuf'
    have hJ' := hinv.refused hJ hfd hready hτ hrefused hr
    exact ⟨hinv.holds hJ', hbuf', hJ'⟩
  · intro htap hready τ frame answer buf' hτ hlegal hgot hL hbuf'
    by_cases hanswer : answer ≤ 0
    · obtain ⟨hI, hQ⟩ := hinv.rejected htap hJ hfd hready hτ hlegal hgot hL hanswer
      rw [if_pos hanswer]
      exact ⟨hI, hbuf', hQ⟩
    · have hJ' := hinv.written htap hJ hfd hready hτ hlegal hgot hL (by omega)
      rw [if_neg hanswer]
      exact ⟨hinv.holds hJ', hbuf', hJ'⟩
  · intro htap hready τ frame buf' hτ hlegal hgot hbuf' htake
    exact (hinv.forwarded htap hJ hfd hready hτ hlegal hgot hbuf' htake).mono (fun _ h => h)
      (fun _ _ _ hJ' => ⟨hbuf', hJ'⟩) (fun _ _ _ h => h)
  · intro hready τ hτ hle hnf
    exact hinv.stuck hJ hfd hready hτ hle hnf

/-- The induction over the loop. -/
theorem PassInv.sat (hinv : PassInv L tapcfg ready I Q F J) :
    ∀ (fuel i : Nat) (buf : List Byte) (w : World), buf.length = bufSize → J fuel i w →
      Sat (osEnv L) I Q F (servicePass fuel tapcfg ready i buf) w := by
  intro fuel
  induction fuel with
  | zero => intro i buf w _ hJ; exact sat_fault (hinv.holds hJ) (hinv.spent hJ)
  | succ n ih =>
      intro i buf w hbuf hJ
      have hw := hinv.wf hJ
      refine sat_bind (sat_load (hinv.holds hJ) ?_)
      by_cases hlt : (i : Int) < w.table.clients
      · rw [if_pos hlt]
        refine sat_bind ((hinv.sat_iteration hbuf hJ (hw.lt_clients.mp hlt)).mono
          (fun _ h => h) ?_ (fun _ _ _ h => h))
        rintro ⟨flow, buf'⟩ w' hI ⟨hbuf', hflow⟩
        cases flow with
        | next => exact ih (i + 1) buf' w' hbuf' hflow
        | exit => exact sat_ret hI hflow
      · rw [if_neg hlt]
        have hdone := Nat.le_of_not_lt fun h => hlt (hw.lt_clients.mpr h)
        exact sat_ret (hinv.holds hJ) (hinv.done hJ hdone)

end Rules

end TapCfg.Daemon
