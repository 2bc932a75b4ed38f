/-
  Daemon/Invariant.lean --- invariants of the whole server.

  An invariant is a pair: `G` describes the states in which the table mutex is
  free, `I` what the mutex protects at every moment, also in the middle of a
  section.  `I` may depend on whether the server has a device and on the frames
  read from it, which only grow.  `SysInv` lists what the pair must survive; a
  section is one item of the list, proved with the program logic as if it ran
  alone.

  `SysInv.reachable` is the induction over the runs, made once.  While a section
  is open the other thread goes on outside it; `Outside.leaveBroadcast` and
  `Outside.leavePass` say that such a step commutes with the closing of the
  section, so that the section may be thought to end where it stands.
-/
import TapCfg.Daemon.Server

set_option autoImplicit false

namespace TapCfg.Daemon

open TapCfg.Foundation
open Prog

/-- The only fault an invariant leaves possible: the section has not returned. -/
def NotReturned (e : Fault) (_ : World) : Prop := e = .fuel

namespace Sys

/-- The state after the reader has closed its section with this content. -/
def leaveBroadcast (σ : Sys) (w : World) : Sys := { σ.withWorld w with reader := .wait }

/-- The state after the writer has closed its section with this content. -/
def leavePass (σ : Sys) (ready : List Fd) (flow : Flow) (w : World) : Sys :=
  { σ.withWorld w with
    writer := match flow with
      | .next => .served ready
      | .exit => .done }

/-- What is known of the reader: the frame in hand is one `tapcfg_read` can
return, and only a server with a device has a reader that reads. -/
structure ReaderOk (σ : Sys) : Prop where
  legal : ∀ f, σ.reader = .got f → Legal bufSize f
  device : σ.server.tapcfg = true ∨ σ.reader = .off ∨ σ.reader = .done

@[simp] theorem leaveBroadcast_world (σ : Sys) (w : World) : (σ.leaveBroadcast w).world = w := rfl

@[simp] theorem leavePass_world (σ : Sys) (ready : List Fd) (flow : Flow) (w : World) :
    (σ.leavePass ready flow w).world = w := rfl

end Sys

/-! ## Steps outside an open section -/

/-- A step outside neither opens nor closes a section, and leaves the content of
the mutex alone. -/
theorem Outside.sections {σ σ' : Sys} (h : Outside σ σ') :
    (∀ p, σ'.reader = .inside p ↔ σ.reader = .inside p) ∧
      (∀ ready p, σ'.writer = .inside ready p ↔ σ.writer = .inside ready p) ∧
      (σ'.writer = .exiting ↔ σ.writer = .exiting) ∧ σ'.world = σ.world := by
  cases h with
  | startListening hr hw _ _ _ => cases σ.server.tapcfg <;> simp [hr, hw, Sys.world]
  | startQuiet hr hw _ => cases σ.server.tapcfg <;> simp [hr, hw, Sys.world]
  | readerCheck hr => cases σ.server.running <;> simp [hr, Sys.world]
  | writerCheck hw => cases σ.server.running <;> simp [hw, Sys.world]
  | join _ hr hw => simp [hr, hw, Sys.world]
  | startFailed hr hw _ => simp [Sys.world]
  | destroy hr hw _ => simp [Sys.world]
  | stop _ _ => simp [Sys.world]
  | readNothing hr => simp [hr, Sys.world]
  | readFrame hr _ => simp [hr, Sys.world]
  | selectFailed hw => simp [hw, Sys.world]
  | select hw _ => simp [hw, Sys.world]
  | noAccept hw _ => simp [hw, Sys.world]
  | acceptFailed hw _ => simp [hw, Sys.world]
  | accept hw _ _ _ => simp [hw, Sys.world]

/-- The mode of a server never changes. -/
theorem Outside.tapcfg {σ σ' : Sys} (h : Outside σ σ') :
    σ'.server.tapcfg = σ.server.tapcfg := by
  cases h <;> rfl

/-- Frames are only ever added to those read. -/
theorem Outside.reads {σ σ' : Sys} (h : Outside σ σ') :
    σ'.reads = σ.reads ∨ ∃ f, σ'.reads = σ.reads ++ [f] := by
  cases h with
  | @readFrame f _ _ => exact .inr ⟨f, rfl⟩
  | _ => exact .inl rfl

theorem Outside.readerOk {σ σ' : Sys} (h : Outside σ σ') (hr : σ.ReaderOk) : σ'.ReaderOk := by
  obtain ⟨hlegal, hdev⟩ := hr
  cases h with
  | startListening _ _ _ _ _ => constructor <;> cases σ.server.tapcfg <;> simp
  | startQuiet _ _ _ => constructor <;> cases σ.server.tapcfg <;> simp
  | readerCheck hr =>
      have htap : σ.server.tapcfg = true := by simpa [hr] using hdev
      exact ⟨by cases σ.server.running <;> simp, .inl htap⟩
  | readFrame hr hf =>
      have htap : σ.server.tapcfg = true := by simpa [hr] using hdev
      exact ⟨fun f h => (by cases h; exact hf), .inl htap⟩
  | readNothing hr =>
      have htap : σ.server.tapcfg = true := by simpa [hr] using hdev
      exact ⟨fun f h => (by cases h), .inl htap⟩
  | join _ _ _ => exact ⟨fun f h => (by cases h), .inr (.inl rfl)⟩
  | _ => exact ⟨hlegal, hdev⟩

/-- While the reader is in its section, a step outside is a step of the writer,
or a stop; it may as well be made after the section. -/
theorem Outside.leaveBroadcast {σ σ' : Sys} (h : Outside σ σ') {p : Io Unit}
    (hin : σ.reader = .inside p) (w : World) :
    Outside (σ.leaveBroadcast w) (σ'.leaveBroadcast w) := by
  cases h with
  | startListening hr _ _ _ _ => cases hin.symm.trans hr
  | startQuiet hr _ _ => cases hin.symm.trans hr
  | startFailed hr _ _ => cases hin.symm.trans hr
  | readNothing hr => cases hin.symm.trans hr
  | readFrame hr _ => cases hin.symm.trans hr
  | readerCheck hr => cases hin.symm.trans hr
  | join _ hr _ => cases hin.symm.trans hr
  | destroy hr _ _ => cases hin.symm.trans hr
  | selectFailed hw => exact .selectFailed hw
  | select hw hready => exact .select hw hready
  | noAccept hw hn => exact .noAccept hw hn
  | acceptFailed hw hy => exact .acceptFailed hw hy
  | accept hw hy hfd hnew => exact .accept hw hy hfd hnew
  | writerCheck hw => exact .writerCheck hw
  | stop _ hj => exact .stop (by simp [Sys.leaveBroadcast]) hj

/-- While the writer is in its section, a step outside is a step of the reader,
or a stop; it may as well be made after the section. -/
theorem Outside.leavePass {σ σ' : Sys} (h : Outside σ σ') (hin : σ.WriterInside)
    (ready : List Fd) (flow : Flow) (w : World) :
    Outside (σ.leavePass ready flow w) (σ'.leavePass ready flow w) := by
  have hpc : ∀ pc, σ.writer = pc → (∃ ready p, pc = .inside ready p) ∨ pc = .exiting := by
    rintro pc rfl
    exact hin
  cases h with
  | startListening _ hw _ _ _ => simpa using hpc _ hw
  | startQuiet _ hw _ => simpa using hpc _ hw
  | startFailed _ hw _ => simpa using hpc _ hw
  | selectFailed hw => simpa using hpc _ hw
  | select hw _ => simpa using hpc _ hw
  | noAccept hw _ => simpa using hpc _ hw
  | acceptFailed hw _ => simpa using hpc _ hw
  | accept hw _ _ _ => simpa using hpc _ hw
  | writerCheck hw => simpa using hpc _ hw
  | join _ _ hw => simpa using hpc _ hw
  | destroy _ hw _ => simpa using hpc _ hw
  | readNothing hr => exact .readNothing hr
  | readFrame hr hf => exact .readFrame hr hf
  | readerCheck hr => exact .readerCheck hr
  | stop hr hj => exact .stop hr hj

/-! ## Invariants -/

/-- What an invariant must survive. -/
structure SysInv (L : Allows) (I : Bool → List Frame → World → Prop) (G : Sys → Prop) : Prop where
  init : ∀ tapcfg, G (Sys.init tapcfg)
  holds : ∀ {σ}, G σ → I σ.server.tapcfg σ.reads σ.world
  grow : ∀ {tapcfg reads f w}, I tapcfg reads w → I tapcfg (reads ++ [f]) w
  outside : ∀ {σ σ'}, G σ → Outside σ σ' → G σ'
  locked : ∀ {σ σ'}, G σ → Locked σ σ' → G σ'
  /-- `running = 0` -/
  clear : ∀ {σ : Sys}, G σ → G { σ with server := { σ.server with running := false } }
  /-- the section of `reader_thread` -/
  broadcast : ∀ {σ : Sys} {f : Frame} (fuel : Nat), G σ → σ.reader = .got f → Legal bufSize f →
    σ.server.tapcfg = true →
    Sat (osEnv L) (I σ.server.tapcfg σ.reads) (fun _ w => G (σ.leaveBroadcast w)) NotReturned
      (broadcast fuel f) (σ.world.log [.relay f])
  /-- the section of `writer_thread` -/
  pass : ∀ {σ : Sys} {ready : List Fd} {buf : List Byte} (fuel : Nat), G σ →
    σ.writer = .selected ready → buf.length = bufSize →
    Sat (osEnv L) (I σ.server.tapcfg σ.reads) (fun flow w => G (σ.leavePass ready flow w))
      NotReturned (servicePass fuel σ.server.tapcfg ready 0 buf)
      (σ.world.log [.round ready])

/-- What a run keeps: the invariant when the mutex is free, and else that the
open section will restore it. -/
structure Kept (L : Allows) (I : Bool → List Frame → World → Prop) (G : Sys → Prop)
    (σ : Sys) : Prop where
  exclusive : ¬ (σ.ReaderInside ∧ σ.WriterInside)
  readerOk : σ.ReaderOk
  free : σ.Free → G σ
  reader : ∀ p, σ.reader = .inside p →
    Sat (osEnv L) (I σ.server.tapcfg σ.reads) (fun _ w => G (σ.leaveBroadcast w)) NotReturned p
      σ.world
  writer : ∀ ready p, σ.writer = .inside ready p →
    Sat (osEnv L) (I σ.server.tapcfg σ.reads) (fun flow w => G (σ.leavePass ready flow w))
      NotReturned p σ.world
  exiting : σ.writer = .exiting → G (σ.leavePass [] .exit σ.world)

section Run

variable {L : Allows} {I : Bool → List Frame → World → Prop} {G : Sys → Prop}

/-- What the mutex protects is right at every moment. -/
theorem Kept.holds {σ : Sys} (hk : Kept L I G σ) (hinv : SysInv L I G) :
    I σ.server.tapcfg σ.reads σ.world := by
  by_cases hr : σ.ReaderInside
  · obtain ⟨p, hp⟩ := hr
    exact (hk.reader p hp).holds
  · by_cases hw : σ.WriterInside
    · rcases hw with ⟨ready, p, hp⟩ | he
      · exact (hk.writer ready p hp).holds
      · have hleft := hinv.holds (hk.exiting he)
        exact hleft
    · exact hinv.holds (hk.free ⟨hr, hw⟩)

/-- An open section has not stopped at anything but its bound. -/
theorem Kept.fault {σ : Sys} (hk : Kept L I G σ) {e : Fault}
    (h : σ.reader = .inside (.fault e) ∨ ∃ ready, σ.writer = .inside ready (.fault e)) :
    e = .fuel := by
  rcases h with hr | ⟨ready, hw⟩
  · exact (hk.reader _ hr).2
  · exact (hk.writer ready _ hw).2

/-- With the mutex free there is nothing more to know than the invariant. -/
theorem Kept.ofFree {σ : Sys} (hf : σ.Free) (hr : σ.ReaderOk) (hG : G σ) : Kept L I G σ where
  exclusive := fun h => hf.1 h.1
  readerOk := hr
  free := fun _ => hG
  reader := fun p hp => (hf.1 ⟨p, hp⟩).elim
  writer := fun ready p hp => (hf.2 (.inl ⟨ready, p, hp⟩)).elim
  exiting := fun he => (hf.2 (.inr he)).elim

/-- With the reader in its section the rest of that section is what counts. -/
theorem Kept.ofReader {σ : Sys} {p : Io Unit} (hr : σ.reader = .inside p) (hw : ¬ σ.WriterInside)
    (hdev : σ.server.tapcfg = true)
    (hp : Sat (osEnv L) (I σ.server.tapcfg σ.reads) (fun _ w => G (σ.leaveBroadcast w))
      NotReturned p σ.world) : Kept L I G σ where
  exclusive h := hw h.2
  readerOk := ⟨fun f hf => (by cases hr.symm.trans hf), .inl hdev⟩
  free hf := (hf.1 ⟨p, hr⟩).elim
  reader q hq := by
    cases hr.symm.trans hq
    exact hp
  writer ready q hq := (hw (.inl ⟨ready, q, hq⟩)).elim
  exiting he := (hw (.inr he)).elim

/-- The same for the writer. -/
theorem Kept.ofWriter {σ : Sys} {ready : List Fd} {p : Io Flow} (hw : σ.writer = .inside ready p)
    (hr : ¬ σ.ReaderInside) (hok : σ.ReaderOk)
    (hp : Sat (osEnv L) (I σ.server.tapcfg σ.reads) (fun flow w => G (σ.leavePass ready flow w))
      NotReturned p σ.world) : Kept L I G σ where
  exclusive h := hr h.1
  readerOk := hok
  free hf := (hf.2 (.inl ⟨ready, p, hw⟩)).elim
  reader q hq := (hr ⟨q, hq⟩).elim
  writer ready' q hq := by
    cases hw.symm.trans hq
    exact hp
  exiting he := by cases hw.symm.trans he

/-- A section without a call in it leaves the mutex free, and the reader where
it stands. -/
theorem Locked.free {σ σ' : Sys} (h : Locked σ σ') (hf : σ.Free) (hok : σ.ReaderOk) :
    σ'.Free ∧ σ'.ReaderOk := by
  obtain ⟨hr, hw⟩ := hf
  cases h with
  | addClient => exact ⟨⟨hr, hw⟩, hok.legal, hok.device⟩
  | _ => exact ⟨⟨hr, by simp [Sys.WriterInside]⟩, hok.legal, hok.device⟩

/-- A step outside spoils no assertion on what the mutex protects. -/
theorem SysInv.steady (hinv : SysInv L I G) {σ σ' : Sys} (h : Outside σ σ') {w : World}
    (hI : I σ.server.tapcfg σ.reads w) : I σ'.server.tapcfg σ'.reads w := by
  rw [h.tapcfg]
  rcases h.reads with heq | ⟨f, heq⟩ <;> rw [heq]
  · exact hI
  · exact hinv.grow hI

/-- With the writer in its section the reader is not in its own. -/
theorem Kept.writerAlone {σ : Sys} (hk : Kept L I G σ) (hw : σ.WriterInside) : ¬ σ.ReaderInside :=
  fun hr => hk.exclusive ⟨hr, hw⟩

/-- With the reader in its section the writer is not in its own, and there is a device. -/
theorem Kept.readerAlone {σ : Sys} (hk : Kept L I G σ) {p : Io Unit} (hr : σ.reader = .inside p) :
    ¬ σ.WriterInside ∧ σ.server.tapcfg = true :=
  ⟨fun hw => hk.exclusive ⟨⟨p, hr⟩, hw⟩, by simpa [hr] using hk.readerOk.device⟩

/-- A step outside leaves the sections, and what is known of them. -/
theorem Kept.outside (hinv : SysInv L I G) {σ σ' : Sys} (hk : Kept L I G σ) (h : Outside σ σ') :
    Kept L I G σ' := by
  obtain ⟨hr, hw, he, hworld⟩ := h.sections
  have hreader : σ'.ReaderInside ↔ σ.ReaderInside := exists_congr hr
  have hwriter : σ'.WriterInside ↔ σ.WriterInside :=
    or_congr (exists_congr fun r => exists_congr fun p => hw r p) he
  refine ⟨by rw [hreader, hwriter]; exact hk.exclusive,
    h.readerOk hk.readerOk, ?_, ?_, ?_, ?_⟩
  · intro hf
    exact hinv.outside (hk.free ⟨hreader.not.mp hf.1, hwriter.not.mp hf.2⟩) h
  · intro p hp
    have hin := (hr p).mp hp
    rw [hworld]
    exact (hk.reader p hin).mono (fun _ => hinv.steady h)
      (fun _ w _ hG => hinv.outside hG (h.leaveBroadcast hin w)) (fun _ _ _ h => h)
  · intro ready p hp
    have hin := (hw ready p).mp hp
    rw [hworld]
    exact (hk.writer ready p hin).mono (fun _ => hinv.steady h)
      (fun flow w _ hG => hinv.outside hG (h.leavePass (.inl ⟨ready, p, hin⟩) ready flow w))
      (fun _ _ _ h => h)
  · intro hp
    have hin := he.mp hp
    rw [hworld]
    exact hinv.outside (hk.exiting hin) (h.leavePass (.inr hin) [] .exit _)

/-- The step: a run keeps what it keeps. -/
theorem SysInv.step (hinv : SysInv L I G) {σ σ' : Sys} (hk : Kept L I G σ) (hs : Step L σ σ') :
    Kept L I G σ' := by
  cases hs with
  | outside h => exact hk.outside hinv h
  | locked hf h =>
      obtain ⟨hf', hr⟩ := h.free hf hk.readerOk
      exact .ofFree hf' hr (hinv.locked (hk.free hf) h)
  | @readerLock f fuel hf hr =>
      have hwriter : ¬ σ.WriterInside := hf.2
      have hdev : σ.server.tapcfg = true := by simpa [hr] using hk.readerOk.device
      exact .ofReader rfl hwriter hdev
        (hinv.broadcast fuel (hk.free hf) hr (hk.readerOk.legal f hr) hdev)
  | @readerRun p p' w hr h =>
      obtain ⟨hwriter, hdev⟩ := hk.readerAlone hr
      exact .ofReader rfl hwriter hdev ((hk.reader p hr).step h)
  | readerUnlock hr =>
      obtain ⟨hwriter, hdev⟩ := hk.readerAlone hr
      exact .ofFree ⟨fun ⟨p, hp⟩ => (by cases hp), hwriter⟩
        ⟨fun f hf => (by cases hf), .inl hdev⟩ (hk.reader _ hr).2
  | @writerLock ready buf fuel hf hw hbuf =>
      have hreader : ¬ σ.ReaderInside := hf.1
      exact .ofWriter rfl hreader ⟨hk.readerOk.legal, hk.readerOk.device⟩
        (hinv.pass fuel (hk.free hf) hw hbuf)
  | @writerRun ready p p' w hw h =>
      have hreader := hk.writerAlone (.inl ⟨ready, p, hw⟩)
      exact .ofWriter rfl hreader ⟨hk.readerOk.legal, hk.readerOk.device⟩
        ((hk.writer ready p hw).step h)
  | @writerUnlock ready hw =>
      have hreader := hk.writerAlone (.inl ⟨ready, _, hw⟩)
      exact .ofFree ⟨hreader, by simp [Sys.WriterInside]⟩
        ⟨hk.readerOk.legal, hk.readerOk.device⟩ (hk.writer ready _ hw).2
  | @writerClear ready hw =>
      have hreader := hk.writerAlone (.inl ⟨ready, _, hw⟩)
      refine ⟨fun h => hreader h.1, ⟨hk.readerOk.legal, hk.readerOk.device⟩,
        fun h => (h.2 (.inr rfl)).elim, ?_, ?_, ?_⟩
      · exact fun p hp => (hreader ⟨p, hp⟩).elim
      · intro r p hp
        cases hp
      · exact fun _ => hinv.clear (hk.writer ready _ hw).2
  | writerLeave hw =>
      have hreader := hk.writerAlone (.inr hw)
      exact .ofFree ⟨hreader, by simp [Sys.WriterInside]⟩
        ⟨hk.readerOk.legal, hk.readerOk.device⟩ (hk.exiting hw)

/-- The induction over the runs. -/
theorem SysInv.kept (hinv : SysInv L I G) {σ : Sys} (h : Reachable L σ) : Kept L I G σ := by
  induction h with
  | init tapcfg =>
      exact .ofFree ⟨fun ⟨p, hp⟩ => (by cases hp), by simp [Sys.WriterInside, Sys.init]⟩
        ⟨fun f hf => (by cases hf), .inr (.inl rfl)⟩ (hinv.init tapcfg)
  | step _ hs ih => exact hinv.step ih hs

/-- The invariant holds whenever the mutex is free, and its assertion on what
the mutex protects always. -/
theorem SysInv.reachable (hinv : SysInv L I G) {σ : Sys} (h : Reachable L σ) :
    (σ.Free → G σ) ∧ I σ.server.tapcfg σ.reads σ.world :=
  ⟨(hinv.kept h).free, (hinv.kept h).holds hinv⟩

end Run

/-! ## Invariants of what the mutex protects -/

/-- What an invariant that looks only at the content of the mutex, and at the mode
of the server, must survive. -/
structure WorldInv (L : Allows) (I : Bool → World → Prop) (J : Bool → World → Prop) : Prop where
  init : ∀ tapcfg, J tapcfg (Sys.init tapcfg).world
  holds : ∀ {tapcfg w}, J tapcfg w → I tapcfg w
  add : ∀ {tapcfg w w' fd ret}, J tapcfg w → fd ∉ w.live →
    tapserverAddClient w fd = .ok (ret, w') → J tapcfg w'
  broadcast : ∀ {w} {f : Frame} (fuel : Nat), J true w → Legal bufSize f →
    Sat (osEnv L) (I true) (fun _ => J true) NotReturned (broadcast fuel f) (w.log [.relay f])
  pass : ∀ {tapcfg w} {ready : List Fd} {buf : List Byte} (fuel : Nat), J tapcfg w →
    buf.length = bufSize →
    Sat (osEnv L) (I tapcfg) (fun _ => J tapcfg) NotReturned (servicePass fuel tapcfg ready 0 buf)
      (w.log [.round ready])

theorem WorldInv.sysInv {L : Allows} {I : Bool → World → Prop} {J : Bool → World → Prop}
    (hinv : WorldInv L I J) :
    SysInv L (fun tapcfg _ => I tapcfg) fun σ => J σ.server.tapcfg σ.world where
  init := hinv.init
  holds := hinv.holds
  grow h := h
  outside h hs := by
    rw [hs.tapcfg, hs.sections.2.2.2]
    exact h
  locked h hs := by
    cases hs with
    | addClient _ _ _ hfd hadd => exact hinv.add h hfd hadd
    | add _ hfd hadd => exact hinv.add h hfd hadd
    | buildEmpty | build | buildFault | addFault => exact h
  clear h := h
  broadcast {σ f} fuel h _ hlegal hdev := by
    rw [hdev] at h ⊢
    refine (hinv.broadcast fuel h hlegal).post fun _ w hJ => ?_
    rw [← hdev] at hJ
    exact hJ
  pass fuel h _ hbuf := hinv.pass fuel h hbuf

end TapCfg.Daemon
