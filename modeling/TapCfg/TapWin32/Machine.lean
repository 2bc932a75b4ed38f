/-
  TapWin32/Machine.lean --- the Windows driver while it serves several callers at once.

  Source: drivers/windows/tap-win32/tapdrvr.c, lines 94-95, 595-680, 1360-1400,
  1588-1875, 1877-1911, 2234-2340, 2491-2575 and 2599-2995; types.h, lines 44-90
  and 94-103; lock.h, lines 26-75; constants.h, lines 48-50; instance.c, lines
  210-241.

  The system calls the driver from any thread and on any processor.  A call is
  an activity; it runs from one lock to the next, and a section is what it does
  while it holds `m_QueueLock` or `m_InjectLock`, or between two of them.  The
  log says what happened, oldest first.

  Two sections are longer than that.  `AdapterTransmit` looks at a frame, and a
  control request changes the adapter, without a lock: here each does so in one
  section, so that what the adapter is set to is described for callers whose
  frames and control requests do not overlap.  The queues have their locks.

  A section that would read behind the end of a packet is no section.
-/
import TapCfg.Foundation.History
import TapCfg.Foundation.Interleaving
import TapCfg.Foundation.Runs
import TapCfg.TapWin32.Queue
import TapCfg.TapWin32.Transmit

set_option autoImplicit false

namespace TapCfg.TapWin32

open TapCfg.Foundation
open TapCfg.Foundation.Layout (htons u8 u16 u32 array)

/-! ## The device -/

/-- `PACKET_QUEUE_SIZE` -/
def packetQueueSize : Nat := 64

/-- `IRP_QUEUE_SIZE` -/
def irpQueueSize : Nat := 16

/-- `INJECT_QUEUE_SIZE` -/
def injectQueueSize : Nat := 16

/-- A read request: which one it is, and `Parameters.Read.Length`. -/
structure Irp where
  id : Nat
  length : BitVec 32
  deriving DecidableEq, Repr

inductive Event where
  /-- the system hands over a read request -/
  | issued (irp : Irp)
  /-- the request is queued, or served at once -/
  | accepted (irp : Irp)
  /-- `AdapterTransmit` takes a frame -/
  | sent (frame : List Byte)
  /-- `IoCompleteRequest`, by whoever has the request -/
  | completed (irp : Irp) (status : IoStatus)
  /-- `IoCompleteRequest` with `STATUS_CANCELLED`, wherever the request is -/
  | astray (irp : Irp)
  | queued (packet : TapPacket)
  /-- the packet and the request are taken, to serve the one with the other -/
  | taken (irp : Irp) (packet : TapPacket)
  /-- the packet is flushed -/
  | flushed (packet : TapPacket)
  /-- `NdisMEthIndicateReceive` -/
  | indicated (frame : List Byte)
  | opened
  | closed
  | halted
  /-- the queues of the halted device were flushed -/
  | drained
  deriving DecidableEq, Repr

/-- `TapExtension`, with the adapter around it. -/
structure TapDevice where
  adapter : TapAdapter
  tapIsRunning : Bool := true
  tapOpens : Nat := 0
  halt : Bool := false
  /-- somebody holds `m_OpenCloseMutex` -/
  openClose : Bool := false
  packetQueue : BoundedQueue TapPacket packetQueueSize
  irpQueue : BoundedQueue Irp irpQueueSize
  injectQueue : BoundedQueue (List Byte) injectQueueSize
  /-- `m_InjectDpc` is in the system's queue -/
  injectDpc : Bool := false
  log : List Event := []

/-- Something is noted in the log. -/
def TapDevice.note (d : TapDevice) (e : Event) : TapDevice := { d with log := d.log ++ [e] }

/-- `IS_UP` -/
def isUp (d : TapDevice) : Bool := d.adapter.interfaceIsRunning && d.tapIsRunning

/-! ## Activities -/

/-- Where a call is, before its next section. -/
inductive Activity where
  /-- `AdapterTransmit`: a frame that was reassembled; `memory` and `deferred` say whether there
  is memory for an answer and for its place in the queue -/
  | transmit (memory deferred : Bool) (data : List Byte)
  | push (packet : TapPacket)
  /-- the head of the loop of `AdapterTransmit` -/
  | cycle
  /-- `CompleteIRP`, on behalf of the loop of `AdapterTransmit` or not -/
  | complete (irp : Irp) (packet : TapPacket) (cycling : Bool)
  /-- `InjectPacketDeferred` -/
  | inject (frame : List Byte)
  | insertDpc
  /-- the loop of `InjectPacketDpc` -/
  | dpc
  | injectNow (frame : List Byte)
  /-- `IRP_MJ_READ`: before its first locked section -/
  | immediate (irp : Irp)
  /-- `IRP_MJ_READ`: before its second locked section -/
  | pend (irp : Irp)
  | refuse (irp : Irp)
  /-- `CancelIRPCallback`, with an adapter -/
  | cancel (irp : Irp)
  | cancelled (irp : Irp)
  /-- `IRP_MJ_CREATE` -/
  | create
  | openTap (available : Bool)
  /-- `IRP_MJ_CLOSE` -/
  | close
  /-- the loops of `FlushQueues`, on behalf of `IRP_MJ_CLOSE` or of `DestroyTapDevice` -/
  | flushIrps (closing : Bool)
  | flushIrp (irp : Irp) (closing : Bool)
  | flushPackets (closing : Bool)
  | flushInject (closing : Bool)
  /-- what `IRP_MJ_CLOSE` does behind `FlushQueues` -/
  | release
  deriving DecidableEq, Repr

/-! ## Beginning -/

inductive NdisStatus where
  | success
  | failure
  | resources
  deriving DecidableEq, Repr

/-- The loop of `AdapterTransmit` over the buffers of a frame. -/
def reassemble (length : Nat) : List (List Byte) → List Byte → Option (List Byte)
  | [], data => if data.length = length then some data else none -- underflow
  | buffer :: buffers, data =>
      if data.length < length then
        if length < data.length + buffer.length then none -- overflow
        else reassemble length buffers (data ++ buffer)
      else if data.length = length then some data else none

/-- `AdapterTransmit`, up to the frame it looks at. -/
def adapterTransmit (d : TapDevice) (memory : Bool) (length : Nat) (buffers : List (List Byte)) :
    NdisStatus × Option (List Byte) :=
  if length < ethernetHeaderSize ∨ 65535 < length then (.failure, none)
  -- Nothing is bound to the TAP device
  else if d.tapOpens = 0 ∨ d.adapter.mediaState = 0 then (.success, none)
  else if memory = false then (.resources, none)
  else (.success, reassemble length buffers [])

/-- The memory a read request brings. -/
inductive MdlAddress where
  | null
  | unmapped
  | mapped
  deriving DecidableEq, Repr

/-- `IRP_MJ_READ`, up to its first locked section. -/
def beginRead (d : TapDevice) (irp : Irp) (mdl : MdlAddress) : TapDevice × Option Activity :=
  let d := d.note (.issued irp)
  if d.halt then (d.note (.completed irp ⟨.noSuchDevice, 0, []⟩), none)
  else
    match mdl with
    | .null => (d.note (.completed irp ⟨.invalidParameter, 0, []⟩), none)
    | .unmapped => (d.note (.completed irp ⟨.insufficientResources, 0, []⟩), none)
    | .mapped =>
        if d.adapter.interfaceIsRunning = false then
          (d.note (.completed irp ⟨.unsuccessful, 0, []⟩), none)
        else (d, some (.immediate irp))

/-- The frame of a write, if the adapter receives one. -/
def noteFrame (d : TapDevice) (frame : Option (List Byte)) : TapDevice :=
  match frame with
  | some frame => d.note (.indicated frame)
  | none => d

/-- `OID_PNP_SET_POWER` -/
def setPower (d : TapDevice) (on : Bool) : TapDevice :=
  { d with adapter := { d.adapter with interfaceIsRunning := on } }

/-- `AdapterHalt` and `DestroyTapDevice`, up to the flush. -/
def adapterHalt (d : TapDevice) : TapDevice :=
  { d with
    adapter := { d.adapter with interfaceIsRunning := false }
    tapIsRunning := false
    tapOpens := 0
    halt := true }

@[simp] def Event.issue : Event → Option Irp
  | .issued irp => some irp
  | _ => none

/-- The read requests there were. -/
@[simp] abbrev issued (log : List Event) : List Irp := collect Event.issue log

/-- What the system may call. -/
inductive Call where
  /-- `AdapterTransmit`; the flags say whether there is memory for the packet, for an answer, and
  for the answer's place in its queue -/
  | transmit (room memory deferred : Bool) (length : Nat) (buffers : List (List Byte))
  | read (irp : Irp) (mdl : MdlAddress)
  | writeFile (data : List Byte)
  | deviceControl (v : Version) (c : Ioctl)
  | create
  | close
  /-- the cancel routine of a request, of any request there is or was; `found` is whether
  `LookupAdapterInInstanceList` gives the adapter, or is refused its lock -/
  | cancel (found : Bool) (irp : Irp)
  /-- `OID_PNP_SET_POWER` -/
  | power (on : Bool)
  /-- `AdapterHalt` -/
  | halt
  /-- the procedure of `m_InjectDpc` -/
  | dpc
  deriving DecidableEq, Repr

/-- A call, up to its first section; `none` when the system does not make it: no two read requests
are the same, an adapter is halted once, and a procedure runs when it was queued. -/
def Call.enter : Call → TapDevice → Option (TapDevice × Option Activity)
  | .transmit room memory deferred length buffers, d =>
      match (adapterTransmit d room length buffers).2 with
      | some data => some (d.note (.sent data), some (.transmit memory deferred data))
      | none => some (d, none)
  | .read irp mdl, d => if irp ∈ issued d.log then none else some (beginRead d irp mdl)
  | .writeFile data, d =>
      some (if d.halt then d else noteFrame d (write d.adapter data).2, none)
  | .deviceControl v c, d =>
      some (if d.halt then d else { d with adapter := (ioctl v d.adapter c).1 }, none)
  | .create, d => some (d, if d.halt then none else some .create)
  | .close, d => some (d, if d.halt then none else some .close)
  | .cancel true irp, d => some (d, some (.cancel irp))
  -- without an adapter nobody looks for the request in the queue
  | .cancel false irp, d => if irp ∈ issued d.log then some (d.note (.astray irp), none) else none
  | .power on, d => some (setPower d on, none)
  | .halt, d =>
      if d.halt then none else some ((adapterHalt d).note .halted, some (.flushIrps false))
  | .dpc, d => if d.injectDpc then some ({ d with injectDpc := false }, some .dpc) else none

/-- `AdapterTransmit` takes a frame, or nothing happens. -/
theorem enter_transmit {d d' : TapDevice} {k : Option Activity} {room memory deferred : Bool}
    {length : Nat} {buffers : List (List Byte)}
    (h : (Call.transmit room memory deferred length buffers).enter d = some (d', k)) :
    (∃ data, (adapterTransmit d room length buffers).2 = some data ∧ d' = d.note (.sent data) ∧
        k = some (.transmit memory deferred data)) ∨
      d' = d ∧ k = none := by
  simp only [Call.enter] at h
  split at h
  · rename_i data hdata
    cases h
    exact .inl ⟨data, hdata, rfl, rfl⟩
  · cases h
    exact .inr ⟨rfl, rfl⟩

/-- A write that is accepted reaches the system. -/
theorem enter_writeFile {d : TapDevice} {data back : List Byte} {status : IoStatus}
    (hhalt : d.halt = false) (hwrite : write d.adapter data = (status, some back)) :
    (Call.writeFile data).enter d = some (d.note (.indicated back), none) := by
  simp only [Call.enter, hhalt, Bool.false_eq_true, if_false, hwrite, noteFrame]

/-- A cancel routine looks for its request, or answers it as it is. -/
theorem enter_cancel {d d' : TapDevice} {k : Option Activity} {found : Bool} {irp : Irp}
    (h : (Call.cancel found irp).enter d = some (d', k)) :
    (d' = d ∧ k = some (.cancel irp)) ∨
      irp ∈ issued d.log ∧ d' = d.note (.astray irp) ∧ k = none := by
  cases found with
  | true =>
      cases h
      exact .inl ⟨rfl, rfl⟩
  | false =>
      simp only [Call.enter] at h
      split at h
      · rename_i hissued
        cases h
        exact .inr ⟨hissued, rfl, rfl⟩
      · cases h

/-- What happens outside, and the activity it begins. -/
def Begins (d d' : TapDevice) (k : Option Activity) : Prop := ∃ c : Call, c.enter d = some (d', k)

/-! ## Sections -/

/-- What `AdapterTransmit` does next with a frame it has looked at. -/
def afterFilter (deferred : Bool) (r : Filtered) : Option Activity :=
  match r.injected, r.queued with
  | some frame, _ => if deferred then some (.inject frame) else none
  | none, some packet => some (.push packet)
  | none, none => none

/-- The locked section of `AdapterTransmit` that queues the packet. -/
def pushPacket (d : TapDevice) (packet : TapPacket) : TapDevice × Option Activity :=
  if isUp d then
    let (item, queue) := d.packetQueue.push packet
    let d := { d with packetQueue := queue }
    if item.isSome then (d.note (.queued packet), some .cycle)
    else (d, none) -- adapter receive overrun
  else (d, none)

/-- The locked section in the loop of `AdapterTransmit`. -/
def cyclePackets (d : TapDevice) : TapDevice × Option Activity :=
  if isUp d = true ∧ d.packetQueue.count ≠ 0 ∧ d.irpQueue.count ≠ 0 then
    let (irp, irpQueue) := d.irpQueue.pop
    let (packet, packetQueue) := d.packetQueue.pop
    let d := { d with irpQueue := irpQueue, packetQueue := packetQueue }
    match irp, packet with
    | some irp, some packet => (d.note (.taken irp packet), some (.complete irp packet true))
    | _, _ => (d, none)
  else (d, none)

/-- The first locked section of `IRP_MJ_READ`: can we provide immediate service? -/
def immediateService (d : TapDevice) (irp : Irp) : TapDevice × Option Activity :=
  if isUp d = true ∧ d.packetQueue.count ≠ 0 ∧ d.irpQueue.count = 0 then
    let (packet, queue) := d.packetQueue.pop
    let d := { d with packetQueue := queue }
    match packet with
    | some packet =>
        ((d.note (.accepted irp)).note (.taken irp packet), some (.complete irp packet false))
    | none => (d, some (.pend irp))
  else (d, some (.pend irp))

/-- The second locked section of `IRP_MJ_READ`: attempt to pend read request. -/
def pendRead (d : TapDevice) (irp : Irp) : TapDevice × Option Activity :=
  if isUp d then
    let (item, queue) := d.irpQueue.push irp
    let d := { d with irpQueue := queue }
    if item.isSome then (d.note (.accepted irp), none) else (d, some (.refuse irp))
  else (d, some (.refuse irp))

/-- The locked section of `CancelIRP` for the system. -/
def cancelIrp (d : TapDevice) (irp : Irp) : TapDevice × Option Activity :=
  let (item, queue) := d.irpQueue.extract irp
  let d := { d with irpQueue := queue }
  if item.isSome then (d, some (.cancelled irp)) else (d, none)

/-- `IoStatus` of a request that was cancelled. -/
def cancelledStatus : IoStatus := ⟨.cancelled, 0, []⟩

/-- One turn of the first loop of `FlushQueues`. -/
def flushIrpQueue (d : TapDevice) (closing : Bool) : TapDevice × Option Activity :=
  let (irp, queue) := d.irpQueue.pop
  match irp with
  | some irp => ({ d with irpQueue := queue }, some (.flushIrp irp closing))
  | none => (d, some (.flushPackets closing))

/-- One turn of the second loop of `FlushQueues`. -/
def flushPacketQueue (d : TapDevice) (closing : Bool) : TapDevice × Option Activity :=
  let (packet, queue) := d.packetQueue.pop
  match packet with
  | some packet =>
      (({ d with packetQueue := queue } : TapDevice).note (.flushed packet),
        some (.flushPackets closing))
  | none => (d, some (.flushInject closing))

/-- One turn of the third loop of `FlushQueues`, and what its caller does then. -/
def flushInjectQueue (d : TapDevice) (closing : Bool) : TapDevice × Option Activity :=
  let (frame, queue) := d.injectQueue.pop
  match frame with
  | some _ => ({ d with injectQueue := queue }, some (.flushInject closing))
  | none => if closing then (d, some .release) else (d.note .drained, none)

/-- `IRP_MJ_CLOSE`, up to the flush. -/
def closeTap (d : TapDevice) : TapDevice :=
  { d with openClose := true, tapOpens := 0, adapter := resetTapAdapterState d.adapter }

/-- The next section of an activity; `none` while it waits for the mutex. -/
def Activity.run : Activity → TapDevice → Option (TapDevice × Option Activity)
  | .transmit memory deferred data, d =>
      (transmitFilter memory d.adapter data).map fun r =>
        ({ d with adapter := r.adapter }, afterFilter deferred r)
  | .push packet, d => some (pushPacket d packet)
  | .cycle, d => some (cyclePackets d)
  | .complete irp packet cycling, d =>
      some (d.note (.completed irp (completeIrp irp.length.toNat packet)),
        if cycling then some .cycle else none)
  | .inject frame, d =>
      let (item, queue) := d.injectQueue.push frame
      some ({ d with injectQueue := queue }, if item.isSome then some .insertDpc else none)
  | .insertDpc, d => some ({ d with injectDpc := true }, none)
  | .dpc, d =>
      let (frame, queue) := d.injectQueue.pop
      some ({ d with injectQueue := queue }, frame.map .injectNow)
  | .injectNow frame, d => some (d.note (.indicated frame), some .dpc)
  | .immediate irp, d => some (immediateService d irp)
  | .pend irp, d => some (pendRead d irp)
  -- Can't queue anymore IRP's
  | .refuse irp, d => some (d.note (.completed irp ⟨.unsuccessful, 0, []⟩), none)
  | .cancel irp, d => some (cancelIrp d irp)
  | .cancelled irp, d => some (d.note (.completed irp cancelledStatus), none)
  | .create, d =>
      if d.openClose then none
      else some ({ d with openClose := true },
        some (.openTap (d.tapIsRunning && decide (d.tapOpens = 0))))
  | .openTap true, d =>
      some (({ d with
        openClose := false, tapOpens := 1, adapter := resetTapAdapterState d.adapter }
          : TapDevice).note .opened, none)
  | .openTap false, d => some ({ d with openClose := false }, none)
  | .close, d =>
      if d.openClose then none else some ((closeTap d).note .closed, some (.flushIrps true))
  | .flushIrps closing, d => some (flushIrpQueue d closing)
  | .flushIrp irp closing, d =>
      some (d.note (.completed irp cancelledStatus), some (.flushIrps closing))
  | .flushPackets closing, d => some (flushPacketQueue d closing)
  | .flushInject closing, d => some (flushInjectQueue d closing)
  | .release, d =>
      some ({ d with openClose := false, adapter := setMediaStatus d.adapter 0 }, none)

/-- An activity has a section. -/
def Goes (k : Activity) (d d' : TapDevice) (k' : Option Activity) : Prop :=
  k.run d = some (d', k')

/-- The driver with all that is in progress. -/
abbrev Driver : Type := Pool TapDevice Activity

/-- One section of the driver. -/
abbrev DriverStep : Driver → Driver → Prop := Section Begins Goes

/-! ## Schedules -/

/-- What runs next. -/
inductive Turn where
  | enter (c : Call)
  | goOn (k : Activity)
  deriving DecidableEq, Repr

/-- One turn; `none` when it is not possible. -/
def takeTurn (p : Driver) : Turn → Option Driver
  | .enter c => (c.enter p.shared).map fun r => ⟨r.1, started r.2 + p.active⟩
  | .goOn k =>
      if k ∈ p.active then
        (k.run p.shared).map fun r => ⟨r.1, started r.2 + p.active.erase k⟩
      else none

theorem takeTurn_step {p p' : Driver} {t : Turn} (h : takeTurn p t = some p') :
    DriverStep p p' := by
  cases t with
  | enter c =>
      obtain ⟨⟨d', k⟩, hr, rfl⟩ := Option.map_eq_some_iff.mp h
      exact .spawn ⟨c, hr⟩
  | goOn k =>
      simp only [takeTurn] at h
      split at h
      · rename_i hmem
        obtain ⟨⟨d', k'⟩, hr, rfl⟩ := Option.map_eq_some_iff.mp h
        obtain ⟨d, A⟩ := p
        have hstep : DriverStep ⟨d, k ::ₘ A.erase k⟩ ⟨d', started k' + A.erase k⟩ := .advance hr
        rwa [Multiset.cons_erase hmem] at hstep
      · cases h

/-- The turns of a schedule, one after the other. -/
def schedule (p : Driver) (ts : List Turn) : Option Driver := ts.foldlM takeTurn p

/-- `CreateTapDevice`: a device that was created just now. -/
def createTapDevice (a : TapAdapter) : TapDevice where
  adapter := a
  packetQueue := .new TapPacket packetQueueSize (by decide)
  irpQueue := .new Irp irpQueueSize (by decide)
  injectQueue := .new (List Byte) injectQueueSize (by decide)

/-- The device was created, and nothing is in progress. -/
def Created (p : Driver) : Prop :=
  (∃ a, p.shared = createTapDevice a) ∧ p.active = 0

theorem schedule_runs {init : Driver → Prop} {p p' : Driver} {ts : List Turn}
    (hp : Runs init DriverStep p) (h : schedule p ts = some p') : Runs init DriverStep p' := by
  induction ts generalizing p with
  | nil =>
      cases h
      exact hp
  | cons t ts ih =>
      obtain ⟨q, hq, hrest⟩ := Option.bind_eq_some_iff.mp h
      exact ih (hp.next (takeTurn_step hq)) hrest

/-- The run of a schedule on a device that was created just now. -/
def runOf (a : TapAdapter) (ts : List Turn) : Option Driver := schedule ⟨createTapDevice a, 0⟩ ts

theorem runOf_runs {a : TapAdapter} {ts : List Turn} {p : Driver} (h : runOf a ts = some p) :
    Runs Created DriverStep p :=
  schedule_runs (.start ⟨⟨a, rfl⟩, rfl⟩) h

end TapCfg.TapWin32
