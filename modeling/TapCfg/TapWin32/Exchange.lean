/-
  TapWin32/Exchange.lean --- what the Windows driver does with its queues, in lists.

  Three queues join those who call the driver: packets wait for a read request,
  read requests wait for a packet, and answers of the driver itself wait for the
  procedure that hands them to the system.  Here a queue is a list of bounded
  length, oldest first, and the adapter may make of a frame whatever it likes.

  Every section of the driver is one of these (`driver_exchanges`), so that what
  holds of all runs over lists holds of the driver.
-/
import TapCfg.TapWin32.Leases
import TapCfg.TapWin32.Machine

set_option autoImplicit false

namespace TapCfg.TapWin32

open TapCfg.Foundation

/-- The queues and the flags beside them. -/
structure Exchange where
  packets : List TapPacket
  irps : List Irp
  frames : List (List Byte)
  /-- `IS_UP` -/
  up : Bool
  running : Bool
  opens : Bool
  halt : Bool
  openClose : Bool
  injectDpc : Bool
  log : List Event

/-- Something is noted in the log. -/
def Exchange.note (x : Exchange) (e : Event) : Exchange := { x with log := x.log ++ [e] }

section

variable (x : Exchange) (e : Event)

@[simp] theorem Exchange.note_packets : (x.note e).packets = x.packets := rfl

@[simp] theorem Exchange.note_irps : (x.note e).irps = x.irps := rfl

@[simp] theorem Exchange.note_frames : (x.note e).frames = x.frames := rfl

@[simp] theorem Exchange.note_up : (x.note e).up = x.up := rfl

@[simp] theorem Exchange.note_running : (x.note e).running = x.running := rfl

@[simp] theorem Exchange.note_opens : (x.note e).opens = x.opens := rfl

@[simp] theorem Exchange.note_halt : (x.note e).halt = x.halt := rfl

@[simp] theorem Exchange.note_openClose : (x.note e).openClose = x.openClose := rfl

@[simp] theorem Exchange.note_injectDpc : (x.note e).injectDpc = x.injectDpc := rfl

@[simp] theorem Exchange.note_log : (x.note e).log = x.log ++ [e] := rfl

end

/-- What happens outside. -/
inductive Arrives : Exchange → Exchange → Option Activity → Prop where
  | transmit {x : Exchange} (memory deferred : Bool) (data : List Byte) (h : x.opens = true) :
      Arrives x (x.note (.sent data)) (some (.transmit memory deferred data))
  | refused {x : Exchange} {irp : Irp} (status : IoStatus) (h : irp ∉ issued x.log)
      (hstatus : status.status ≠ .success) :
      Arrives x ((x.note (.issued irp)).note (.completed irp status)) none
  | read {x : Exchange} {irp : Irp} (h : irp ∉ issued x.log) :
      Arrives x (x.note (.issued irp)) (some (.immediate irp))
  | cancel {x : Exchange} (irp : Irp) : Arrives x x (some (.cancel irp))
  | astray {x : Exchange} {irp : Irp} (h : irp ∈ issued x.log) :
      Arrives x (x.note (.astray irp)) none
  | create {x : Exchange} : Arrives x x (some .create)
  | close {x : Exchange} : Arrives x x (some .close)
  | configure {x : Exchange} : Arrives x x none
  | indicate {x : Exchange} (frame : List Byte) : Arrives x (x.note (.indicated frame)) none
  | power {x : Exchange} (up : Bool) (h : up = true → x.running = true) :
      Arrives x { x with up := up } none
  | halt {x : Exchange} :
      Arrives x (({ x with up := false, running := false, opens := false, halt := true }
        : Exchange).note .halted) (some (.flushIrps false))
  | dpc {x : Exchange} (h : x.injectDpc = true) :
      Arrives x { x with injectDpc := false } (some .dpc)

/-- What an activity does in a section. -/
inductive Moves : Activity → Exchange → Exchange → Option Activity → Prop where
  | dropped {x : Exchange} {m f : Bool} {data : List Byte} : Moves (.transmit m f data) x x none
  | answered {x : Exchange} {m f : Bool} {data : List Byte} (frame : List Byte) :
      Moves (.transmit m f data) x x (some (.inject frame))
  | filtered {x : Exchange} {m f : Bool} {data : List Byte} (packet : TapPacket) :
      Moves (.transmit m f data) x x (some (.push packet))
  | queued {x : Exchange} {packet : TapPacket} (hup : x.up = true)
      (hroom : x.packets.length < packetQueueSize) :
      Moves (.push packet) x
        (({ x with packets := x.packets ++ [packet] } : Exchange).note (.queued packet))
        (some .cycle)
  | overrun {x : Exchange} {packet : TapPacket} : Moves (.push packet) x x none
  | taken {x : Exchange} {irp : Irp} {irps : List Irp} {packet : TapPacket}
      {packets : List TapPacket} (hup : x.up = true) (hirps : x.irps = irp :: irps)
      (hpackets : x.packets = packet :: packets) :
      Moves .cycle x
        (({ x with irps := irps, packets := packets } : Exchange).note (.taken irp packet))
        (some (.complete irp packet true))
  | rested {x : Exchange} (h : x.up = true → x.packets = [] ∨ x.irps = []) : Moves .cycle x x none
  | completed {x : Exchange} {irp : Irp} {packet : TapPacket} {cycling : Bool} :
      Moves (.complete irp packet cycling) x
        (x.note (.completed irp (completeIrp irp.length.toNat packet)))
        (if cycling then some .cycle else none)
  | injected {x : Exchange} {frame : List Byte} (hroom : x.frames.length < injectQueueSize) :
      Moves (.inject frame) x { x with frames := x.frames ++ [frame] } (some .insertDpc)
  | injectFull {x : Exchange} {frame : List Byte} : Moves (.inject frame) x x none
  | inserted {x : Exchange} : Moves .insertDpc x { x with injectDpc := true } none
  | injecting {x : Exchange} {frame : List Byte} {frames : List (List Byte)}
      (h : x.frames = frame :: frames) :
      Moves .dpc x { x with frames := frames } (some (.injectNow frame))
  | allInjected {x : Exchange} (h : x.frames = []) : Moves .dpc x x none
  | indicated {x : Exchange} {frame : List Byte} :
      Moves (.injectNow frame) x (x.note (.indicated frame)) (some .dpc)
  | served {x : Exchange} {irp : Irp} {packet : TapPacket} {packets : List TapPacket}
      (hup : x.up = true) (hirps : x.irps = []) (hpackets : x.packets = packet :: packets) :
      Moves (.immediate irp) x
        ((({ x with packets := packets } : Exchange).note (.accepted irp)).note (.taken irp packet))
        (some (.complete irp packet false))
  | unserved {x : Exchange} {irp : Irp} (h : x.up = true → x.packets = [] ∨ x.irps ≠ []) :
      Moves (.immediate irp) x x (some (.pend irp))
  | pended {x : Exchange} {irp : Irp} (hup : x.up = true) (hroom : x.irps.length < irpQueueSize) :
      Moves (.pend irp) x (({ x with irps := x.irps ++ [irp] } : Exchange).note (.accepted irp)) none
  | irpOverrun {x : Exchange} {irp : Irp} : Moves (.pend irp) x x (some (.refuse irp))
  | refused {x : Exchange} {irp : Irp} :
      Moves (.refuse irp) x (x.note (.completed irp ⟨.unsuccessful, 0, []⟩)) none
  | extracted {x : Exchange} {irp : Irp} (h : irp ∈ x.irps) :
      Moves (.cancel irp) x { x with irps := x.irps.filter (· ≠ irp) } (some (.cancelled irp))
  | missed {x : Exchange} {irp : Irp} : Moves (.cancel irp) x x none
  | cancelled {x : Exchange} {irp : Irp} :
      Moves (.cancelled irp) x (x.note (.completed irp cancelledStatus)) none
  | creating {x : Exchange} (available : Bool) (hfree : x.openClose = false)
      (h : available = true → x.running = true ∧ x.opens = false) :
      Moves .create x { x with openClose := true } (some (.openTap available))
  | opened {x : Exchange} :
      Moves (.openTap true) x
        (({ x with openClose := false, opens := true } : Exchange).note .opened) none
  | unavailable {x : Exchange} : Moves (.openTap false) x { x with openClose := false } none
  | closing {x : Exchange} (hfree : x.openClose = false) :
      Moves .close x
        (({ x with openClose := true, opens := false } : Exchange).note .closed)
        (some (.flushIrps true))
  | flushIrp {x : Exchange} {irp : Irp} {irps : List Irp} {closing : Bool}
      (h : x.irps = irp :: irps) :
      Moves (.flushIrps closing) x { x with irps := irps } (some (.flushIrp irp closing))
  | noIrps {x : Exchange} {closing : Bool} (h : x.irps = []) :
      Moves (.flushIrps closing) x x (some (.flushPackets closing))
  | flushedIrp {x : Exchange} {irp : Irp} {closing : Bool} :
      Moves (.flushIrp irp closing) x (x.note (.completed irp cancelledStatus))
        (some (.flushIrps closing))
  | flushPacket {x : Exchange} {packet : TapPacket} {packets : List TapPacket} {closing : Bool}
      (h : x.packets = packet :: packets) :
      Moves (.flushPackets closing) x
        (({ x with packets := packets } : Exchange).note (.flushed packet))
        (some (.flushPackets closing))
  | noPackets {x : Exchange} {closing : Bool} (h : x.packets = []) :
      Moves (.flushPackets closing) x x (some (.flushInject closing))
  | flushFrame {x : Exchange} {frame : List Byte} {frames : List (List Byte)} {closing : Bool}
      (h : x.frames = frame :: frames) :
      Moves (.flushInject closing) x { x with frames := frames } (some (.flushInject closing))
  | closedFrames {x : Exchange} (h : x.frames = []) :
      Moves (.flushInject true) x x (some .release)
  | drained {x : Exchange} (h : x.frames = []) :
      Moves (.flushInject false) x (x.note .drained) none
  | released {x : Exchange} : Moves .release x { x with openClose := false } none

theorem Arrives.grows {x x' : Exchange} {k : Option Activity} (h : Arrives x x' k) :
    x.log <+: x'.log := by
  cases h <;> simp

theorem Moves.grows {k : Activity} {x x' : Exchange} {k' : Option Activity}
    (h : Moves k x x' k') : x.log <+: x'.log := by
  cases h <;> simp

/-- One section over lists. -/
abbrev ExchangeStep : Pool Exchange Activity → Pool Exchange Activity → Prop := Section Arrives Moves

/-- Nothing was exchanged, and nothing is in progress. -/
structure Unused (p : Pool Exchange Activity) : Prop where
  packets : p.shared.packets = []
  irps : p.shared.irps = []
  frames : p.shared.frames = []
  opens : p.shared.opens = false
  halt : p.shared.halt = false
  injectDpc : p.shared.injectDpc = false
  openClose : p.shared.openClose = false
  log : p.shared.log = []
  active : p.active = 0

/-! ## The driver -/

/-- The queues of the driver, as lists. -/
def TapDevice.exchange (d : TapDevice) : Exchange where
  packets := d.packetQueue.items
  irps := d.irpQueue.items
  frames := d.injectQueue.items
  up := isUp d
  running := d.tapIsRunning
  opens := decide (d.tapOpens ≠ 0)
  halt := d.halt
  openClose := d.openClose
  injectDpc := d.injectDpc
  log := d.log

section

variable (d : TapDevice)

@[simp] theorem exchange_packets : d.exchange.packets = d.packetQueue.items := rfl

@[simp] theorem exchange_irps : d.exchange.irps = d.irpQueue.items := rfl

@[simp] theorem exchange_up : d.exchange.up = isUp d := rfl

@[simp] theorem exchange_log : d.exchange.log = d.log := rfl

theorem exchange_note (e : Event) : (d.note e).exchange = d.exchange.note e := rfl

end

theorem isUp_of_hardware {d : TapDevice} {a : TapAdapter} (h : hardware a = hardware d.adapter) :
    isUp { d with adapter := a } = isUp d := by
  have hrunning : a.interfaceIsRunning = d.adapter.interfaceIsRunning :=
    congrArg (fun x => x.2.2.1) h
  rw [isUp, isUp, hrunning]

/-- The adapter's configuration is not seen among the queues. -/
theorem exchange_adapter {d : TapDevice} {a : TapAdapter} (h : hardware a = hardware d.adapter) :
    ({ d with adapter := a } : TapDevice).exchange = d.exchange := by
  simp only [TapDevice.exchange, isUp_of_hardware h]

theorem arrives_read (d : TapDevice) (irp : Irp) (mdl : MdlAddress) (h : irp ∉ issued d.log) :
    Arrives d.exchange (beginRead d irp mdl).1.exchange (beginRead d irp mdl).2 := by
  have hrefused : ∀ status : IoStatus, status.status ≠ .success → Arrives d.exchange
      ((d.note (.issued irp)).note (.completed irp status)).exchange none :=
    fun status hstatus => .refused status h hstatus
  unfold beginRead
  dsimp only
  split
  · exact hrefused _ (by decide)
  · cases mdl with
    | null => exact hrefused _ (by decide)
    | unmapped => exact hrefused _ (by decide)
    | mapped =>
        dsimp only
        split
        · exact hrefused _ (by decide)
        · exact .read h

/-- A frame is looked at only while the device is open. -/
theorem adapterTransmit_opens {d : TapDevice} {room : Bool} {length : Nat}
    {buffers : List (List Byte)} {data : List Byte}
    (h : (adapterTransmit d room length buffers).2 = some data) : d.tapOpens ≠ 0 := by
  unfold adapterTransmit at h
  split at h
  · cases h
  split at h
  · cases h
  · rename_i hopen
    exact (not_or.mp hopen).1

/-- What happens outside the driver. -/
theorem arrives_of_enter {c : Call} {d d' : TapDevice} {k : Option Activity}
    (h : c.enter d = some (d', k)) : Arrives d.exchange d'.exchange k := by
  cases c with
  | transmit room memory deferred length buffers =>
      rcases enter_transmit h with ⟨data, hdata, rfl, rfl⟩ | ⟨rfl, rfl⟩
      · exact .transmit memory deferred data (decide_eq_true (adapterTransmit_opens hdata))
      · exact .configure
  | read irp mdl =>
      simp only [Call.enter] at h
      split at h
      · cases h
      · rename_i hnew
        have hread := arrives_read d irp mdl hnew
        rw [Option.some.inj h] at hread
        exact hread
  | writeFile data =>
      cases h
      split
      · exact .configure
      · unfold noteFrame
        split
        · exact .indicate _
        · exact .configure
  | deviceControl v c =>
      cases h
      split
      · exact .configure
      · rw [exchange_adapter (ioctl_hardware v d.adapter c)]
        exact .configure
  | create =>
      cases h
      split
      · exact .configure
      · exact .create
  | close =>
      cases h
      split
      · exact .configure
      · exact .close
  | cancel found irp =>
      rcases enter_cancel h with ⟨rfl, rfl⟩ | ⟨hissued, rfl, rfl⟩
      · exact .cancel irp
      · exact .astray hissued
  | power on =>
      cases h
      refine .power (isUp (setPower d on)) fun hup => ?_
      exact (Bool.and_eq_true_iff.mp hup).2
  | halt =>
      simp only [Call.enter] at h
      split at h
      · cases h
      · cases h; exact .halt
  | dpc =>
      simp only [Call.enter] at h
      split at h
      · rename_i hdpc
        cases h; exact .dpc hdpc
      · cases h

/-! ### Sections of the driver -/

section

variable {d : TapDevice}

theorem exchange_packetQueue (q : BoundedQueue TapPacket packetQueueSize) :
    ({ d with packetQueue := q } : TapDevice).exchange = { d.exchange with packets := q.items } :=
  rfl

theorem exchange_irpQueue (q : BoundedQueue Irp irpQueueSize) :
    ({ d with irpQueue := q } : TapDevice).exchange = { d.exchange with irps := q.items } := rfl

theorem exchange_queues (qi : BoundedQueue Irp irpQueueSize)
    (qp : BoundedQueue TapPacket packetQueueSize) :
    ({ d with irpQueue := qi, packetQueue := qp } : TapDevice).exchange =
      { d.exchange with irps := qi.items, packets := qp.items } :=
  rfl

theorem exchange_injectQueue (q : BoundedQueue (List Byte) injectQueueSize) :
    ({ d with injectQueue := q } : TapDevice).exchange = { d.exchange with frames := q.items } :=
  rfl

end

theorem moves_push (d : TapDevice) (packet : TapPacket) :
    Moves (.push packet) d.exchange (pushPacket d packet).1.exchange (pushPacket d packet).2 := by
  obtain ⟨hitem, hitems⟩ := d.packetQueue.push_eq packet
  unfold pushPacket
  split
  · rename_i hup
    by_cases hroom : d.packetQueue.items.length < packetQueueSize
    · rw [if_pos hroom] at hitem hitems
      simp only [hitem, Option.isSome_some, if_true, exchange_note, exchange_packetQueue, hitems]
      exact .queued hup hroom
    · rw [if_neg hroom] at hitem hitems
      simp only [hitem, Option.isSome_none, Bool.false_eq_true, if_false, exchange_packetQueue,
        hitems]
      exact .overrun
  · exact .overrun

theorem moves_cycle (d : TapDevice) :
    Moves .cycle d.exchange (cyclePackets d).1.exchange (cyclePackets d).2 := by
  unfold cyclePackets
  simp only [BoundedQueue.count_eq, BoundedQueue.pop_fst]
  split
  · rename_i h
    obtain ⟨hup, hpackets, hirps⟩ := h
    obtain ⟨packet, packets, hp⟩ := List.exists_cons_of_length_pos (Nat.pos_of_ne_zero hpackets)
    obtain ⟨irp, irps, hi⟩ := List.exists_cons_of_length_pos (Nat.pos_of_ne_zero hirps)
    simp only [hp, hi, List.head?_cons, exchange_note, exchange_queues, BoundedQueue.pop_items,
      List.tail_cons]
    exact .taken hup hi hp
  · rename_i h
    refine .rested fun hup => ?_
    by_contra hne
    simp only [not_or] at hne
    exact h ⟨hup, fun h0 => hne.1 (List.length_eq_zero_iff.mp h0),
      fun h0 => hne.2 (List.length_eq_zero_iff.mp h0)⟩

theorem moves_immediate (d : TapDevice) (irp : Irp) :
    Moves (.immediate irp) d.exchange (immediateService d irp).1.exchange
      (immediateService d irp).2 := by
  unfold immediateService
  simp only [BoundedQueue.count_eq, BoundedQueue.pop_fst]
  split
  · rename_i h
    obtain ⟨hup, hpackets, hirps⟩ := h
    obtain ⟨packet, packets, hp⟩ := List.exists_cons_of_length_pos (Nat.pos_of_ne_zero hpackets)
    simp only [hp, List.head?_cons, exchange_note, exchange_packetQueue, BoundedQueue.pop_items,
      List.tail_cons]
    exact .served hup (List.length_eq_zero_iff.mp hirps) hp
  · rename_i h
    refine .unserved fun hup => ?_
    by_contra hne
    simp only [not_or, not_not] at hne
    exact h ⟨hup, fun h0 => hne.1 (List.length_eq_zero_iff.mp h0),
      List.length_eq_zero_iff.mpr hne.2⟩

theorem moves_pend (d : TapDevice) (irp : Irp) :
    Moves (.pend irp) d.exchange (pendRead d irp).1.exchange (pendRead d irp).2 := by
  obtain ⟨hitem, hitems⟩ := d.irpQueue.push_eq irp
  unfold pendRead
  split
  · rename_i hup
    by_cases hroom : d.irpQueue.items.length < irpQueueSize
    · rw [if_pos hroom] at hitem hitems
      simp only [hitem, Option.isSome_some, if_true, exchange_note, exchange_irpQueue, hitems]
      exact .pended hup hroom
    · rw [if_neg hroom] at hitem hitems
      simp only [hitem, Option.isSome_none, Bool.false_eq_true, if_false, exchange_irpQueue,
        hitems]
      exact .irpOverrun
  · exact .irpOverrun

theorem moves_cancel (d : TapDevice) (irp : Irp) :
    Moves (.cancel irp) d.exchange (cancelIrp d irp).1.exchange (cancelIrp d irp).2 := by
  obtain ⟨hitem, hitems⟩ := d.irpQueue.extract_eq irp
  unfold cancelIrp
  by_cases hmem : irp ∈ d.irpQueue.items
  · rw [if_pos hmem] at hitem
    simp only [hitem, Option.isSome_some, if_true, exchange_irpQueue, hitems]
    exact .extracted hmem
  · have hsame : d.irpQueue.items.filter (· ≠ irp) = d.irpQueue.items :=
      List.filter_eq_self.mpr fun i hi => decide_eq_true fun heq => hmem (heq ▸ hi)
    rw [if_neg hmem] at hitem
    simp only [hitem, Option.isSome_none, Bool.false_eq_true, if_false, exchange_irpQueue, hitems,
      hsame]
    exact .missed

theorem moves_flushIrps (d : TapDevice) (closing : Bool) :
    Moves (.flushIrps closing) d.exchange (flushIrpQueue d closing).1.exchange
      (flushIrpQueue d closing).2 := by
  unfold flushIrpQueue
  simp only [BoundedQueue.pop_fst]
  cases hirps : d.irpQueue.items with
  | nil => exact .noIrps hirps
  | cons irp irps =>
      simp only [List.head?_cons, exchange_irpQueue, BoundedQueue.pop_items, hirps, List.tail_cons]
      exact .flushIrp hirps

theorem moves_flushPackets (d : TapDevice) (closing : Bool) :
    Moves (.flushPackets closing) d.exchange (flushPacketQueue d closing).1.exchange
      (flushPacketQueue d closing).2 := by
  unfold flushPacketQueue
  simp only [BoundedQueue.pop_fst]
  cases hpackets : d.packetQueue.items with
  | nil => exact .noPackets hpackets
  | cons packet packets =>
      simp only [List.head?_cons, exchange_note, exchange_packetQueue, BoundedQueue.pop_items,
        hpackets, List.tail_cons]
      exact .flushPacket hpackets

theorem moves_flushInject (d : TapDevice) (closing : Bool) :
    Moves (.flushInject closing) d.exchange (flushInjectQueue d closing).1.exchange
      (flushInjectQueue d closing).2 := by
  unfold flushInjectQueue
  simp only [BoundedQueue.pop_fst]
  cases hframes : d.injectQueue.items with
  | nil =>
      cases closing with
      | false => exact .drained hframes
      | true => exact .closedFrames hframes
  | cons frame frames =>
      simp only [List.head?_cons, exchange_injectQueue, BoundedQueue.pop_items, hframes,
        List.tail_cons]
      exact .flushFrame hframes

theorem moves_inject (d : TapDevice) (frame : List Byte) :
    Moves (.inject frame) d.exchange
      ({ d with injectQueue := (d.injectQueue.push frame).2 } : TapDevice).exchange
      (if (d.injectQueue.push frame).1.isSome then some .insertDpc else none) := by
  obtain ⟨hitem, hitems⟩ := d.injectQueue.push_eq frame
  by_cases hroom : d.injectQueue.items.length < injectQueueSize
  · rw [if_pos hroom] at hitem hitems
    rw [hitem, exchange_injectQueue (d.injectQueue.push frame).2, hitems]
    exact .injected hroom
  · rw [if_neg hroom] at hitem hitems
    rw [hitem, exchange_injectQueue (d.injectQueue.push frame).2, hitems]
    exact .injectFull

theorem moves_dpc (d : TapDevice) :
    Moves .dpc d.exchange ({ d with injectQueue := d.injectQueue.pop.2 } : TapDevice).exchange
      (d.injectQueue.pop.1.map .injectNow) := by
  rw [exchange_injectQueue d.injectQueue.pop.2, BoundedQueue.pop_fst, BoundedQueue.pop_items]
  cases hframes : d.injectQueue.items with
  | nil =>
      have hsame : ({ d.exchange with frames := [] } : Exchange) = d.exchange := by
        rw [TapDevice.exchange, hframes]
      rw [List.tail_nil, hsame]
      exact .allInjected hframes
  | cons frame frames => exact .injecting hframes

/-- A frame the adapter has looked at is dropped, answered or queued. -/
theorem moves_transmit {d : TapDevice} {memory deferred : Bool} {data : List Byte} {r : Filtered}
    (h : transmitFilter memory d.adapter data = some r) :
    Moves (.transmit memory deferred data) d.exchange
      ({ d with adapter := r.adapter } : TapDevice).exchange (afterFilter deferred r) := by
  rw [exchange_adapter (transmitFilter_hardware h)]
  unfold afterFilter
  split
  · split
    · exact .answered _
    · exact .dropped
  · exact .filtered _
  · exact .dropped

theorem moves_of_eq {k : Activity} {d d' : TapDevice} {r : TapDevice × Option Activity}
    {k' : Option Activity} (hr : Moves k d.exchange r.1.exchange r.2)
    (h : some r = some (d', k')) : Moves k d.exchange d'.exchange k' := by
  cases Option.some.inj h
  exact hr

/-- Every section of the driver is one over lists. -/
theorem moves_of_goes {k : Activity} {d d' : TapDevice} {k' : Option Activity}
    (h : Goes k d d' k') : Moves k d.exchange d'.exchange k' := by
  unfold Goes at h
  cases k with
  | transmit memory deferred data =>
      obtain ⟨r, hr, heq⟩ := Option.map_eq_some_iff.mp h
      cases heq
      exact moves_transmit hr
  | push packet => exact moves_of_eq (moves_push d packet) h
  | cycle => exact moves_of_eq (moves_cycle d) h
  | complete irp packet cycling => cases h; exact .completed
  | inject frame => exact moves_of_eq (moves_inject d frame) h
  | insertDpc => cases h; exact .inserted
  | dpc => exact moves_of_eq (moves_dpc d) h
  | injectNow frame => cases h; exact .indicated
  | immediate irp => exact moves_of_eq (moves_immediate d irp) h
  | pend irp => exact moves_of_eq (moves_pend d irp) h
  | refuse irp => cases h; exact .refused
  | cancel irp => exact moves_of_eq (moves_cancel d irp) h
  | cancelled irp => cases h; exact .cancelled
  | create =>
      simp only [Activity.run] at h
      split at h
      · cases h
      · rename_i hfree
        cases h
        refine .creating _ (Bool.eq_false_iff.mpr hfree) fun havailable => ?_
        obtain ⟨hrunning, hopens⟩ := Bool.and_eq_true_iff.mp havailable
        exact ⟨hrunning, by simpa [TapDevice.exchange] using hopens⟩
  | openTap available =>
      cases available with
      | true => cases h; exact .opened
      | false => cases h; exact .unavailable
  | close =>
      simp only [Activity.run] at h
      split at h
      · cases h
      · rename_i hfree
        cases h
        exact .closing (Bool.eq_false_iff.mpr hfree)
  | flushIrps closing => exact moves_of_eq (moves_flushIrps d closing) h
  | flushIrp irp closing => cases h; exact .flushedIrp
  | flushPackets closing => exact moves_of_eq (moves_flushPackets d closing) h
  | flushInject closing => exact moves_of_eq (moves_flushInject d closing) h
  | release =>
      cases h
      have hhardware := setMediaStatus_hardware d.adapter 0
      rw [exchange_adapter (d := { d with openClose := false }) hhardware]
      exact .released

theorem driverStep_exchanges {p p' : Driver} (h : DriverStep p p') :
    ExchangeStep (p.map TapDevice.exchange) (p'.map TapDevice.exchange) :=
  h.map (fun _ _ _ ⟨_, hc⟩ => arrives_of_enter hc) fun _ _ _ _ hg => moves_of_goes hg

theorem created_unused {p : Driver} (h : Created p) : Unused (p.map TapDevice.exchange) := by
  obtain ⟨d, A⟩ := p
  obtain ⟨⟨a, rfl⟩, rfl⟩ := h
  have hpackets := BoundedQueue.new_items TapPacket packetQueueSize (by decide)
  have hirps := BoundedQueue.new_items Irp irpQueueSize (by decide)
  have hframes := BoundedQueue.new_items (List Byte) injectQueueSize (by decide)
  exact ⟨hpackets, hirps, hframes, rfl, rfl, rfl, rfl, rfl, rfl⟩

/-- Every run of the driver is a run over lists. -/
theorem driver_exchanges {p : Driver} (h : Runs Created DriverStep p) :
    Runs Unused ExchangeStep (p.map TapDevice.exchange) :=
  h.map (Pool.map TapDevice.exchange) (fun _ hp => created_unused hp) fun _ _ hs =>
    driverStep_exchanges hs

/-- The same of the runs whose sections meet a condition on the queues. -/
theorem driver_exchanges_provided {cond : Pool Exchange Activity → Pool Exchange Activity → Prop}
    {p : Driver} (h : Runs Created (Provided DriverStep fun p p' =>
      cond (p.map TapDevice.exchange) (p'.map TapDevice.exchange)) p) :
    Runs Unused (Provided ExchangeStep cond) (p.map TapDevice.exchange) :=
  h.map (Pool.map TapDevice.exchange) (fun _ hp => created_unused hp) fun _ _ hs =>
    ⟨driverStep_exchanges hs.1, hs.2⟩

end TapCfg.TapWin32
