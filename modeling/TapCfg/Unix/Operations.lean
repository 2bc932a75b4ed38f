/-
  Unix/Operations.lean --- every operation on Unix, and the states their calls
  reach.

  Source: src/lib/tapcfg_unix.c, lines 94-526.

  Each function is a routine on the device object with its frame buffer.  Most
  look at `started` first; `tapcfg_get_fd` does not, and returns the descriptor
  in the object, which is -1 in every reachable object that is not started.
-/
import TapCfg.Api.Operation
import TapCfg.Foundation.Routine
import TapCfg.Unix.Address
import TapCfg.Unix.Sessions
import TapCfg.Unix.Status
import TapCfg.Unix.Writing

set_option autoImplicit false

namespace TapCfg.Unix

open TapCfg.Foundation
open TapCfg.Api (Operation Result)
open Prog hiding ret

/-! ## The operations as routines -/

/-- A function that only looks at the object. -/
def looking (look : Tapcfg → Result) : Routine Reader Result where
  env := sendEnv
  enter s := ⟨s.cfg, []⟩
  leave s t := { s with cfg := t.cfg }
  result := id
  prog := (load.bind fun t => .ret (look t.cfg) : SendIo Result)

/-- A function that reads the device, for a caller with memory `user`. -/
def reading (user : Reader → List Byte) (p : ReadIo Int) : Routine Reader Result where
  env := deviceEnv
  enter s := { s with user := user s }
  leave _ t := t
  result := .number
  prog := p

/-- A function that writes to the device. -/
def sending (p : SendIo Int) : Routine Reader Result where
  env := sendEnv
  enter s := ⟨s.cfg, []⟩
  leave s t := { s with cfg := t.cfg }
  result := .number
  prog := p

/-- A function of the backend. -/
def backend (p : Io Int) : Routine Reader Result where
  env := osEnv anyAnswer
  enter s := s.world
  leave s w := s.withWorld w
  result := .number
  prog := p

/-- A function that asks for the MTU or the address. -/
def addressing (b : Backend) (sys : AddrSystem) (p : AddrIo Int) : Routine Reader Result where
  env := addrEnv b sys
  enter s := ⟨s.cfg, fun _ => {}, []⟩
  leave s t := { s with cfg := t.cfg }
  result := .number
  prog := p

/-- The bits of an `int`. -/
def intBits (n : Int) : Nat := (n % 0x100000000).toNat

/-- The functions of the library. -/
def operation (b : Backend) (defines : BsdDefines) (sys : AddrSystem) :
    Operation → Routine Reader Result
  | .getFd => looking fun cfg => .number (tapcfgGetFd cfg)
  | .waitReadable msec => reading Reader.user (tapcfgWaitReadable msec)
  | .read buf count => reading (fun _ => buf) (tapcfgRead count)
  | .waitWritable msec => sending (tapcfgWaitWritable msec)
  | .write buf count => sending (tapcfgWrite buf count)
  | .getIfname => looking fun cfg => Api.ofOption (tapcfgGetIfname cfg)
  | .getHwaddr => looking fun cfg => Api.ofOption (tapcfgIfaceGetHwaddr cfg)
  | .setHwaddr hwaddr length => backend (tapcfgIfaceSetHwaddr b defines hwaddr length)
  | .setStatus flags => backend (tapcfgIfaceSetStatus b defines (intBits flags))
  | .getMtu => addressing b sys tapcfgIfaceGetMtu
  | .setMtu mtu => addressing b sys (tapcfgIfaceSetMtu mtu)
  | .setIpv4 addrstr netbits => addressing b sys (tapcfgIfaceSetIpv4 b sys.order addrstr netbits)
  | .setIpv6 addrstr netbits => addressing b sys (tapcfgIfaceSetIpv6 addrstr netbits)
  | .setDhcpOptions buffer buflen => addressing b sys (tapcfgIfaceSetDhcpOptions buffer buflen)
  | .setDhcpv6Options buffer buflen =>
      addressing b sys (tapcfgIfaceSetDhcpv6Options buffer buflen)

/-- The fields of the structure. -/
def Reader.fields (s : Reader) : Tapcfg × List Byte × Int := (s.cfg, s.buffer, s.buflen)

/-- The operations that return zero when the device is not started. -/
def toleratesIdle : Operation → Bool
  | .setStatus _ => true
  | .getMtu => true
  | .setMtu _ => true
  | .setIpv4 _ _ => true
  | _ => false

section

variable {b : Backend} {defines : BsdDefines} {sys : AddrSystem} {s : Reader}

/-- The operations on an object that is not started and has no descriptor: most look at
`started` before they ask for anything. -/
theorem operation_attempt (op : Operation) (hidle : s.cfg.started = false)
    (htap : s.cfg.tapFd = -1) :
    ∃ r s', (operation b defines sys op).attempt s = some (r, s') ∧ s'.fields = s.fields ∧
      (op.Fails r ↔ toleratesIdle op = false) := by
  have hzero : ∀ {p : Prop}, ¬ p → ((Result.number 0).Negative ↔ p) :=
    fun hp => iff_of_false Api.not_negative_zero hp
  have hneg : ∀ {p : Prop}, p → ((Result.number (-1)).Negative ↔ p) :=
    fun hp => iff_of_true Api.negative_neg_one hp
  have hstarted : ∀ {x : Prop}, s.cfg.started = false ∨ x := .inl hidle
  have hnull : ∀ {α : Type} {x : α}, (if s.cfg.started then some x else none) = none := by
    simp [hidle]
  cases op with
  | getFd =>
      refine ⟨_, _, Routine.attempt_eq rfl, rfl, iff_of_true ?_ rfl⟩
      show tapcfgGetFd s.cfg < 0
      rw [tapcfgGetFd, htap]
      decide
  | waitReadable msec =>
      exact ⟨_, _, Routine.attempt_eq (settle_guard rfl hidle), rfl, iff_of_true rfl rfl⟩
  | read buf count =>
      exact ⟨_, _, Routine.attempt_eq (settle_guard rfl hidle), rfl, hneg rfl⟩
  | waitWritable msec =>
      exact ⟨_, _, Routine.attempt_eq (settle_guard rfl hidle), rfl, iff_of_true rfl rfl⟩
  | write buf count =>
      exact ⟨_, _, Routine.attempt_eq (settle_guard rfl hidle), rfl, hneg rfl⟩
  | getIfname =>
      refine ⟨_, _, Routine.attempt_eq rfl, rfl, iff_of_true ?_ rfl⟩
      exact congrArg Api.ofOption hnull
  | getHwaddr =>
      refine ⟨_, _, Routine.attempt_eq rfl, rfl, iff_of_true ?_ rfl⟩
      exact congrArg Api.ofOption hnull
  | setHwaddr hwaddr length =>
      exact ⟨_, _, Routine.attempt_eq (settle_guard rfl hstarted), rfl, hneg rfl⟩
  | setStatus flags =>
      exact ⟨_, _, Routine.attempt_eq (settle_guard rfl hstarted), rfl, hzero nofun⟩
  | getMtu => exact ⟨_, _, Routine.attempt_eq (settle_guard rfl hidle), rfl, hzero nofun⟩
  | setMtu mtu =>
      exact ⟨_, _, Routine.attempt_eq (settle_guard rfl hidle), rfl, hzero nofun⟩
  | setIpv4 addrstr netbits =>
      exact ⟨_, _, Routine.attempt_eq (settle_guard rfl hidle), rfl, hzero nofun⟩
  | setIpv6 addrstr netbits => exact ⟨_, _, Routine.attempt_eq rfl, rfl, hneg rfl⟩
  | setDhcpOptions buffer buflen => exact ⟨_, _, Routine.attempt_eq rfl, rfl, hneg rfl⟩
  | setDhcpv6Options buffer buflen => exact ⟨_, _, Routine.attempt_eq rfl, rfl, hneg rfl⟩

end

/-! ## The states that calls reach -/

/-- Some call of the library: a start, a stop, a read or a wait in a session, or any operation. -/
inductive CallStep (b : Backend) (defines : BsdDefines) (sys : AddrSystem) :
    Reader → Reader → Prop where
  | session {s s' : Reader} (h : SessionStep b s s') : CallStep b defines sys s s'
  | operation {s s' : Reader} {op : Operation} {r : Result}
      (h : (operation b defines sys op).Performs s r s') : CallStep b defines sys s s'

/-- An object that is not started has no descriptor. -/
def NoDevice (cfg : Tapcfg) : Prop := cfg.started = false → cfg.tapFd = -1

/-- What an operation leaves of the object. -/
structure SameDevice (cfg cfg' : Tapcfg) : Prop where
  started : cfg'.started = cfg.started
  tapFd : cfg'.tapFd = cfg.tapFd

theorem SameDevice.refl (cfg : Tapcfg) : SameDevice cfg cfg := ⟨rfl, rfl⟩

section

variable {b : Backend} {defines : BsdDefines} {sys : AddrSystem} {s s' : Reader} {r : Result}

theorem NoDevice.same {cfg cfg' : Tapcfg} (hcfg : NoDevice cfg) (h : SameDevice cfg cfg') :
    NoDevice cfg' :=
  fun hidle => h.tapFd.trans (hcfg (h.started.symm.trans hidle))

/-- An access of a reading function leaves the part of the object that starts and stops write. -/
def KeepsCfg (f : Reader → Except ReadFault Reader) : Prop :=
  ∀ s s', f s = .ok s' → s'.cfg = s.cfg

theorem keepsCfg_load : Uses KeepsCfg (fun _ => True) (load : ReadIo Reader) := by
  refine uses_load fun s s' h => ?_
  cases h
  rfl

theorem keepsCfg_waitReadable (msec : Int) :
    Uses KeepsCfg (fun _ => True) (tapcfgWaitReadable msec) := by
  unfold tapcfgWaitReadable
  refine keepsCfg_load.bind fun s => Uses.unless ?_
  exact (uses_call trivial).bind fun (a : Selected) => (uses_ret _).unless

theorem keepsCfg_fillBuffer : Uses KeepsCfg (fun _ => True) fillBuffer := by
  unfold fillBuffer
  refine keepsCfg_load.bind fun s => Uses.unless ?_
  refine (uses_call trivial).bind fun (o : Outcome) => ?_
  split
  · exact uses_ret _
  · refine Uses.bind (uses_update fun s s' h => ?_) fun _ => uses_ret _
    cases h
    rfl

theorem keepsCfg_deliverFrame (count : Int) :
    Uses KeepsCfg (fun _ => True) (deliverFrame count) := by
  unfold deliverFrame
  refine keepsCfg_load.bind fun s => Uses.unless ?_
  refine Uses.bind (uses_update fun s s' h => ?_) fun _ =>
    Uses.bind (uses_update fun s s' h => ?_) fun _ => uses_ret _
  · split at h
    · cases h
      rfl
    · cases h
  · cases h
    rfl

theorem keepsCfg_read (count : Int) : Uses KeepsCfg (fun _ => True) (tapcfgRead count) := by
  unfold tapcfgRead
  refine keepsCfg_load.bind fun s => Uses.unless ?_
  refine keepsCfg_fillBuffer.bind fun early => ?_
  cases early with
  | some ret => exact uses_ret _
  | none => exact keepsCfg_deliverFrame count

theorem deviceEnv_cfg {c : ReadCall} {a : c.Ans} (h : deviceEnv s c a s') : s'.cfg = s.cfg := by
  cases c with
  | read fd n => cases (show DeviceReads s fd n a s' from h) <;> rfl
  | select fd sec usec =>
      cases (show DeviceSelects s fd a s' from h)
      rfl

theorem reading_cfg {user : Reader → List Byte} {p : ReadIo Int}
    (hp : Uses KeepsCfg (fun _ => True) p) (h : (reading user p).Performs s r s') :
    s'.cfg = s.cfg := by
  obtain ⟨t, ht, rfl⟩ := h.kept (I := fun t : Reader => t.cfg = s.cfg) hp
    (fun f hf t t' ht htt' => (hf t t' htt').trans ht)
    (fun c _ t a t' ht henv => (deviceEnv_cfg henv).trans ht) rfl
  exact ht

theorem ReadStep.cfg {a : ReadAct} {ret : Int} (h : ReadStep s a ret s') : s'.cfg = s.cfg := by
  cases h with
  | wait hr =>
      rename_i msec
      have hwaits : (reading Reader.user (tapcfgWaitReadable msec)).Performs s (.number ret) s' :=
        ⟨ret, s', hr, rfl, rfl⟩
      exact reading_cfg (keepsCfg_waitReadable msec) hwaits
  | read huser hr =>
      rename_i t count user
      have hreads : (reading (fun _ => user) (tapcfgRead count)).Performs s (.number ret) t :=
        ⟨ret, t, hr, rfl, rfl⟩
      have hcfg : t.cfg = s.cfg := reading_cfg (keepsCfg_read count) hreads
      exact hcfg
  | arrive => rfl

theorem sendEnv_cfg {t t' : Sender} {c : SendCall} {a : c.Ans} (h : sendEnv t c a t') :
    t'.cfg = t.cfg := by
  cases c with
  | select fd sec usec => rw [show t' = t from h]
  | write fd buf n => cases (show DeviceWrites t buf n a t' from h) <;> rfl

theorem looking_cfg {look : Tapcfg → Result} (h : (looking look).Performs s r s') :
    s'.cfg = s.cfg := by
  obtain ⟨t, ht, rfl⟩ := h.unmoved Sender.cfg (looks_load.bind fun _ => uses_ret _)
    fun _ _ _ _ henv => sendEnv_cfg henv
  exact ht

theorem sending_cfg {p : SendIo Int} (hp : Looks p) (h : (sending p).Performs s r s') :
    s'.cfg = s.cfg := by
  obtain ⟨t, ht, rfl⟩ := h.unmoved Sender.cfg hp fun _ _ _ _ henv => sendEnv_cfg henv
  exact ht

theorem looks_waitWritable (msec : Int) : Looks (tapcfgWaitWritable msec) := by
  unfold tapcfgWaitWritable
  refine looks_load.bind fun s => Uses.unless ?_
  exact (looks_call _).bind fun (a : Selected) => (uses_ret _).unless

theorem looks_write (buf : List Byte) (count : Int) : Looks (tapcfgWrite buf count) := by
  unfold tapcfgWrite
  refine looks_load.bind fun s => Uses.unless ?_
  exact (looks_call _).bind fun (ret : Int) => (uses_ret _).unless

theorem addressing_cfg {p : AddrIo Int} (hp : Looks p) (h : (addressing b sys p).Performs s r s') :
    s'.cfg = s.cfg := by
  have henv : ∀ (t : Addressed) (c : AddrCall) (a : c.Ans) (t' : Addressed),
      addrEnv b sys t c a t' → t'.cfg = t.cfg := by
    intro t c a t' h
    cases c with
    | ioctl fd req =>
        rw [show t' = t.answer b sys req a from h]
        rfl
  obtain ⟨t, ht, rfl⟩ := h.unmoved Addressed.cfg hp henv
  exact ht

/-- A request whose failure ends the function. -/
theorem looks_addrIoctlOr {fd : Int} {req : AddrRequest} {c : AddrReply → Prop}
    [∀ reply, Decidable (c reply)] {rest : AddrReply → AddrIo Int}
    (hrest : ∀ reply, Looks (rest reply)) :
    Looks ((addrIoctl fd req).bind fun reply =>
      if c reply then .ret (-1) else rest reply) :=
  (looks_call _).bind fun (reply : AddrReply) => (hrest reply).unless

theorem looks_ifaddrIoctl (addr mask : BitVec 32) : Looks (tapcfgIfaddrIoctl b addr mask) := by
  cases b with
  | linux =>
      exact looks_load.bind fun s => looks_addrIoctlOr fun _ =>
        looks_addrIoctlOr fun _ => uses_ret _
  | bsd =>
      exact looks_load.bind fun s => looks_addrIoctlOr fun _ =>
        looks_addrIoctlOr fun _ => uses_ret _
  | netbsd =>
      exact looks_load.bind fun s => looks_addrIoctlOr fun _ =>
        looks_addrIoctlOr fun _ => uses_ret _
  | solaris =>
      exact looks_load.bind fun s => looks_addrIoctlOr fun _ =>
        looks_addrIoctlOr fun _ => uses_ret _

theorem looks_getMtu : Looks tapcfgIfaceGetMtu := by
  unfold tapcfgIfaceGetMtu
  refine looks_load.bind fun s => Uses.unless ?_
  exact looks_addrIoctlOr fun _ => uses_ret _

theorem looks_setMtu (mtu : Int) : Looks (tapcfgIfaceSetMtu mtu) := by
  unfold tapcfgIfaceSetMtu
  refine looks_load.bind fun s => Uses.unless (Uses.unless ?_)
  exact looks_addrIoctlOr fun _ => uses_ret _

theorem looks_setIpv4 (order : Endian) (addrstr : CStr) (netbits : Byte) :
    Looks (tapcfgIfaceSetIpv4 b order addrstr netbits) := by
  unfold tapcfgIfaceSetIpv4
  refine looks_load.bind fun s => Uses.unless (Uses.unless ?_)
  split
  · exact uses_ret _
  · exact (looks_ifaddrIoctl _ _).bind fun _ => uses_ret _

/-- The functions of the backend write other fields than the descriptor. -/
theorem backend_same {p : Io Int} {P : (World → Except Fault World) → Prop} {R : Call → Prop}
    (hp : Uses P R p)
    (hP : ∀ f, P f → ∀ w w', f w = .ok w' → SameDevice w.cfg w'.cfg)
    (h : (backend p).Performs s r s') : SameDevice s.cfg s'.cfg := by
  obtain ⟨w, hw, rfl⟩ := h.kept (I := fun w : World => SameDevice s.cfg w.cfg) hp
    (fun f hf w w' hw hww' => ⟨(hP f hf w w' hww').started.trans hw.started,
      (hP f hf w w' hww').tapFd.trans hw.tapFd⟩)
    (fun c _ w a w' hw henv => by
      rw [show w' = w.log ⟨c, a⟩ from henv.2.2]
      exact hw) (.refl s.cfg)
  exact hw

/-- No operation starts or stops the device. -/
theorem operation_same {op : Operation} (h : (operation b defines sys op).Performs s r s') :
    SameDevice s.cfg s'.cfg := by
  have hcfg : s'.cfg = s.cfg → SameDevice s.cfg s'.cfg := fun heq => by rw [heq]; exact .refl _
  cases op with
  | getFd => exact hcfg (looking_cfg h)
  | waitReadable msec => exact hcfg (reading_cfg (keepsCfg_waitReadable msec) h)
  | read buf count => exact hcfg (reading_cfg (keepsCfg_read count) h)
  | waitWritable msec => exact hcfg (sending_cfg (looks_waitWritable msec) h)
  | write buf count => exact hcfg (sending_cfg (looks_write buf count) h)
  | getIfname => exact hcfg (looking_cfg h)
  | getHwaddr => exact hcfg (looking_cfg h)
  | setHwaddr hwaddr length =>
      refine backend_same (still_setHwaddr hwaddr length) (fun f hf w w' hww' => ?_) h
      have hkept := (hf w w' hww').1
      exact ⟨hkept.started, hkept.tapFd⟩
  | setStatus flags =>
      refine backend_same (keepsAddr_setStatus defines (intBits flags)) (fun f hf w w' hww' => ?_) h
      rcases hf with rfl | ⟨status, rfl⟩
      · cases hww'
        exact .refl _
      · cases hww'
        exact ⟨rfl, rfl⟩
  | getMtu => exact hcfg (addressing_cfg looks_getMtu h)
  | setMtu mtu => exact hcfg (addressing_cfg (looks_setMtu mtu) h)
  | setIpv4 addrstr netbits => exact hcfg (addressing_cfg (looks_setIpv4 _ addrstr netbits) h)
  | setIpv6 addrstr netbits => exact hcfg (addressing_cfg (uses_ret _) h)
  | setDhcpOptions buffer buflen => exact hcfg (addressing_cfg (uses_ret _) h)
  | setDhcpv6Options buffer buflen => exact hcfg (addressing_cfg (uses_ret _) h)

theorem Starts.noDevice {w w' : World} {ret : Int} (h : Starts w ret w') (hw : NoDevice w.cfg) :
    NoDevice w'.cfg := by
  intro hidle'
  cases h with
  | already hup => exact hw hidle'
  | failed hidle _ _ htap =>
      rcases htap with htap | htap
      · exact htap
      · exact htap.trans (hw hidle)
  | done _ _ _ _ hcfg =>
      rw [hcfg] at hidle'
      cases hidle'

theorem Stops.noDevice {w w' : World} (h : Stops w w') (hw : NoDevice w.cfg) :
    NoDevice w'.cfg := by
  cases h with
  | idle hidle => exact hw
  | done hup hidle htap hstatus => exact fun _ => htap

theorem SessionStep.noDevice (h : SessionStep b s s') (hs : NoDevice s.cfg) :
    NoDevice s'.cfg := by
  have hstarts : ∀ {ifname : Option CStr} {fallback : Bool} {ret : Int} {w' : World},
      Reaches (osEnv anyAnswer) (tapcfgStart b ifname fallback, s.world) (.ret ret, w') →
      Starts s.world ret w' := fun hr => ((sat_starts (logs_osEnv _) _ _).reaches hr).2
  cases h with
  | reading h => exact hs.same (by rw [h.cfg]; exact .refl _)
  | start hr hnot => exact (hstarts hr).noDevice hs
  | startOpened hr hidle hup ready => exact (hstarts hr).noDevice hs
  | stop hr =>
      have hstops : Stops s.world _ := ((sat_stops (logs_osEnv _)).reaches hr).2
      exact hstops.noDevice hs

theorem CallStep.noDevice (h : CallStep b defines sys s s') (hs : NoDevice s.cfg) :
    NoDevice s'.cfg := by
  cases h with
  | session h => exact h.noDevice hs
  | operation h => exact hs.same (operation_same h)

/-- In every reachable state: the operations on a device that is not started fail as is
documented, but for those that return zero. -/
theorem operation_refuses (h : Runs Reader.Initial (CallStep b defines sys) s)
    (hidle : s.cfg.started = false) (op : Operation) :
    (operation b defines sys op).Refuses op.Fails Reader.fields s ↔ toleratesIdle op = false := by
  have hs : NoDevice s.cfg := by
    refine h.invariant (I := fun s => NoDevice s.cfg) (fun s hs _ => ?_)
      fun _ _ hs hstep => hstep.noDevice hs
    rw [hs.cfg]
    rfl
  obtain ⟨r, s', hattempt, hfields, hfails⟩ : ∃ r s',
      (operation b defines sys op).attempt s = some (r, s') ∧ s'.fields = s.fields ∧
        (op.Fails r ↔ toleratesIdle op = false) := operation_attempt op hidle (hs hidle)
  rw [Routine.refuses_iff hattempt, hfails]
  exact and_iff_left hfields

end

end TapCfg.Unix
