/-
  Windows/Operations.lean --- every operation on Windows, and the states their
  calls reach.

  Source: src/lib/tapcfg_windows.c, lines 100-685.

  As on Unix, most functions look at `started` first.  `tapcfg_get_fd` hands the
  handle in the object to the C runtime, and in every reachable object that is
  not started that is `INVALID_HANDLE_VALUE`.
-/
import TapCfg.Api.Operation
import TapCfg.Foundation.Routine
import TapCfg.Windows.Iface
import TapCfg.Windows.Sessions

set_option autoImplicit false

namespace TapCfg.Windows

open TapCfg.Foundation
open TapCfg.Api (Operation Result)
open Prog hiding ret

/-! ## The operations as routines -/

/-- What the library is built with, and what it is given by the system. -/
structure Platform where
  order : Endian
  /-- `HAVE_GETADDRINFO` -/
  haveGetaddrinfo : Bool
  /-- `getaddrinfo` with `AI_NUMERICHOST` and `AF_INET6` -/
  getaddrinfo : CStr → Option (List Byte)
  /-- `_open_osfhandle` -/
  osfhandle : Int → Int

/-- A function that reads the device, for a caller with memory `user`. -/
def reading (user : World → List Byte) (p : Io Int) : Routine World Result where
  env := osEnv
  enter w := { w with user := user w }
  leave _ w := w
  result := .number
  prog := p

/-- A function that writes to the device; what the driver answers is not looked into. -/
def sending (p : WriteIo Int) : Routine World Result where
  env s _ _ s' := s'.cfg = s.cfg
  enter w := { cfg := w.cfg, request := [], result := none, taken := [] }
  leave w s := { w with cfg := s.cfg }
  result := .number
  prog := p

/-- A function that asks the driver. -/
def asking (p : TapIo Int) : Routine World Result where
  env := tapEnv
  enter w := w.cfg
  leave w cfg := { w with cfg := cfg }
  result := .number
  prog := p

/-- A function that only looks at the object. -/
def looking (look : Tapcfg → Result) : Routine World Result where
  env := tapEnv
  enter w := w.cfg
  leave w cfg := { w with cfg := cfg }
  result := id
  prog := (load.bind fun cfg => .ret (look cfg) : TapIo Result)

/-- The functions of the library. -/
def operation (sys : Platform) : Operation → Routine World Result
  | .getFd => looking fun cfg => .number (tapcfgGetFd sys.osfhandle cfg)
  | .waitReadable msec => reading World.user (tapcfgWaitReadable msec)
  | .read buf count => reading (fun _ => buf) (tapcfgRead count)
  | .waitWritable msec => sending (tapcfgWaitWritable msec)
  | .write buf count => sending (tapcfgWrite buf count)
  | .getIfname => looking fun cfg => Api.ofOption (tapcfgGetIfname cfg)
  | .getHwaddr => looking fun cfg => Api.ofOption (tapcfgIfaceGetHwaddr cfg)
  | .setHwaddr hwaddr length => asking (tapcfgIfaceSetHwaddr hwaddr length)
  | .setStatus flags => asking (tapcfgIfaceSetStatus flags)
  | .getMtu => asking tapcfgIfaceGetMtu
  | .setMtu mtu => asking (tapcfgIfaceSetMtu mtu)
  | .setIpv4 addrstr netbits => asking (tapcfgIfaceSetIpv4 sys.order addrstr netbits)
  | .setIpv6 addrstr netbits =>
      asking (tapcfgIfaceSetIpv6 sys.haveGetaddrinfo sys.getaddrinfo addrstr netbits)
  | .setDhcpOptions buffer buflen => asking (tapcfgIfaceSetDhcpOptions buffer buflen)
  | .setDhcpv6Options buffer buflen => asking (tapcfgIfaceSetDhcpv6Options buffer buflen)

/-- The fields of the structure. -/
def World.fields (w : World) : Tapcfg × Overlapped := (w.cfg, w.overlapped)

/-- The operations that return zero when the device is not started. -/
def toleratesIdle (sys : Platform) : Operation → Bool
  | .getMtu => true
  | .setMtu _ => true
  | .setIpv4 _ _ => true
  | .setIpv6 _ _ => sys.haveGetaddrinfo
  | .setDhcpOptions _ _ => true
  | .setDhcpv6Options _ _ => true
  | _ => false

section

variable {sys : Platform} {w : World}

/-- The operations on an object that is not started and has no handle. -/
theorem operation_attempt (op : Operation) (hidle : w.cfg.started = false)
    (hos : sys.osfhandle w.cfg.devHandle < 0) :
    ∃ r w', (operation sys op).attempt w = some (r, w') ∧ w'.fields = w.fields ∧
      (op.Fails r ↔ toleratesIdle sys op = false) := by
  have hzero : ∀ {p : Prop}, ¬ p → ((Result.number 0).Negative ↔ p) :=
    fun hp => iff_of_false Api.not_negative_zero hp
  have hneg : ∀ {p : Prop}, p → ((Result.number (-1)).Negative ↔ p) :=
    fun hp => iff_of_true Api.negative_neg_one hp
  have hstarted : ∀ {x : Prop}, w.cfg.started = false ∨ x := .inl hidle
  have hnull : ∀ {α : Type} {x : Option α}, (if w.cfg.started then x else none) = none := by
    simp [hidle]
  cases op with
  | getFd => exact ⟨_, _, Routine.attempt_eq rfl, rfl, iff_of_true hos rfl⟩
  | waitReadable msec =>
      exact ⟨_, _, Routine.attempt_eq (settle_guard rfl hidle), rfl, iff_of_true rfl rfl⟩
  | read buf count =>
      exact ⟨_, _, Routine.attempt_eq (settle_guard rfl hidle), rfl, hneg rfl⟩
  | waitWritable msec =>
      exact ⟨_, _, Routine.attempt_eq (settle_guard rfl hidle), rfl, iff_of_true rfl rfl⟩
  | write buf count =>
      exact ⟨_, _, Routine.attempt_eq (settle_guard rfl hidle), rfl, hneg rfl⟩
  | getIfname =>
      refine ⟨_, _, Routine.attempt_eq rfl, rfl, iff_of_true ?_ rfl⟩
      exact congrArg Api.ofOption hnull
  | getHwaddr =>
      refine ⟨_, _, Routine.attempt_eq rfl, rfl, iff_of_true ?_ rfl⟩
      exact congrArg Api.ofOption hnull
  | setHwaddr hwaddr length =>
      exact ⟨_, _, Routine.attempt_eq (settle_guard rfl hstarted), rfl, hneg rfl⟩
  | setStatus flags =>
      exact ⟨_, _, Routine.attempt_eq (settle_guard rfl hidle), rfl, hneg rfl⟩
  | getMtu => exact ⟨_, _, Routine.attempt_eq (settle_guard rfl hidle), rfl, hzero nofun⟩
  | setMtu mtu => exact ⟨_, _, Routine.attempt_eq (settle_guard rfl hidle), rfl, hzero nofun⟩
  | setIpv4 addrstr netbits =>
      exact ⟨_, _, Routine.attempt_eq (settle_guard rfl hidle), rfl, hzero nofun⟩
  | setIpv6 addrstr netbits =>
      cases hhave : sys.haveGetaddrinfo with
      | false =>
          have hsettle : (tapcfgIfaceSetIpv6 sys.haveGetaddrinfo sys.getaddrinfo addrstr
              netbits).settle w.cfg = some (-1, w.cfg) := by
            rw [tapcfgIfaceSetIpv6, if_neg (by simp [hhave])]
            rfl
          exact ⟨_, _, Routine.attempt_eq hsettle, rfl, hneg hhave⟩
      | true =>
          have hsettle : (tapcfgIfaceSetIpv6 sys.haveGetaddrinfo sys.getaddrinfo addrstr
              netbits).settle w.cfg = some (0, w.cfg) := by
            rw [tapcfgIfaceSetIpv6, if_pos hhave]
            exact settle_guard rfl hidle
          have htolerated : ¬ toleratesIdle sys (.setIpv6 addrstr netbits) = false :=
            ne_false_of_eq_true hhave
          exact ⟨_, _, Routine.attempt_eq hsettle, rfl, hzero htolerated⟩
  | setDhcpOptions buffer buflen =>
      exact ⟨_, _, Routine.attempt_eq (settle_guard rfl hidle), rfl, hzero nofun⟩
  | setDhcpv6Options buffer buflen =>
      exact ⟨_, _, Routine.attempt_eq (settle_guard rfl hidle), rfl, hzero nofun⟩

end

/-! ## The states that calls reach -/

/-- Some call of the library: a start, a stop, a read or a wait in a session, or any operation. -/
inductive CallStep (sys : Platform) : World → World → Prop where
  | session {w w' : World} (h : SessionSteps w w') : CallStep sys w w'
  | operation {w w' : World} {op : Operation} {r : Result}
      (h : (operation sys op).Performs w r w') : CallStep sys w w'

/-- An object that is not started has no handle. -/
def NoHandle (cfg : Tapcfg) : Prop := cfg.started = false → cfg.devHandle = invalidHandleValue

/-- An access that leaves an object without a handle so, unless it sets `started`. -/
def KeepsNoHandle (f : World → Except Fault World) : Prop :=
  ∀ w w', NoHandle w.cfg → f w = .ok w' → NoHandle w'.cfg

/-- A function whose accesses do. -/
abbrev Handling {α : Type} (p : Io α) : Prop := IoUses KeepsNoHandle (fun _ => True) p

section

variable {sys : Platform} {w w' : World} {r : Result}

theorem NoHandle.steady (hw : NoHandle w.cfg) (h : Steady w w') : NoHandle w'.cfg :=
  fun hidle => h.devHandle.trans (hw (h.started.symm.trans hidle))

theorem handling_load : Handling (load : Io World) := by
  refine uses_load fun w w' hw h => ?_
  cases h
  exact hw

theorem handling_modify {f : Tapcfg → Tapcfg} (hf : ∀ cfg, NoHandle cfg → NoHandle (f cfg)) :
    Handling (modify f) := by
  refine uses_modify fun w w' hw h => ?_
  cases h
  exact hf w.cfg hw

/-- The last access of a function that reads. -/
theorem handling_modify_ret {f : Tapcfg → Tapcfg} {ret : Int}
    (hf : ∀ cfg, (f cfg).started = cfg.started ∧ (f cfg).devHandle = cfg.devHandle) :
    Handling ((modify f).bind fun _ => .ret ret) := by
  refine Uses.bind (handling_modify fun cfg hcfg hidle => ?_) fun _ => uses_ret _
  exact (hf cfg).2.trans (hcfg ((hf cfg).1.symm.trans hidle))

theorem handling_startRead : Handling startRead := by
  unfold startRead
  refine Uses.bind (handling_modify ?_) fun _ => handling_load.bind fun w =>
    Uses.bind (uses_call trivial) fun (answer : ReadFileAns) => ?_
  · exact fun _ h => h
  · cases answer with
    | done len => exact handling_modify_ret fun _ => ⟨rfl, rfl⟩
    | pending => exact uses_ret _
    | failed => exact handling_modify_ret fun _ => ⟨rfl, rfl⟩

theorem handling_finishRead (timeout : Nat) (ret : Int) : Handling (finishRead timeout ret) := by
  unfold finishRead
  refine Uses.bind (uses_call trivial) fun (answer : WaitAns) => ?_
  split
  · refine handling_load.bind fun w => Uses.bind (uses_call trivial) fun (got : Option Nat) => ?_
    cases got with
    | none => exact handling_modify_ret fun _ => ⟨rfl, rfl⟩
    | some len => exact handling_modify_ret fun _ => ⟨rfl, rfl⟩
  · exact uses_ret _

theorem handling_waitForData (timeout : Nat) : Handling (tapcfgWaitForData timeout) := by
  have hfirst : ∀ c : Prop, [Decidable c] →
      Handling (if c then startRead else return 0 : Io Int) := by
    intro c _
    split
    · exact handling_startRead
    · exact uses_ret _
  unfold tapcfgWaitForData
  refine handling_load.bind fun w => Uses.unless ?_
  refine (hfirst _).bind fun ret => handling_load.bind fun w => ?_
  split
  · exact handling_finishRead timeout ret
  · exact uses_ret _

theorem handling_waitReadable (msec : Int) : Handling (tapcfgWaitReadable msec) := by
  unfold tapcfgWaitReadable
  refine handling_load.bind fun w => Uses.unless ?_
  exact handling_waitForData _

theorem handling_deliverFrame (count : Int) : Handling (deliverFrame count) := by
  unfold deliverFrame
  refine handling_load.bind fun w => Uses.unless ?_
  refine Uses.bind (uses_update fun w w' hw h => ?_) fun _ => ?_
  · split at h
    · cases h
      exact hw
    · cases h
  · exact handling_modify_ret fun _ => ⟨rfl, rfl⟩

theorem handling_read (count : Int) : Handling (tapcfgRead count) := by
  unfold tapcfgRead
  refine handling_load.bind fun w => Uses.unless ?_
  refine (handling_waitForData infinite).bind fun ready => Uses.unless ?_
  exact handling_deliverFrame count

/-- The handle is written together with `started`. -/
theorem handling_openAdapter (guid : CStr) : Handling (openAdapter guid) := by
  have hR : Opens fun _ => True :=
    ⟨fun _ => trivial, fun _ => trivial, fun _ => trivial, fun _ => trivial⟩
  refine uses_openAdapter hR (fun mac => handling_modify ?_) (fun h => handling_modify ?_) guid
  · exact fun _ h => h
  · intro _ _ hidle
    cases hidle

theorem handling_start (ifname : Option CStr) (fallback : Bool) :
    Handling (tapcfgStart ifname fallback) := by
  unfold tapcfgStart
  refine (uses_fixupAdapters trivial (fun _ => trivial) _ _).bind fun found =>
    Uses.bind (handling_modify ?_) fun _ => Uses.unless ?_
  · exact fun _ h => h
  · exact handling_openAdapter _

theorem noHandle_of_reaches {α : Type} {p : Io α} {a : α} (hp : Handling p)
    (h : Reaches osEnv (p, w) (.ret a, w')) (hw : NoHandle w.cfg) : NoHandle w'.cfg := by
  have hsat : Sat osEnv (fun v => NoHandle v.cfg) (fun _ v => NoHandle v.cfg) (fun _ _ => True)
      p w :=
    sat_of_kept hp (fun f hf v v' hv hvv' => hf v v' hv hvv')
      (fun _ _ _ _ _ hv henv => hv.steady (osEnv_steady henv).1) hw
  exact (hsat.reaches h).2

/-- The handle is closed before `started` is cleared. -/
theorem sat_noHandle_stop (hw : NoHandle w.cfg) :
    Sat osEnv (fun _ => True) (fun _ w' => NoHandle w'.cfg) (fun _ _ => True) tapcfgStop w := by
  unfold tapcfgStop
  refine sat_bind (sat_load trivial ?_)
  cases hstarted : w.cfg.started with
  | false => exact sat_ret trivial hw
  | true =>
      by_cases hhandle : w.cfg.devHandle = invalidHandleValue
      · rw [if_pos rfl, if_neg (not_not_intro hhandle)]
        exact sat_modify trivial trivial fun _ => hhandle
      · rw [if_pos rfl, if_pos hhandle]
        refine sat_bind (sat_call fun _ w₁ _ _ _ => sat_bind (sat_modify trivial trivial ?_))
        exact sat_modify trivial trivial fun _ => rfl

theorem SessionStep.noHandle {opened : Bool} (h : SessionStep w opened w')
    (hw : NoHandle w.cfg) : NoHandle w'.cfg := by
  cases h with
  | reading h =>
      cases h with
      | wait hr => exact noHandle_of_reaches (handling_waitReadable _) hr hw
      | read hr =>
          rename_i v count user
          have hv : NoHandle v.cfg := noHandle_of_reaches (handling_read count) hr hw
          exact hv
      | lapse hl => exact hw.steady (drift_of_lapses hl).steady
  | start hr hfailed => exact noHandle_of_reaches (handling_start _ _) hr hw
  | startOpened hr =>
      rename_i v ifname fallback
      have hv : NoHandle v.cfg := noHandle_of_reaches (handling_start ifname fallback) hr hw
      exact hv
  | stop hr => exact ((sat_noHandle_stop hw).reaches hr).2

theorem looks_waitWritable (msec : Int) : Looks (tapcfgWaitWritable msec) := by
  unfold tapcfgWaitWritable
  exact looks_load.bind fun s => (uses_ret _).unless

theorem looks_write (buf : List Byte) (count : Int) : Looks (tapcfgWrite buf count) := by
  unfold tapcfgWrite
  refine looks_load.bind fun s => Uses.unless ?_
  refine (looks_call _).bind fun (answer : WriteFileAns) => ?_
  cases answer with
  | done len => exact uses_ret _
  | failed => exact uses_ret _
  | pending =>
      refine (looks_call _).bind fun (retval : Nat) => Uses.unless ?_
      exact (looks_call _).bind fun _ => uses_ret _

/-- A request to the driver, which fails or ends the function. -/
theorem looks_tapRequest {c : TapCall} {failed : c.Ans → Prop} {_ : DecidablePred failed}
    {x y : Int} :
    Looks ((.call c .ret : TapIo c.Ans).bind fun a => if failed a then .ret x else .ret y) :=
  (looks_call c).bind fun _ => (uses_ret y).unless

theorem looks_setHwaddr (hwaddr : List Byte) (length : Int) :
    Looks (tapcfgIfaceSetHwaddr hwaddr length) := by
  unfold tapcfgIfaceSetHwaddr
  refine looks_load.bind fun cfg => Uses.unless (Uses.unless ?_)
  exact uses_ret _

theorem looks_getMtu : Looks tapcfgIfaceGetMtu := by
  unfold tapcfgIfaceGetMtu
  refine looks_load.bind fun cfg => Uses.unless ?_
  refine (looks_call _).bind fun (mtu : Option Nat) => ?_
  cases mtu with
  | none => exact uses_ret _
  | some mtu => exact uses_ret _

theorem looks_setMtu (mtu : Int) : Looks (tapcfgIfaceSetMtu mtu) := by
  unfold tapcfgIfaceSetMtu
  refine looks_load.bind fun cfg => Uses.unless (Uses.unless ?_)
  exact uses_ret _

theorem looks_setIpv4 (order : Endian) (addrstr : CStr) (netbits : Byte) :
    Looks (tapcfgIfaceSetIpv4 order addrstr netbits) := by
  unfold tapcfgIfaceSetIpv4
  refine looks_load.bind fun cfg => Uses.unless (Uses.unless ?_)
  exact looks_tapRequest.unless

theorem looks_setIpv6 (getaddrinfo : CStr → Option (List Byte)) (addrstr : CStr)
    (netbits : Byte) (haveGetaddrinfo : Bool) :
    Looks (tapcfgIfaceSetIpv6 haveGetaddrinfo getaddrinfo addrstr netbits) := by
  unfold tapcfgIfaceSetIpv6
  split
  · refine looks_load.bind fun cfg => Uses.unless (Uses.unless ?_)
    split
    · exact uses_ret _
    · exact looks_tapRequest
  · exact uses_ret _

theorem looks_setDhcpOptions (buffer : List Byte) (buflen : Int) :
    Looks (tapcfgIfaceSetDhcpOptions buffer buflen) := by
  unfold tapcfgIfaceSetDhcpOptions
  exact looks_load.bind fun cfg => looks_tapRequest.unless

theorem looks_setDhcpv6Options (buffer : List Byte) (buflen : Int) :
    Looks (tapcfgIfaceSetDhcpv6Options buffer buflen) := by
  unfold tapcfgIfaceSetDhcpv6Options
  exact looks_load.bind fun cfg => looks_tapRequest.unless

theorem reading_noHandle {user : World → List Byte} {p : Io Int} (hp : Handling p)
    (h : (reading user p).Performs w r w') (hw : NoHandle w.cfg) : NoHandle w'.cfg := by
  obtain ⟨ret, t, hr, -, rfl⟩ := h
  exact noHandle_of_reaches hp hr hw

theorem looking_cfg {look : Tapcfg → Result} (h : (looking look).Performs w r w') :
    w'.cfg = w.cfg := by
  obtain ⟨cfg, hcfg, rfl⟩ := h.unmoved id (looks_load.bind fun _ => uses_ret _)
    fun _ _ _ _ henv => henv
  exact hcfg

theorem sending_cfg {p : WriteIo Int} (hp : Looks p) (h : (sending p).Performs w r w') :
    w'.cfg = w.cfg := by
  obtain ⟨s, hs, rfl⟩ := h.unmoved Writer.cfg hp fun _ _ _ _ henv => henv
  exact hs

theorem asking_cfg {p : TapIo Int} (hp : Looks p) (h : (asking p).Performs w r w') :
    w'.cfg = w.cfg := by
  obtain ⟨cfg, hcfg, rfl⟩ := h.unmoved id hp fun _ _ _ _ henv => henv
  exact hcfg

/-- The status is neither `started` nor the handle. -/
theorem setStatus_noHandle {flags : Int}
    (h : (asking (tapcfgIfaceSetStatus flags)).Performs w r w') (hw : NoHandle w.cfg) :
    NoHandle w'.cfg := by
  obtain ⟨ret, cfg, hcfg, -, rfl⟩ :=
    h.of_sat (sat_tapcfgIfaceSetStatus (F := fun _ _ => True) flags)
  rcases hcfg with ⟨-, rfl⟩ | ⟨-, rfl⟩
  · exact hw
  · exact hw

/-- No operation starts or stops the device. -/
theorem operation_noHandle {op : Operation} (h : (operation sys op).Performs w r w')
    (hw : NoHandle w.cfg) : NoHandle w'.cfg := by
  have hcfg : w'.cfg = w.cfg → NoHandle w'.cfg := fun heq => by rwa [heq]
  cases op with
  | getFd => exact hcfg (looking_cfg h)
  | waitReadable msec => exact reading_noHandle (handling_waitReadable msec) h hw
  | read buf count => exact reading_noHandle (handling_read count) h hw
  | waitWritable msec => exact hcfg (sending_cfg (looks_waitWritable msec) h)
  | write buf count => exact hcfg (sending_cfg (looks_write buf count) h)
  | getIfname => exact hcfg (looking_cfg h)
  | getHwaddr => exact hcfg (looking_cfg h)
  | setHwaddr hwaddr length => exact hcfg (asking_cfg (looks_setHwaddr hwaddr length) h)
  | setStatus flags => exact setStatus_noHandle h hw
  | getMtu => exact hcfg (asking_cfg looks_getMtu h)
  | setMtu mtu => exact hcfg (asking_cfg (looks_setMtu mtu) h)
  | setIpv4 addrstr netbits => exact hcfg (asking_cfg (looks_setIpv4 _ addrstr netbits) h)
  | setIpv6 addrstr netbits => exact hcfg (asking_cfg (looks_setIpv6 _ addrstr netbits _) h)
  | setDhcpOptions buffer buflen =>
      exact hcfg (asking_cfg (looks_setDhcpOptions buffer buflen) h)
  | setDhcpv6Options buffer buflen =>
      exact hcfg (asking_cfg (looks_setDhcpv6Options buffer buflen) h)

theorem CallStep.noHandle (h : CallStep sys w w') (hw : NoHandle w.cfg) : NoHandle w'.cfg := by
  cases h with
  | session h =>
      obtain ⟨opened, h⟩ := h
      exact h.noHandle hw
  | operation h => exact operation_noHandle h hw

/-- In every reachable state: the operations on a device that is not started fail as is
documented, but for those that return zero. -/
theorem operation_refuses (hos : sys.osfhandle invalidHandleValue < 0)
    (h : Runs World.Initial (CallStep sys) w) (hidle : w.cfg.started = false) (op : Operation) :
    (operation sys op).Refuses op.Fails World.fields w ↔ toleratesIdle sys op = false := by
  have hw : NoHandle w.cfg := by
    refine h.invariant (I := fun w => NoHandle w.cfg) (fun w hw _ => ?_)
      fun _ _ hw hstep => hstep.noHandle hw
    rw [hw.cfg]
    rfl
  rw [← hw hidle] at hos
  obtain ⟨r, w', hattempt, hfields, hfails⟩ := operation_attempt op hidle hos
  rw [Routine.refuses_iff hattempt, hfails]
  exact and_iff_left hfields

end

end TapCfg.Windows
