/-
  Api/Refusals.lean --- what the operations do on a device that is not started.

  Source: src/include/tapcfg.h, lines 88-104, src/lib/tapcfg_unix.c, lines
  169-526, and src/lib/tapcfg_windows.c, lines 229-685.

  The functions that ask for a frame, a name or an address fail then.  Of those
  that configure the interface some have nothing to do, and return zero, as if
  they had done it: on Unix those of the status, the MTU and the IPv4 address,
  on Windows those of the MTU, of the addresses and of the DHCP options.
-/
import TapCfg.Unix.Operations
import TapCfg.Windows.Operations

set_option autoImplicit false

namespace TapCfg.Api

open TapCfg.Foundation

/-- In every reachable state of a device that is not started, an operation fails as is
documented just when it is not one of those that return zero: nothing is asked of the
system, no field changes, and the result says that it has failed.  `_open_osfhandle` has no
descriptor for a handle that is invalid. -/
theorem refusals_documented {b : Unix.Backend} {defines : Unix.BsdDefines}
    {sys : Unix.AddrSystem} {platform : Windows.Platform} {s : Unix.Reader} {w : Windows.World}
    (hs : Runs Unix.Reader.Initial (Unix.CallStep b defines sys) s)
    (hsidle : s.cfg.started = false)
    (hos : platform.osfhandle Windows.invalidHandleValue < 0)
    (hw : Runs Windows.World.Initial (Windows.CallStep platform) w)
    (hwidle : w.cfg.started = false) (op : Operation) :
    ((Unix.operation b defines sys op).Refuses op.Fails Unix.Reader.fields s ↔
      Unix.toleratesIdle op = false) ∧
    ((Windows.operation platform op).Refuses op.Fails Windows.World.fields w ↔
      Windows.toleratesIdle platform op = false) :=
  ⟨Unix.operation_refuses hs hsidle op, Windows.operation_refuses hos hw hwidle op⟩

/-- A platform without IPv6. -/
def plainPlatform : Windows.Platform where
  order := .little
  haveGetaddrinfo := false
  getaddrinfo _ := none
  osfhandle h := if h < 0 then -1 else 3

/-- A device that has been started and stopped. -/
theorem refusals_documented_stopped :
    (Unix.operation .linux Unix.freebsd Unix.littleSystem .getFd).Refuses Operation.getFd.Fails
      Unix.Reader.fields (Unix.closed Unix.firstReader) ∧
    (Windows.operation plainPlatform .getFd).Refuses Operation.getFd.Fails
      Windows.World.fields (Windows.afterStop Windows.startedWorld.opened) := by
  have hunix : Runs Unix.Reader.Initial
      (Unix.CallStep .linux Unix.freebsd Unix.littleSystem) (Unix.closed Unix.firstReader) := by
    have h₀ : Runs Unix.Reader.Initial
        (Unix.CallStep .linux Unix.freebsd Unix.littleSystem) Unix.initialReader :=
      .start Unix.initialReader_initial
    exact (h₀.next (.session Unix.firstReader_step)).next
      (.session (Unix.closed_step (by decide +kernel)))
  have hwindows : Runs Windows.World.Initial (Windows.CallStep plainPlatform)
      (Windows.afterStop Windows.startedWorld.opened) := by
    have h₀ : Runs Windows.World.Initial (Windows.CallStep plainPlatform)
        Windows.startedWorld.opened :=
      Windows.start_step fun _ _ hs _ => .session ⟨true, hs⟩
    have hrun : (Windows.tapcfgStop.run (Windows.supplying ⟨Windows.oneAdapter, none, none⟩)
        Windows.startedWorld.opened).1 = .ok () := by decide +kernel
    have hstop : Windows.SessionSteps Windows.startedWorld.opened
        (Windows.afterStop Windows.startedWorld.opened) :=
      ⟨false, .stop (Prog.reaches_run (Windows.supplying_follows _) (Prod.ext hrun rfl))⟩
    exact h₀.next (.session hstop)
  have hboth := refusals_documented hunix (by decide +kernel) (by decide) hwindows
    (by decide +kernel) .getFd
  exact ⟨hboth.1.mpr rfl, hboth.2.mpr rfl⟩

/-- On an object that has just been made, the MTU is set without an error. -/
theorem refusals_missing :
    (∃ s, Runs Unix.Reader.Initial
        (Unix.CallStep .linux Unix.freebsd Unix.littleSystem) s ∧ s.cfg.started = false ∧
      ¬ (Unix.operation .linux Unix.freebsd Unix.littleSystem (.setMtu 1500)).Refuses
        (Operation.setMtu 1500).Fails Unix.Reader.fields s) ∧
    ∃ w, Runs Windows.World.Initial (Windows.CallStep plainPlatform) w ∧
      w.cfg.started = false ∧
      ¬ (Windows.operation plainPlatform (.setMtu 1500)).Refuses
        (Operation.setMtu 1500).Fails Windows.World.fields w := by
  have hzero : ∀ {Obj Fields : Type} {p : Routine Obj Result} {fields : Obj → Fields} {s s' : Obj},
      p.attempt s = some (.number 0, s') → ¬ p.Refuses (Operation.setMtu 1500).Fails fields s :=
    fun h hrefuses => not_negative_zero ((Routine.refuses_iff h).mp hrefuses).1
  refine ⟨⟨Unix.initialReader, .start Unix.initialReader_initial, rfl, ?_⟩,
    Windows.initialWorld, .start ⟨rfl, rfl, rfl, rfl⟩, rfl, ?_⟩
  · exact hzero (Routine.attempt_eq rfl)
  · exact hzero (Routine.attempt_eq rfl)

end TapCfg.Api
