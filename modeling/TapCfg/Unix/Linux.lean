/-
  Unix/Linux.lean --- `tapcfg_start_dev` on Linux.

  Source: src/lib/tapcfg_unix_linux.h, lines 19-95.

  The temporary socket is tested against 0 and not against -1.  A failed one
  goes through to the `ioctl` on it, which fails; but a socket that really has
  descriptor 0 is taken for a failed one, and stays open.
-/
import TapCfg.Unix.Types

set_option autoImplicit false

namespace TapCfg.Unix.Linux

open TapCfg.Foundation
open Prog

/-- `IFF_TAP | IFF_NO_PI` -/
def iffTapNoPi : Nat := 0x0002 ||| 0x1000

/-- `tapcfg_start_dev` -/
def tapcfgStartDev (ifname : CStr) (fallback : Bool) : Io Int := do
  -- Create a new tap device
  let tapFd ← openDev "/dev/net/tun".toList
  if tapFd = -1 then return -1
  let named : Ifreq := {
    flags := iffTapNoPi
    name := if ifname.length < ifnamsiz then ifname.take (ifnamsiz - 1) else [] }
  let first ← ioctl tapFd (.tunsetiff named)
  let reply ← (
    if first.ret = -1 ∧ first.errno = .einval ∧ fallback = true then
      -- Try again without device name
      ioctl tapFd (.tunsetiff { flags := iffTapNoPi })
    else pure first : Io Reply)
  if reply.ret = -1 then
    close tapFd
    return -1
  -- Set the device name to be the one we got from OS
  modify fun cfg => { cfg with ifname := reply.ifr.name.take ifnamsiz }
  -- Create a temporary socket for SIOCGIFHWADDR
  let s ← socket .temporary
  if s = 0 then
    close tapFd
    return -1
  -- Get the hardware address of the TAP interface
  let w ← load
  let hw ← ioctl s (.siocgifhwaddr { name := w.cfg.ifname })
  if hw.ret = -1 then
    close tapFd
    close s
    return -1
  modify fun cfg => { cfg with hwaddr := hw.ifr.hwaddr.take hwaddrlen }
  close s
  return tapFd

/-- `tapcfg_stop_dev` -/
def tapcfgStopDev : Io Unit := return ()

/-- The temporary socket does not get descriptor 0. -/
def TemporaryNonzero : Allows
  | ⟨.socket .temporary, fd⟩ => ¬ fd = (0 : Int)
  | _ => True

theorem startDev_spec {L : Allows} (hL : ∀ e, L e → TemporaryNonzero e) (ifname : CStr)
    (fallback : Bool) {w : World} (hw : Holds [] w.hist) :
    Sat (osEnv L) (fun _ => True) (DevStarted (fun _ => []) w) (fun _ _ => False)
      (tapcfgStartDev ifname fallback) w := by
  unfold tapcfgStartDev
  have hempty : Holds ([] ++ -1 :: [-1]) w.hist := hw.of_slots (by simp)
  refine sat_bind (sat_openDev [] [-1] hempty fun tapFd w₁ htap h₁ hw₁ => ?_)
  by_cases hopen : tapFd = -1
  · rw [if_pos hopen]
    exact sat_ret trivial (.failed (h₁ ▸ .refl _) hw₁ (by simp [hopen]))
  rw [if_neg hopen]
  refine sat_bind (sat_ioctl hw₁ fun first w₂ _ _ h₂ hw₂ => ?_)
  -- whether or not the device is asked for again without its name
  refine sat_bind (sat_ite_ioctl hw₂ fun reply w₃ h₃ hw₃ => ?_)
  have hkept₃ : Kept w.cfg w₃.cfg := (h₃.trans (h₂.trans h₁)) ▸ .refl _
  split
  · refine sat_bind (sat_close [] [-1] hw₃ fun w₄ h₄ hw₄ => ?_)
    exact sat_ret trivial (.failed (h₄ ▸ hkept₃) hw₄ (by simp))
  refine sat_bind (sat_modify ?_)
  refine sat_bind (sat_socket [tapFd] [] hw₃ fun s w₄ hs hnonzero h₄ hw₄ => ?_)
  have hkept₄ : Kept w.cfg w₄.cfg := hkept₃.trans (h₄ ▸ ⟨rfl, rfl, rfl, rfl⟩)
  have hs₀ : ¬ s = 0 := hL _ hnonzero
  rw [if_neg hs₀]
  refine sat_bind (sat_load trivial ?_)
  refine sat_bind (sat_ioctl hw₄ fun hwaddr w₅ _ _ h₅ hw₅ => ?_)
  have hkept₅ : Kept w.cfg w₅.cfg := hkept₄.trans (h₅ ▸ .refl _)
  split
  · refine sat_bind (sat_close [] [s] hw₅ fun w₆ h₆ hw₆ => ?_)
    refine sat_bind (sat_close [-1] [] hw₆ fun w₇ h₇ hw₇ => ?_)
    exact sat_ret trivial (.failed ((h₇.trans h₆) ▸ hkept₅) hw₇ (by simp))
  · refine sat_bind (sat_modify ?_)
    refine sat_bind (sat_close [tapFd] [] hw₅ fun w₆ h₆ hw₆ => ?_)
    have hkept₆ : Kept w.cfg w₆.cfg := hkept₅.trans (h₆ ▸ ⟨rfl, rfl, rfl, rfl⟩)
    refine sat_ret trivial ⟨hkept₆, .inr ⟨htap.resolve_left hopen, by simp, ?_⟩⟩
    exact hw₆.of_slots (by simp)

/-- `tapcfg_stop_dev` has nothing to clean up. -/
theorem stopDev_spec {L : Allows} {w : World} {Q : Unit → World → Prop} (hQ : Q () w) :
    Sat (osEnv L) (fun _ => True) Q (fun _ _ => False) tapcfgStopDev w := sat_ret trivial hQ

end TapCfg.Unix.Linux
