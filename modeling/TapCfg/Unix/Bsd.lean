/-
  Unix/Bsd.lean --- `tapcfg_start_dev` on the BSDs.

  Source: src/lib/tapcfg_unix_bsd.h, lines 24-117.

  Without a usable name NetBSD opens the cloning device and asks which one it
  has got; the others try the device nodes one after another.  The NetBSD exit
  taken when the question fails does not close the device.
-/
import TapCfg.Unix.Types

set_option autoImplicit false

namespace TapCfg.Unix.Bsd

open TapCfg.Foundation
open Prog

/-- The device that is open, -1 for none, and its name. -/
abbrev Found : Type := Int × CStr

/-- The device of the configured name. -/
def openConfigured (ifname : CStr) : Io Found := do
  if ifname.length ≤ maxIfname ∧ ' ' ∉ ifname then
    let tapFd ← openDev ("/dev/".toList ++ ifname)
    return (tapFd, ifname)
  return (-1, [])

/-- The NetBSD search; `none` is the early `return -1`. -/
def cloneDevice : Io (Option Found) := do
  let tapFd ← openDev "/dev/tap".toList
  if 0 ≤ tapFd then
    let reply ← ioctl tapFd (.tapgifname {})
    if reply.ret = -1 then return none
    return some (tapFd, reply.ifr.name)
  return some (tapFd, [])

/-- The search of the others: `n` device nodes from the `i`-th on. -/
def tryDevices : Nat → Nat → Io Found
  | 0, _ => return (-1, [])
  | n + 1, i => do
      let tapFd ← openDev ("/dev/tap".toList ++ Nat.toDigits 10 i)
      if 0 ≤ tapFd then return (tapFd, "tap".toList ++ Nat.toDigits 10 i)
      tryDevices n (i + 1)

/-- Another device than the configured one. -/
def findOther : Bool → Io (Option Found)
  | true => cloneDevice
  | false => do
      let found ← tryDevices 16 0
      return some found

/-- The `for` over the result of `getifaddrs`: the last match counts. -/
def linkAddress (ifa : List Ifaddr) (cfg : Tapcfg) : List Byte :=
  ifa.foldl (fun hwaddr curr =>
    match curr.link with
    | some addr => if curr.name = cfg.ifname then addr.take hwaddrlen else hwaddr
    | none => hwaddr) cfg.hwaddr

/-- `tapcfg_start_dev` -/
def tapcfgStartDev (netbsd : Bool) (ifname : CStr) (fallback : Bool) : Io Int := do
  -- If we have a configured interface name, try that first
  let first ← openConfigured ifname
  let found ← (
    if first.1 < 0 ∧ fallback = true then findOther netbsd else return some first :
      Io (Option Found))
  match found with
  | none => return -1
  | some (tapFd, buf) =>
      if tapFd < 0 then return -1
      -- Set the device name to be the one we found finally
      modify fun cfg => { cfg with ifname := buf.take maxIfname }
      -- Get MAC address on BSD, slightly trickier than Linux
      let ifa ← getifaddrs
      match ifa with
      | some ifa => modify fun cfg => { cfg with hwaddr := linkAddress ifa cfg }
      | none => pure ()
      return tapFd

/-- `tapcfg_stop_dev` -/
def tapcfgStopDev : Io Unit := return ()

/-- The cloning device tells its name. -/
def CloneNamed : Allows
  | ⟨.ioctl _ (.tapgifname _), reply⟩ => ¬ Reply.ret reply = -1
  | _ => True

/-! ## What is open -/

section

variable {L : Allows} {w : World}

/-- What a search leaves: nothing but the device it has opened. -/
structure Opened (w : World) (found : Found) (w' : World) : Prop where
  same : Unmodified w w'
  result : found.1 = -1 ∨ 0 ≤ found.1
  holds : Holds [found.1] w'.hist

theorem sat_openConfigured (ifname : CStr) (hw : Holds [-1] w.hist) :
    Sat (osEnv L) (fun _ => True) (Opened w) (fun _ _ => False) (openConfigured ifname) w := by
  unfold openConfigured
  split
  · refine sat_bind (sat_openDev [] [] hw fun tapFd w₁ htap h₁ hw₁ => ?_)
    exact sat_ret trivial ⟨h₁, htap, hw₁⟩
  · exact sat_ret trivial ⟨rfl, .inl rfl, hw⟩

theorem sat_cloneDevice (hL : ∀ e, L e → CloneNamed e) (hw : Holds [-1] w.hist) :
    Sat (osEnv L) (fun _ => True) (fun found w' => ∃ f, found = some f ∧ Opened w f w')
      (fun _ _ => False) cloneDevice w := by
  unfold cloneDevice
  refine sat_bind (sat_openDev [] [] hw fun tapFd w₁ htap h₁ hw₁ => ?_)
  split
  · refine sat_bind (sat_ioctl hw₁ fun reply w₂ _ hnamed h₂ hw₂ => ?_)
    have hret : ¬ reply.ret = -1 := hL _ hnamed
    rw [if_neg hret]
    exact sat_ret trivial ⟨_, rfl, h₂.trans h₁, htap, hw₂⟩
  · exact sat_ret trivial ⟨_, rfl, h₁, htap, hw₁⟩

theorem sat_tryDevices (n i : Nat) (hw : Holds [-1] w.hist) :
    Sat (osEnv L) (fun _ => True) (Opened w) (fun _ _ => False) (tryDevices n i) w := by
  induction n generalizing i w with
  | zero => exact sat_ret trivial ⟨rfl, .inl rfl, hw⟩
  | succ n ih =>
      unfold tryDevices
      refine sat_bind (sat_openDev [] [] hw fun tapFd w₁ htap h₁ hw₁ => ?_)
      split
      · exact sat_ret trivial ⟨h₁, htap, hw₁⟩
      · have hnone : tapFd = -1 := htap.resolve_right ‹_›
        refine (ih (i + 1) (hnone ▸ hw₁)).post fun found w₂ hfound => ?_
        exact ⟨hfound.same.trans h₁, hfound.result, hfound.holds⟩

theorem sat_findOther (netbsd : Bool) (hL : netbsd = true → ∀ e, L e → CloneNamed e)
    (hw : Holds [-1] w.hist) :
    Sat (osEnv L) (fun _ => True) (fun found w' => ∃ f, found = some f ∧ Opened w f w')
      (fun _ _ => False) (findOther netbsd) w := by
  cases netbsd with
  | true => exact sat_cloneDevice (hL rfl) hw
  | false =>
      refine sat_seq (sat_tryDevices 16 0 hw) fun found w' hfound => ?_
      exact sat_ret trivial ⟨found, rfl, hfound⟩

/-- The name and the address are read into the object only when a device is open. -/
theorem startDev_spec (netbsd : Bool) (hL : netbsd = true → ∀ e, L e → CloneNamed e)
    (ifname : CStr) (fallback : Bool) (hw : Holds [] w.hist) :
    Sat (osEnv L) (fun _ => True) (DevStarted (fun _ => []) w) (fun _ _ => False)
      (tapcfgStartDev netbsd ifname fallback) w := by
  have hempty : Holds [-1] w.hist := hw.of_slots (by simp)
  unfold tapcfgStartDev
  refine sat_seq (sat_openConfigured ifname hempty) fun first w₁ hfirst => ?_
  have hfound : Sat (osEnv L) (fun _ => True) (fun found w' => ∃ f, found = some f ∧ Opened w f w')
      (fun _ _ => False)
      (if first.1 < 0 ∧ fallback = true then findOther netbsd else .ret (some first)) w₁ := by
    split
    · have hnone : first.1 = -1 := by
        rcases hfirst.result with h | h
        · exact h
        · omega
      refine (sat_findOther netbsd hL (hnone ▸ hfirst.holds)).post fun found w₂ => ?_
      rintro ⟨f, hf, hopened⟩
      exact ⟨f, hf, hopened.same.trans hfirst.same, hopened.result, hopened.holds⟩
    · exact sat_ret trivial ⟨first, rfl, hfirst⟩
  refine sat_seq hfound fun found w₂ => ?_
  rintro ⟨⟨tapFd, buf⟩, rfl, h₂, htap, hw₂⟩
  have hkept₂ : Kept w.cfg w₂.cfg := h₂ ▸ .refl _
  dsimp only at htap hw₂ ⊢
  split
  · have hnone : tapFd = -1 := htap.resolve_right (by omega)
    exact sat_ret trivial (.failed hkept₂ hw₂ (by simp [hnone]))
  · have hopen : 0 ≤ tapFd := by omega
    refine sat_bind (sat_modify ?_)
    refine sat_bind (sat_getifaddrs hw₂ fun ifa w₃ h₃ hw₃ => ?_)
    have hkept₃ : Kept w.cfg w₃.cfg := hkept₂.trans (h₃ ▸ ⟨rfl, rfl, rfl, rfl⟩)
    cases ifa with
    | none => exact sat_ret trivial ⟨hkept₃, .inr ⟨hopen, by simp, hw₃⟩⟩
    | some ifa =>
        refine sat_bind (sat_modify (sat_ret trivial ⟨?_, .inr ⟨hopen, by simp, hw₃⟩⟩))
        exact hkept₃.trans ⟨rfl, rfl, rfl, rfl⟩

/-- `tapcfg_stop_dev` has nothing to clean up. -/
theorem stopDev_spec {Q : Unit → World → Prop} (hQ : Q () w) :
    Sat (osEnv L) (fun _ => True) Q (fun _ _ => False) tapcfgStopDev w := sat_ret trivial hQ

end

end TapCfg.Unix.Bsd
