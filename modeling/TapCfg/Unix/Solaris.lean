/-
  Unix/Solaris.lean --- plumbing a device on Solaris, and taking it down.

  Source: src/lib/tapcfg_unix_solaris.h, lines 25-360.

  `tapcfg_plumb_device` keeps its descriptors and multiplexer ids in locals, -1
  while there is none, and goes to one exit on every failure.  `Locals` are these
  locals and `plumbError` is that exit.  `tapcfg_stop_dev` returns at the first
  request that fails, before it closes what it should.

  `PlumbInv` lists what an assertion about the locals must survive on the way
  through `tapcfg_plumb_device`, and `UndoInv` on the way out; `PlumbInv.sat` and
  `UndoInv.sat` are the two walks, each made once.
-/
import TapCfg.Unix.Types

set_option autoImplicit false

namespace TapCfg.Unix.Solaris

open TapCfg.Foundation
open Prog

/-! ## `strtol` -/

/-- `isspace` -/
def isSpace (c : Char) : Bool := c ∈ [' ', '\t', '\n', '\x0b', '\x0c', '\r']

/-- The value of decimal digits. -/
def ofDigits (ds : CStr) : Int := ds.foldl (fun n d => 10 * n + (d.toNat - '0'.toNat)) 0

/-- A number that does not fit a `long` is the nearest one that does. -/
def clampLong (n : Int) : Int := max (-0x8000000000000000) (min n 0x7fffffffffffffff)

/-- `strtol` with base 10: the number, and where it ends. -/
def strtol (s : CStr) : Int × CStr :=
  let body := s.dropWhile isSpace
  let unsigned := match body with
    | '-' :: t => t
    | '+' :: t => t
    | t => t
  let ds := unsigned.takeWhile Char.isDigit
  if ds = [] then (0, s)
  else
    let n := if body.head? = some '-' then - ofDigits ds else ofDigits ds
    (clampLong n, unsigned.dropWhile Char.isDigit)

/-- The conversion of a `long` to an `int`. -/
def toInt (n : Int) : Int := n.bmod 0x100000000

/-! ## The program -/

/-- The locals of `tapcfg_plumb_device`. -/
structure Locals where
  tapFd : Int := -1
  ipFd : Int := -1
  ip6Fd : Int := -1
  ifFd : Int := -1
  arpFd : Int := -1
  ipMuxid : Int := -1
  arpMuxid : Int := -1
  ip6Muxid : Int := -1
  deriving DecidableEq, Repr

/-- What `tapcfg_plumb_device` returns, with what it stores for its caller. -/
structure Plumbed where
  newppa : Int := -1
  tapFd : Int := -1
  ipFd : Int := -1
  ip6Fd : Int := -1
  deriving DecidableEq, Repr

def ipNode : CStr := "/dev/udp".toList

def ip6Node : CStr := "/dev/udp6".toList

def tapNode : CStr := "/dev/tap".toList

/-- `ARP_NODE`, the same as `TAP_NODE` -/
def arpNode : CStr := "/dev/tap".toList

def iffBroadcast : Nat := 0x2

def iffIpv4 : Nat := 0x01000000

def iffIpv6 : Nat := 0x02000000

/-- `tap%d` -/
def tapName (ppa : Int) : CStr := "tap".toList ++ (toString ppa).toList

/-- Do it unless the value is -1. -/
def unlessNone (n : Int) (p : Io Unit) : Io Unit := if n ≠ -1 then p else .ret ()

/-- The `error:` exit of `tapcfg_plumb_device`. -/
def plumbError (v : Locals) : Io Plumbed := do
  unlessNone v.arpMuxid do let _ ← ioctl v.ipFd (.punlink v.arpMuxid)
  unlessNone v.ipMuxid do let _ ← ioctl v.ipFd (.punlink v.ipMuxid)
  unlessNone v.ip6Muxid do let _ ← ioctl v.ip6Fd (.punlink v.ip6Muxid)
  unlessNone v.arpFd (close v.arpFd)
  unlessNone v.ifFd (close v.ifFd)
  unlessNone v.ipFd (close v.ipFd)
  unlessNone v.ip6Fd (close v.ip6Fd)
  unlessNone v.tapFd (close v.tapFd)
  return {}

/-- `tapcfg_plumb_device` -/
def tapcfgPlumbDevice (ppa : Int) : Io Plumbed := do
  let v : Locals := {}
  let ipFd ← openDev ipNode
  let v := { v with ipFd := ipFd }
  if ipFd < 0 then return ← plumbError v
  let ip6Fd ← openDev ip6Node
  let v := { v with ip6Fd := ip6Fd }
  if ip6Fd < 0 then return ← plumbError v
  let tapFd ← openDev tapNode
  let v := { v with tapFd := tapFd }
  if tapFd < 0 then return ← plumbError v
  let newppa ← ioctl tapFd (.tunnewppa ppa)
  if newppa.ret = -1 then return ← plumbError v
  let ifname := tapName newppa.ret
  -- Setup IPv4 connectivity!
  let ifFd ← openDev tapNode
  let v := { v with ifFd := ifFd }
  if ifFd < 0 then return ← plumbError v
  let pushed ← ioctl ifFd (.push "ip".toList)
  if pushed.ret < 0 then return ← plumbError v
  let flags ← ioctl ifFd (.siocglifflags {})
  if flags.ret = -1 then return ← plumbError v
  let lifr := { flags.lifr with name := ifname, ppa := ppa }
  let named ← ioctl ifFd (.siocslifname lifr)
  if named.ret = -1 then return ← plumbError v
  let pushed ← ioctl ifFd (.push "arp".toList)
  if pushed.ret = -1 then return ← plumbError v
  -- Push arp module to ip_fd
  let _ ← ioctl ipFd .pop
  let pushed ← ioctl ipFd (.push "arp".toList)
  if pushed.ret < 0 then return ← plumbError v
  let arpFd ← openDev arpNode
  let v := { v with arpFd := arpFd }
  if arpFd < 0 then return ← plumbError v
  let pushed ← ioctl arpFd (.push "arp".toList)
  if pushed.ret = -1 then return ← plumbError v
  let set ← ioctl arpFd (.strSiocslifname named.lifr)
  if set.ret = -1 then return ← plumbError v
  let linked ← ioctl ipFd (.plink ifFd)
  let v := { v with ipMuxid := linked.ret }
  if linked.ret = -1 then return ← plumbError v
  close ifFd
  let v := { v with ifFd := -1 }
  let linked ← ioctl ipFd (.plink arpFd)
  let v := { v with arpMuxid := linked.ret }
  if linked.ret = -1 then return ← plumbError v
  close arpFd
  let v := { v with arpFd := -1 }
  let muxid ← ioctl ipFd
    (.siocslifmuxid { name := ifname, ipMuxid := v.ipMuxid, arpMuxid := v.arpMuxid })
  if muxid.ret < 0 then return ← plumbError v
  -- Setup IPv6 connectivity!
  let ifFd ← openDev tapNode
  let v := { v with ifFd := ifFd }
  if ifFd < 0 then return ← plumbError v
  let pushed ← ioctl ifFd (.push "ip".toList)
  if pushed.ret < 0 then return ← plumbError v
  let flags ← ioctl ifFd (.siocglifflags {})
  if flags.ret = -1 then return ← plumbError v
  let named ← ioctl ifFd (.siocslifname { flags.lifr with
    name := ifname
    flags := (flags.lifr.flags ||| iffIpv6) &&& (0xffffffffffffffff ^^^ (iffBroadcast ||| iffIpv4))
    ppa := ppa })
  if named.ret = -1 then return ← plumbError v
  let linked ← ioctl ip6Fd (.plink ifFd)
  let v := { v with ip6Muxid := linked.ret }
  if linked.ret = -1 then return ← plumbError v
  close ifFd
  let v := { v with ifFd := -1 }
  let muxid ← ioctl ip6Fd (.siocslifmuxid { name := ifname, ipMuxid := v.ip6Muxid })
  if muxid.ret < 0 then return ← plumbError v
  -- Return the results
  return { newppa := newppa.ret, tapFd := tapFd, ipFd := ipFd, ip6Fd := ip6Fd }

/-- The `for` of `tapcfg_start_dev` over the other devices: `n` of them from the
`i`-th on; `none` when none could be plumbed. -/
def plumbOther (ppa : Int) : Nat → Nat → Io (Option Plumbed)
  | 0, _ => return none
  | n + 1, i => do
      if (i : Int) = ppa then
        return ← plumbOther ppa n (i + 1)
      let plumbed ← tapcfgPlumbDevice i
      if 0 ≤ plumbed.newppa then return some plumbed
      plumbOther ppa n (i + 1)

/-- The `ppa` of a device name; `none` when the name has none and no other device will do. -/
def namedPpa (ifname : CStr) (fallback : Bool) : Option Int :=
  if ifname.take 3 ≠ "tap".toList then
    if fallback then some 0 else none
  else
    let parsed := strtol (ifname.drop 3)
    if parsed.2 ≠ [] then
      if fallback then some 0 else none
    else some (toInt parsed.1)

/-- The device of the name, or another one. -/
def plumbNamed (ppa : Int) (fallback : Bool) : Io (Option Plumbed) := do
  let plumbed ← tapcfgPlumbDevice ppa
  if plumbed.newppa = -1 ∧ fallback = false then return none
  if plumbed.newppa = -1 then return ← plumbOther ppa 16 0
  return some plumbed

/-- `tapcfg_start_dev` -/
def tapcfgStartDev (ifname : CStr) (fallback : Bool) : Io Int := do
  match namedPpa ifname fallback with
  | none => return -1
  | some ppa =>
      let plumbed ← plumbNamed ppa fallback
      match plumbed with
      | none => return -1
      | some plumbed =>
          -- Set the device name to be the one we found finally
          modify fun cfg => { cfg with ifname := (tapName plumbed.newppa).take (maxIfname - 1) }
          let addr ← dlpiGetPhysaddr plumbed.tapFd
          match addr with
          | some addr =>
              modify fun cfg => { cfg with hwaddr := addr ++ cfg.hwaddr.drop addr.length }
          | none => pure ()
          modify fun cfg => { cfg with ipFd := plumbed.ipFd, ip6Fd := plumbed.ip6Fd }
          return plumbed.tapFd

/-- `tapcfg_stop_dev` -/
def tapcfgStopDev : Io Unit := do
  let w ← load
  assert (0 ≤ w.cfg.ipFd)
  assert (0 ≤ w.cfg.ip6Fd)
  let ipFd := w.cfg.ipFd
  let ip6Fd := w.cfg.ip6Fd
  let flags ← ioctl ipFd (.siocglifflags { name := w.cfg.ifname })
  if flags.ret < 0 then return ()
  let muxid ← ioctl ipFd (.siocglifmuxid flags.lifr)
  if muxid.ret < 0 then return ()
  let unlinked ← ioctl ipFd (.punlink muxid.lifr.arpMuxid)
  if unlinked.ret < 0 then return ()
  let unlinked ← ioctl ipFd (.punlink muxid.lifr.ipMuxid)
  if unlinked.ret < 0 then return ()
  let flags ← ioctl ip6Fd (.siocglifflags { name := w.cfg.ifname })
  if flags.ret < 0 then return ()
  let muxid ← ioctl ip6Fd (.siocglifmuxid flags.lifr)
  if muxid.ret < 0 then return ()
  let unlinked ← ioctl ip6Fd (.punlink muxid.lifr.ipMuxid)
  if unlinked.ret < 0 then return ()
  close ipFd
  modify fun cfg => { cfg with ipFd := -1 }
  close ip6Fd
  modify fun cfg => { cfg with ip6Fd := -1 }

/-- The requests of `tapcfg_stop_dev` succeed. -/
def DetachSucceeds : Allows
  | ⟨.ioctl _ _, reply⟩ => 0 ≤ Reply.ret reply
  | _ => True

/-! ## The walk through `tapcfg_plumb_device` -/

/-- The descriptors of `tapcfg_plumb_device`. -/
inductive Slot where
  | tap
  | ip
  | ip6
  | iface
  | arp
  deriving DecidableEq, Repr

/-- `tap_fd`, `ip_fd`, `ip6_fd`, `if_fd` and `arp_fd` -/
def Locals.fd (v : Locals) : Slot → Int
  | .tap => v.tapFd
  | .ip => v.ipFd
  | .ip6 => v.ip6Fd
  | .iface => v.ifFd
  | .arp => v.arpFd

/-- The locals with another descriptor in one place. -/
def Locals.put (v : Locals) (fd : Int) : Slot → Locals
  | .tap => { v with tapFd := fd }
  | .ip => { v with ipFd := fd }
  | .ip6 => { v with ip6Fd := fd }
  | .iface => { v with ifFd := fd }
  | .arp => { v with arpFd := fd }

/-- The links of `tapcfg_plumb_device`. -/
inductive StreamLink where
  | ip
  | arp
  | ip6
  deriving DecidableEq, Repr

/-- The descriptor the link is made on. -/
def StreamLink.upper : StreamLink → Slot
  | .ip => .ip
  | .arp => .ip
  | .ip6 => .ip6

/-- The descriptor that is linked below it. -/
def StreamLink.lower : StreamLink → Slot
  | .ip => .iface
  | .arp => .arp
  | .ip6 => .iface

/-- `ip_muxid`, `arp_muxid` and `ip6_muxid` -/
def Locals.muxid (v : Locals) : StreamLink → Int
  | .ip => v.ipMuxid
  | .arp => v.arpMuxid
  | .ip6 => v.ip6Muxid

/-- The locals with the id of a link. -/
def Locals.link (v : Locals) (muxid : Int) : StreamLink → Locals
  | .ip => { v with ipMuxid := muxid }
  | .arp => { v with arpMuxid := muxid }
  | .ip6 => { v with ip6Muxid := muxid }

/-- The requests that make no link, when the unit `ppa` is plumbed. -/
inductive Plain (ppa : Int) : Request → Prop where
  | tunnewppa : Plain ppa (.tunnewppa ppa)
  | push (module : CStr) : Plain ppa (.push module)
  | pop : Plain ppa .pop
  | getFlags (lifr : Lifreq) : Plain ppa (.siocglifflags lifr)
  | setName {lifr : Lifreq} (h : lifr.ppa = ppa) : Plain ppa (.siocslifname lifr)
  | strSetName (lifr : Lifreq) : Plain ppa (.strSiocslifname lifr)
  | setMuxid (lifr : Lifreq) : Plain ppa (.siocslifmuxid lifr)

/-- The unit a request names; `I_STR` with `SIOCSLIFNAME` passes on what the system has left
of the `lifr` it was given before. -/
def unitOf : Request → Option Int
  | .tunnewppa ppa => some ppa
  | .siocslifname lifr => some lifr.ppa
  | _ => none

/-- The locals when the device is plumbed. -/
structure Locals.Done (v : Locals) : Prop where
  tapFd : 0 ≤ v.tapFd
  ipFd : 0 ≤ v.ipFd
  ip6Fd : 0 ≤ v.ip6Fd
  ifFd : v.ifFd = -1
  arpFd : v.arpFd = -1
  muxid : ∀ m, 0 ≤ v.muxid m

/-- What an assertion `J` about the units named so far and the locals must survive, up to the
`error:` exit, which is entered with `B`.  `N` holds of the unit that `TUNNEWPPA` has granted. -/
structure PlumbInv (env : Env World Call Call.Ans) (ppa : Int) (N : Int → Prop)
    (Q : Plumbed → World → Prop) (F : Fault → World → Prop)
    (J : List Int → Locals → World → Prop) (B : Locals → World → Prop) : Prop where
  opened : ∀ {us v w s path w'} {fd : Int}, J us v w → v.fd s = -1 →
    env w (.openDev path) fd w' → (fd = -1 ∧ B v w') ∨ (0 ≤ fd ∧ J us (v.put fd s) w')
  /-- a request that is refused has changed nothing either -/
  asked : ∀ {us v w s req w'} {reply : Reply}, J us v w → 0 ≤ v.fd s → Plain ppa req →
    env w (.ioctl (v.fd s) req) reply w' →
    J (us ++ (unitOf req).toList) v w' ∧ ((reply.ret = -1 ∧ B v w') ∨ 0 ≤ reply.ret)
  named : ∀ {us v w s w'} {reply : Reply}, J us v w → 0 ≤ v.fd s →
    env w (.ioctl (v.fd s) (.tunnewppa ppa)) reply w' → 0 ≤ reply.ret → N reply.ret
  linked : ∀ {us v w m w'} {reply : Reply}, J us v w → 0 ≤ v.fd m.upper → 0 ≤ v.fd m.lower →
    v.muxid m = -1 → env w (.ioctl (v.fd m.upper) (.plink (v.fd m.lower))) reply w' →
    (reply.ret = -1 ∧ B v w') ∨ (0 ≤ reply.ret ∧ J us (v.link reply.ret m) w')
  /-- only a descriptor that has been linked is closed -/
  closed : ∀ {us v w m w'} {u : Unit}, J us v w → 0 ≤ v.fd (StreamLink.lower m) →
    env w (.close (v.fd (StreamLink.lower m))) u w' → J us (v.put (-1) (StreamLink.lower m)) w'
  failed : ∀ {v w}, B v w → Sat env (fun _ => True) Q F (plumbError v) w
  done : ∀ {v w newppa}, J [ppa, ppa, ppa] v w → v.Done → N newppa →
    Q { newppa := newppa, tapFd := v.tapFd, ipFd := v.ipFd, ip6Fd := v.ip6Fd } w

@[simp] theorem Locals.put_fd (v : Locals) (s : Slot) : v.put (v.fd s) s = v := by
  cases s <;> rfl

@[simp] theorem Locals.link_muxid (v : Locals) (m : StreamLink) : v.link (v.muxid m) m = v := by
  cases m <;> rfl

@[simp] theorem Locals.fd_link (v : Locals) (muxid : Int) (m : StreamLink) (s : Slot) :
    (v.link muxid m).fd s = v.fd s := by cases m <;> cases s <;> rfl

@[simp] theorem Locals.muxid_put (v : Locals) (fd : Int) (s : Slot) (m : StreamLink) :
    (v.put fd s).muxid m = v.muxid m := by cases s <;> cases m <;> rfl

@[simp] theorem Locals.muxid_link (v : Locals) (muxid : Int) (m : StreamLink) :
    (v.link muxid m).muxid m = muxid := by cases m <;> rfl

theorem Locals.muxid_link_of_ne (v : Locals) (muxid : Int) {m m' : StreamLink} (h : m' ≠ m) :
    (v.link muxid m).muxid m' = v.muxid m' := by
  cases m <;> cases m' <;> first | rfl | exact absurd rfl h

theorem Locals.fd_put_of_ne (v : Locals) (fd : Int) {s s' : Slot} (h : s' ≠ s) :
    (v.put fd s).fd s' = v.fd s' := by
  cases s <;> cases s' <;> first | rfl | exact absurd rfl h

namespace PlumbInv

/-- The check of an answer sends every failure to the `error:` exit. -/
structure Checks (c : Reply → Prop) : Prop where
  fails : ∀ reply : Reply, reply.ret = -1 → c reply
  passes : ∀ reply : Reply, 0 ≤ reply.ret → ¬ c reply

theorem checks_eq : Checks fun reply => reply.ret = -1 := ⟨fun _ h => h, fun _ h => by omega⟩

theorem checks_lt : Checks fun reply => reply.ret < 0 :=
  ⟨fun _ h => by omega, fun _ h => by omega⟩

variable {env : Env World Call Call.Ans} {ppa : Int} {N : Int → Prop}
  {Q : Plumbed → World → Prop} {F : Fault → World → Prop} {J : List Int → Locals → World → Prop}
  {B : Locals → World → Prop} {us : List Int} {v : Locals} {w : World} {c : Reply → Prop}
  [∀ reply, Decidable (c reply)]

/-- Open a device, or go to the `error:` exit. -/
theorem openOr (h : PlumbInv env ppa N Q F J B) (s : Slot) {path : CStr} {v' : Int → Locals}
    {rest : Int → Io Plumbed} (hv : J us v w) (hempty : v.fd s = -1)
    (hv' : ∀ fd, v' fd = v.put fd s)
    (hrest : ∀ fd w', 0 ≤ fd → J us (v.put fd s) w' → Sat env (fun _ => True) Q F (rest fd) w') :
    Sat env (fun _ => True) Q F
      ((openDev path).bind fun fd => if fd < 0 then plumbError (v' fd) else rest fd) w := by
  refine sat_bind ⟨trivial, fun (fd : Int) w' he => ⟨trivial, ?_⟩⟩
  rcases h.opened hv hempty he with ⟨hfd, hB⟩ | ⟨hfd, hJ⟩
  · have hsame : v' fd = v := by rw [hv', hfd, ← hempty, Locals.put_fd]
    rw [if_pos (by omega), hsame]
    exact h.failed hB
  · rw [if_neg (by omega)]
    exact hrest fd w' hfd hJ

/-- A request that succeeds, or goes to the `error:` exit. -/
theorem askOr (h : PlumbInv env ppa N Q F J B) (s : Slot) {req : Request}
    {rest : Reply → Io Plumbed} (hc : Checks c) (hv : J us v w) (hs : 0 ≤ v.fd s)
    (hreq : Plain ppa req)
    (hrest : ∀ reply w', 0 ≤ reply.ret → J (us ++ (unitOf req).toList) v w' →
      env w (.ioctl (v.fd s) req) reply w' → Sat env (fun _ => True) Q F (rest reply) w') :
    Sat env (fun _ => True) Q F
      ((ioctl (v.fd s) req).bind fun reply =>
        if c reply then plumbError v else rest reply) w := by
  refine sat_bind ⟨trivial, fun (reply : Reply) w' he => ⟨trivial, ?_⟩⟩
  obtain ⟨hJ, ⟨hret, hB⟩ | hret⟩ := h.asked hv hs hreq he
  · rw [if_pos (hc.fails reply hret)]
    exact h.failed hB
  · rw [if_neg (hc.passes reply hret)]
    exact hrest reply w' hret hJ he

/-- Make a link, or go to the `error:` exit. -/
theorem linkOr (h : PlumbInv env ppa N Q F J B) (m : StreamLink) {v' : Reply → Locals}
    {rest : Reply → Io Plumbed} (hc : Checks c) (hv : J us v w) (hupper : 0 ≤ v.fd m.upper)
    (hlower : 0 ≤ v.fd m.lower) (hnone : v.muxid m = -1)
    (hv' : ∀ reply, v' reply = v.link reply.ret m)
    (hrest : ∀ reply w', 0 ≤ reply.ret → J us (v.link reply.ret m) w' →
      Sat env (fun _ => True) Q F (rest reply) w') :
    Sat env (fun _ => True) Q F
      ((ioctl (v.fd m.upper) (.plink (v.fd m.lower))).bind fun reply =>
        if c reply then plumbError (v' reply) else rest reply) w := by
  refine sat_bind ⟨trivial, fun (reply : Reply) w' he => ⟨trivial, ?_⟩⟩
  rcases h.linked hv hupper hlower hnone he with ⟨hret, hB⟩ | ⟨hret, hJ⟩
  · have hsame : v' reply = v := by rw [hv', hret, ← hnone, Locals.link_muxid]
    rw [if_pos (hc.fails reply hret), hsame]
    exact h.failed hB
  · rw [if_neg (hc.passes reply hret)]
    exact hrest reply w' hret hJ

/-- Close a descriptor that has been linked. -/
theorem closeThen (h : PlumbInv env ppa N Q F J B) (m : StreamLink) {rest : Io Plumbed}
    (hv : J us v w) (hlower : 0 ≤ v.fd m.lower)
    (hrest : ∀ w', J us (v.put (-1) m.lower) w' → Sat env (fun _ => True) Q F rest w') :
    Sat env (fun _ => True) Q F ((close (v.fd m.lower)).bind fun _ => rest) w :=
  sat_bind ⟨trivial, fun _ w' he => ⟨trivial, hrest w' (h.closed hv hlower he)⟩⟩

/-- The walk, made once. -/
theorem sat (h : PlumbInv env ppa N Q F J B) (hw : J [] {} w) :
    Sat env (fun _ => True) Q F (tapcfgPlumbDevice ppa) w := by
  unfold tapcfgPlumbDevice
  refine h.openOr .ip hw rfl (fun _ => rfl) fun ip w₁ hip h₁ => ?_
  refine h.openOr .ip6 h₁ rfl (fun _ => rfl) fun ip6 w₂ hip6 h₂ => ?_
  refine h.openOr .tap h₂ rfl (fun _ => rfl) fun tap w₃ htap h₃ => ?_
  refine h.askOr .tap checks_eq h₃ htap .tunnewppa fun newppa w₄ hret h₄ he => ?_
  have hnewppa : N newppa.ret := h.named (s := .tap) h₃ htap he hret
  -- IPv4
  refine h.openOr .iface h₄ rfl (fun _ => rfl) fun ifFd w₅ hif h₅ => ?_
  refine h.askOr .iface checks_lt h₅ hif (.push _) fun _ w₆ _ h₆ _ => ?_
  refine h.askOr .iface checks_eq h₆ hif (.getFlags _) fun flags w₇ _ h₇ _ => ?_
  refine h.askOr .iface checks_eq h₇ hif (.setName rfl) fun named w₈ _ h₈ _ => ?_
  refine h.askOr .iface checks_eq h₈ hif (.push _) fun _ w₉ _ h₉ _ => ?_
  refine sat_bind ⟨trivial, fun _ w₁₀ he₁₀ => ⟨trivial, ?_⟩⟩
  have h₁₀ := (h.asked h₉ (s := .ip) hip .pop he₁₀).1
  refine h.askOr .ip checks_lt h₁₀ hip (.push _) fun _ w₁₁ _ h₁₁ _ => ?_
  refine h.openOr .arp h₁₁ rfl (fun _ => rfl) fun arpFd w₁₂ harp h₁₂ => ?_
  refine h.askOr .arp checks_eq h₁₂ harp (.push _) fun _ w₁₃ _ h₁₃ _ => ?_
  refine h.askOr .arp checks_eq h₁₃ harp (.strSetName _) fun _ w₁₄ _ h₁₄ _ => ?_
  refine h.linkOr .ip checks_eq h₁₄ hip hif rfl (fun _ => rfl) fun ipMuxid w₁₅ hm h₁₅ => ?_
  refine h.closeThen .ip h₁₅ hif fun w₁₆ h₁₆ => ?_
  refine h.linkOr .arp checks_eq h₁₆ hip harp rfl (fun _ => rfl) fun arpMuxid w₁₇ hm' h₁₇ => ?_
  refine h.closeThen .arp h₁₇ harp fun w₁₈ h₁₈ => ?_
  refine h.askOr .ip checks_lt h₁₈ hip (.setMuxid _) fun _ w₁₉ _ h₁₉ _ => ?_
  -- IPv6
  refine h.openOr .iface h₁₉ rfl (fun _ => rfl) fun ifFd₆ w₂₀ hif₆ h₂₀ => ?_
  refine h.askOr .iface checks_lt h₂₀ hif₆ (.push _) fun _ w₂₁ _ h₂₁ _ => ?_
  refine h.askOr .iface checks_eq h₂₁ hif₆ (.getFlags _) fun flags₆ w₂₂ _ h₂₂ _ => ?_
  refine h.askOr .iface checks_eq h₂₂ hif₆ (.setName rfl) fun _ w₂₃ _ h₂₃ _ => ?_
  refine h.linkOr .ip6 checks_eq h₂₃ hip6 hif₆ rfl (fun _ => rfl) fun ip6Muxid w₂₄ hm₆ h₂₄ => ?_
  refine h.closeThen .ip6 h₂₄ hif₆ fun w₂₅ h₂₅ => ?_
  refine h.askOr .ip6 checks_lt h₂₅ hip6 (.setMuxid _) fun _ w₂₆ _ h₂₆ _ => ?_
  have hmuxid : ∀ m, 0 ≤ Locals.muxid ⟨tap, ip, ip6, -1, -1, ipMuxid.ret, arpMuxid.ret,
      ip6Muxid.ret⟩ m := by
    intro m
    cases m with
    | ip => exact hm
    | arp => exact hm'
    | ip6 => exact hm₆
  exact sat_ret trivial (h.done h₂₆ ⟨htap, hip, hip6, rfl, rfl, hmuxid⟩ hnewppa)

end PlumbInv

/-! ## The `error:` exit -/

/-- What an assertion about the locals must survive when they are given up: the links first,
then the descriptors. -/
structure UndoInv (env : Env World Call Call.Ans) (K : Locals → World → Prop) : Prop where
  unlinked : ∀ {v w m w'} {reply : Reply}, K v w → v.muxid m ≠ -1 →
    env w (.ioctl (v.fd m.upper) (.punlink (v.muxid m))) reply w' → K (v.link (-1) m) w'
  closed : ∀ {v w s w'} {u : Unit}, K v w → (∀ m, v.muxid m = -1) → v.fd s ≠ -1 →
    env w (.close (v.fd s)) u w' → K (v.put (-1) s) w'

namespace UndoInv

variable {env : Env World Call Call.Ans} {F : Fault → World → Prop} {K : Locals → World → Prop}
  {v : Locals} {w : World}

theorem unlink (h : UndoInv env K) (m : StreamLink) (hv : K v w) :
    Sat env (fun _ => True) (fun _ w' => K (v.link (-1) m) w') F
      (unlessNone (v.muxid m) do let _ ← ioctl (v.fd m.upper) (.punlink (v.muxid m))) w := by
  unfold unlessNone
  split
  · exact sat_bind ⟨trivial, fun reply w' he => ⟨trivial, trivial, h.unlinked hv ‹_› he⟩⟩
  · have hnone : v.muxid m = -1 := not_not.mp ‹_›
    rw [← hnone, Locals.link_muxid]
    exact sat_ret trivial hv

theorem closeFd (h : UndoInv env K) (s : Slot) (hv : K v w) (hnone : ∀ m, v.muxid m = -1) :
    Sat env (fun _ => True) (fun _ w' => K (v.put (-1) s) w') F
      (unlessNone (v.fd s) (close (v.fd s))) w := by
  unfold unlessNone
  split
  · exact ⟨trivial, fun _ w' he => ⟨trivial, h.closed hv hnone ‹_› he⟩⟩
  · have hempty : v.fd s = -1 := not_not.mp ‹_›
    rw [← hempty, Locals.put_fd]
    exact sat_ret trivial hv

/-- At the end nothing is left in the locals. -/
theorem sat (h : UndoInv env K) (hv : K v w) :
    Sat env (fun _ => True) (fun plumbed w' => plumbed = {} ∧ K {} w') F (plumbError v) w := by
  have hnone : ∀ (tap ip ip6 iface arp : Int) (m : StreamLink),
      Locals.muxid ⟨tap, ip, ip6, iface, arp, -1, -1, -1⟩ m = -1 := by
    intro tap ip ip6 iface arp m
    cases m <;> rfl
  obtain ⟨tap, ip, ip6, iface, arp, ipMuxid, arpMuxid, ip6Muxid⟩ := v
  unfold plumbError
  refine sat_seq (h.unlink .arp hv :) fun _ w₁ h₁ => ?_
  refine sat_seq (h.unlink .ip h₁ :) fun _ w₂ h₂ => ?_
  refine sat_seq (h.unlink .ip6 h₂ :) fun _ w₃ h₃ => ?_
  refine sat_seq (h.closeFd .arp h₃ (hnone _ _ _ _ _) :) fun _ w₄ h₄ => ?_
  refine sat_seq (h.closeFd .iface h₄ (hnone _ _ _ _ _) :) fun _ w₅ h₅ => ?_
  refine sat_seq (h.closeFd .ip h₅ (hnone _ _ _ _ _) :) fun _ w₆ h₆ => ?_
  refine sat_seq (h.closeFd .ip6 h₆ (hnone _ _ _ _ _) :) fun _ w₇ h₇ => ?_
  refine sat_seq (h.closeFd .tap h₇ (hnone _ _ _ _ _) :) fun _ w₈ h₈ => ?_
  exact sat_ret trivial ⟨rfl, h₈⟩

end UndoInv

/-! ## What is open -/

/-- The descriptors of the locals, in the order in which they are closed. -/
def Locals.fds (v : Locals) : List Int := [v.arpFd, v.ifFd, v.ipFd, v.ip6Fd, v.tapFd]

@[simp] theorem Locals.link_fds (v : Locals) (muxid : Int) (m : StreamLink) :
    (v.link muxid m).fds = v.fds := by cases m <;> rfl

section

variable {L : Allows} {w w₀ : World} {v : Locals}

/-- The device is plumbed: just its three descriptors are open. -/
structure Plumbed.Ready (plumbed : Plumbed) (h : List Event) : Prop where
  tapFd : 0 ≤ plumbed.tapFd
  ipFd : 0 ≤ plumbed.ipFd
  ip6Fd : 0 ≤ plumbed.ip6Fd
  holds : Holds [plumbed.tapFd, plumbed.ipFd, plumbed.ip6Fd] h

/-- What `tapcfg_plumb_device` leaves. -/
structure Plumbs (w : World) (plumbed : Plumbed) (w' : World) : Prop where
  same : Unmodified w w'
  result : (plumbed = {} ∧ Holds [] w'.hist) ∨ (0 ≤ plumbed.newppa ∧ plumbed.Ready w'.hist)

/-- What a search for a device leaves. -/
structure Finds (w : World) (found : Option Plumbed) (w' : World) : Prop where
  same : Unmodified w w'
  result : (found = none ∧ Holds [] w'.hist) ∨
    ∃ plumbed : Plumbed, found = some plumbed ∧ plumbed.Ready w'.hist

/-- A point of `tapcfg_plumb_device`: the object is as it was, and the descriptors are open. -/
structure At (w₀ : World) (fds : List Int) (w : World) : Prop where
  same : Unmodified w₀ w
  holds : Holds fds w.hist

/-- What a call opens is put into an empty place. -/
theorem Locals.holds_opened {h : List Event} {s : Slot} {path : CStr} {fd : Int}
    (hh : Holds v.fds h) (hempty : v.fd s = -1) (hnew : NewFd h fd) :
    Holds (v.put fd s).fds (h ++ [⟨.openDev path, fd⟩]) := by
  obtain ⟨tap, ip, ip6, iface, arp, _, _, _⟩ := v
  have hopened : ∀ l₁ l₂ : List Int, Holds (l₁ ++ -1 :: l₂) h →
      Holds (l₁ ++ fd :: l₂) (h ++ [⟨.openDev path, fd⟩]) := fun l₁ l₂ hh => hh.opened rfl hnew
  cases s with
  | arp =>
      obtain rfl : arp = -1 := hempty
      exact hopened [] [iface, ip, ip6, tap] hh
  | iface =>
      obtain rfl : iface = -1 := hempty
      exact hopened [arp] [ip, ip6, tap] hh
  | ip =>
      obtain rfl : ip = -1 := hempty
      exact hopened [arp, iface] [ip6, tap] hh
  | ip6 =>
      obtain rfl : ip6 = -1 := hempty
      exact hopened [arp, iface, ip] [tap] hh
  | tap =>
      obtain rfl : tap = -1 := hempty
      exact hopened [arp, iface, ip, ip6] [] hh

theorem Locals.holds_closed {h : List Event} {s : Slot} {u : Unit} (hh : Holds v.fds h) :
    Holds (v.put (-1) s).fds (h ++ [⟨.close (v.fd s), u⟩]) := by
  obtain ⟨tap, ip, ip6, iface, arp, _, _, _⟩ := v
  have hclosed : ∀ (l₁ l₂ : List Int) (fd : Int), Holds (l₁ ++ fd :: l₂) h →
      Holds (l₁ ++ -1 :: l₂) (h ++ [⟨.close fd, u⟩]) := fun l₁ l₂ fd hh => hh.closed
  cases s with
  | arp => exact hclosed [] [iface, ip, ip6, tap] arp hh
  | iface => exact hclosed [arp] [ip, ip6, tap] iface hh
  | ip => exact hclosed [arp, iface] [ip6, tap] ip hh
  | ip6 => exact hclosed [arp, iface, ip] [tap] ip6 hh
  | tap => exact hclosed [arp, iface, ip, ip6] [] tap hh

/-- A descriptor of the locals is open. -/
theorem Locals.isOpen {h : List Event} (hh : Holds v.fds h) (s : Slot) (hfd : 0 ≤ v.fd s) :
    IsOpen h (v.fd s) := by
  refine ⟨hfd, hh.exact.mem_iff.mpr ?_⟩
  have hmem : v.fd s ∈ v.fds := by cases s <;> simp [Locals.fds, Locals.fd]
  exact List.mem_flatMap.mpr ⟨v.fd s, hmem, by simp [slot_of_nonneg hfd]⟩

/-- The device is plumbed with just its three descriptors. -/
theorem Locals.Done.holds {h : List Event} (hv : v.Done) (hh : Holds v.fds h) :
    Holds [v.tapFd, v.ipFd, v.ip6Fd] h := by
  have hopen : Holds ([v.ipFd, v.ip6Fd] ++ [v.tapFd]) h :=
    hh.of_slots (by simp [Locals.fds, hv.ifFd, hv.arpFd])
  exact hopen.of_perm List.perm_append_comm

theorem At.quiet {fds : List Int} {e : Event} (hw : At w₀ fds w) (he : entry e = none) :
    At w₀ fds (w.log e) := ⟨hw.same, hw.holds.quiet he⟩

/-- The `error:` exit closes everything. -/
theorem undoInv_at (L : Allows) (w₀ : World) :
    UndoInv (osEnv L) fun v w => At w₀ v.fds w where
  unlinked {v w m w' reply} hv _ := by
    rintro ⟨-, -, rfl⟩
    rw [Locals.link_fds]
    exact hv.quiet rfl
  closed {v w s w' u} hv _ _ := by
    rintro ⟨-, -, rfl⟩
    exact ⟨hv.same, Locals.holds_closed hv.holds⟩

/-- What `tapcfg_plumb_device` has open, whatever is granted and refused. -/
theorem plumbInv_at (L : Allows) (ppa : Int) (w₀ : World) :
    PlumbInv (osEnv L) ppa (0 ≤ ·) (Plumbs w₀) (fun _ _ => False)
      (fun _ v w => At w₀ v.fds w) (fun v w => At w₀ v.fds w) where
  opened {_ v w s path w' fd} hv hempty := by
    rintro ⟨hcred, -, rfl⟩
    have hnew : NewFd w.hist fd := hcred
    rcases hnew with rfl | ⟨hfd, hfresh⟩
    · exact .inl ⟨rfl, hv.quiet rfl⟩
    · exact .inr ⟨hfd, hv.same, Locals.holds_opened hv.holds hempty (.inr ⟨hfd, hfresh⟩)⟩
  asked {_ v w s req w' reply} hv _ _ he := by
    obtain ⟨hret, rfl⟩ := osEnv_ioctl he
    have hquiet := hv.quiet (e := ⟨.ioctl (v.fd s) req, reply⟩) rfl
    exact ⟨hquiet, hret.imp_left fun h => ⟨h, hquiet⟩⟩
  named _ _ _ _ := ‹_›
  linked {_ v w m w' reply} hv _ _ _ he := by
    obtain ⟨hret, rfl⟩ := osEnv_ioctl he
    have hquiet := hv.quiet (e := ⟨.ioctl (v.fd m.upper) (.plink (v.fd m.lower)), reply⟩) rfl
    refine hret.imp (fun h => ⟨h, hquiet⟩) fun h => ⟨h, ?_⟩
    rwa [Locals.link_fds]
  closed {_ v w m w' u} hv _ := by
    rintro ⟨-, -, rfl⟩
    exact ⟨hv.same, Locals.holds_closed hv.holds⟩
  failed hv := ((undoInv_at L w₀).sat hv).post fun plumbed w' ⟨hnone, h⟩ =>
    ⟨h.same, .inl ⟨hnone, h.holds.of_slots rfl⟩⟩
  done hv hdone hnewppa :=
    ⟨hv.same, .inr ⟨hnewppa, hdone.tapFd, hdone.ipFd, hdone.ip6Fd, hdone.holds hv.holds⟩⟩

theorem sat_plumbDevice (ppa : Int) (hw₀ : Holds [] w₀.hist) :
    Sat (osEnv L) (fun _ => True) (Plumbs w₀) (fun _ _ => False) (tapcfgPlumbDevice ppa) w₀ :=
  (plumbInv_at L ppa w₀).sat ⟨rfl, hw₀.of_slots rfl⟩

theorem sat_plumbOther (ppa : Int) (n i : Nat) (hw : Holds [] w.hist) :
    Sat (osEnv L) (fun _ => True) (Finds w) (fun _ _ => False) (plumbOther ppa n i) w := by
  induction n generalizing i w with
  | zero => exact sat_ret trivial ⟨rfl, .inl ⟨rfl, hw⟩⟩
  | succ n ih =>
      unfold plumbOther
      split
      · exact ih (i + 1) hw
      · refine sat_seq (sat_plumbDevice i hw) fun plumbed w₁ h₁ => ?_
        rcases h₁.result with ⟨rfl, hw₁⟩ | ⟨hnewppa, hready⟩
        · rw [if_neg (by decide)]
          refine (ih (i + 1) hw₁).post fun found w₂ h₂ => ?_
          exact ⟨h₂.same.trans h₁.same, h₂.result⟩
        · rw [if_pos hnewppa]
          exact sat_ret trivial ⟨h₁.same, .inr ⟨plumbed, rfl, hready⟩⟩

theorem sat_plumbNamed (ppa : Int) (fallback : Bool) (hw : Holds [] w.hist) :
    Sat (osEnv L) (fun _ => True) (Finds w) (fun _ _ => False) (plumbNamed ppa fallback) w := by
  unfold plumbNamed
  refine sat_seq (sat_plumbDevice ppa hw) fun plumbed w₁ h₁ => ?_
  rcases h₁.result with ⟨rfl, hw₁⟩ | ⟨hnewppa, hready⟩
  · split
    · exact sat_ret trivial ⟨h₁.same, .inl ⟨rfl, hw₁⟩⟩
    · rw [if_pos rfl]
      refine (sat_plumbOther ppa 16 0 hw₁).post fun found w₂ h₂ => ?_
      exact ⟨h₂.same.trans h₁.same, h₂.result⟩
  · have hplumbed : ¬ plumbed.newppa = -1 := by omega
    rw [if_neg fun h => hplumbed h.1, if_neg hplumbed]
    exact sat_ret trivial ⟨h₁.same, .inr ⟨plumbed, rfl, hready⟩⟩

/-- `ip_fd` and `ip6_fd` are stored only when the device is plumbed. -/
theorem startDev_spec (ifname : CStr) (fallback : Bool) (hw : Holds [] w.hist) :
    Sat (osEnv L) (fun _ => True) (DevStarted (fun cfg => [cfg.ipFd, cfg.ip6Fd]) w)
      (fun _ _ => False) (tapcfgStartDev ifname fallback) w := by
  unfold tapcfgStartDev
  cases namedPpa ifname fallback with
  | none => exact sat_ret trivial (.failed (.refl _) hw (by simp))
  | some ppa =>
      refine sat_seq (sat_plumbNamed ppa fallback hw) fun found w₁ h₁ => ?_
      have hkept₁ : Kept w.cfg w₁.cfg := h₁.same ▸ .refl _
      rcases h₁.result with ⟨rfl, hw₁⟩ | ⟨plumbed, rfl, hready⟩
      · exact sat_ret trivial (.failed hkept₁ hw₁ (by simp))
      · refine sat_bind (sat_modify ?_)
        refine sat_bind (sat_dlpiGetPhysaddr hready.holds fun addr w₂ h₂ hw₂ => ?_)
        have hkept₂ : Kept w.cfg w₂.cfg := hkept₁.trans (h₂ ▸ ⟨rfl, rfl, rfl, rfl⟩)
        have hfds : ∀ fd ∈ [plumbed.ipFd, plumbed.ip6Fd], 0 ≤ fd := by
          simp [hready.ipFd, hready.ip6Fd]
        cases addr with
        | none =>
            refine sat_bind (sat_modify (sat_ret trivial ⟨?_, .inr ⟨hready.tapFd, hfds, hw₂⟩⟩))
            exact hkept₂.trans ⟨rfl, rfl, rfl, rfl⟩
        | some addr =>
            refine sat_bind (sat_modify (sat_bind (sat_modify ?_)))
            refine sat_ret trivial ⟨?_, .inr ⟨hready.tapFd, hfds, hw₂⟩⟩
            exact hkept₂.trans ⟨rfl, rfl, rfl, rfl⟩

/-- A request of `tapcfg_stop_dev`, when they succeed. -/
theorem sat_detach {fds : List Int} {fd : Int} {req : Request} {rest : Reply → Io Unit}
    {Q : Unit → World → Prop} {F : Fault → World → Prop} (hL : ∀ e, L e → DetachSucceeds e)
    (hw : At w₀ fds w)
    (hrest : ∀ reply w', At w₀ fds w' → Sat (osEnv L) (fun _ => True) Q F (rest reply) w') :
    Sat (osEnv L) (fun _ => True) Q F
      ((ioctl fd req).bind fun reply => if reply.ret < 0 then .ret () else rest reply) w := by
  refine sat_bind (sat_ioctl hw.holds fun reply w' _ hok h hw' => ?_)
  have hret : 0 ≤ reply.ret := hL _ hok
  rw [if_neg (by omega)]
  exact hrest reply w' ⟨h.trans hw.same, hw'⟩

/-- `tapcfg_stop_dev` closes its two descriptors. -/
theorem stopDev_spec (hL : ∀ e, L e → DetachSucceeds e) (fds : List Int)
    (hip : 0 ≤ w.cfg.ipFd) (hip6 : 0 ≤ w.cfg.ip6Fd)
    (hw : Holds (fds ++ [w.cfg.ipFd, w.cfg.ip6Fd]) w.hist) :
    Sat (osEnv L) (fun _ => True) (fun _ w' => Kept w.cfg w'.cfg ∧ Holds fds w'.hist)
      (fun _ _ => False) tapcfgStopDev w := by
  unfold tapcfgStopDev
  have hat₀ : At w (fds ++ [w.cfg.ipFd, w.cfg.ip6Fd]) w := ⟨rfl, hw⟩
  refine sat_bind (sat_load trivial ?_)
  refine sat_bind (sat_assert hip (sat_bind (sat_assert hip6 ?_)))
  refine sat_detach hL hat₀ fun flags w₁ hat₁ => ?_
  refine sat_detach hL hat₁ fun muxid w₂ hat₂ => ?_
  refine sat_detach hL hat₂ fun _ w₃ hat₃ => ?_
  refine sat_detach hL hat₃ fun _ w₄ hat₄ => ?_
  refine sat_detach hL hat₄ fun flags₆ w₅ hat₅ => ?_
  refine sat_detach hL hat₅ fun muxid₆ w₆ hat₆ => ?_
  refine sat_detach hL hat₆ fun _ w₇ hat₇ => ?_
  refine sat_bind (sat_close fds [w.cfg.ip6Fd] hat₇.holds fun w₈ h₈ hw₈ => ?_)
  refine sat_bind (sat_modify ?_)
  have hlast : Holds ((fds ++ [-1]) ++ w.cfg.ip6Fd :: []) w₈.hist := hw₈.of_slots (by simp)
  refine sat_bind (sat_close (fds ++ [-1]) [] hlast fun w₉ h₉ hw₉ => ?_)
  have hkept₉ : Kept w.cfg w₉.cfg := by
    have hkept₈ : Kept w.cfg w₈.cfg := (h₈.trans hat₇.same) ▸ .refl _
    exact hkept₈.trans (h₉ ▸ ⟨rfl, rfl, rfl, rfl⟩)
  refine sat_modify ⟨hkept₉.trans ⟨rfl, rfl, rfl, rfl⟩, ?_⟩
  exact hw₉.of_slots (by simp)

end

end TapCfg.Unix.Solaris
