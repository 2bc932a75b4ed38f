/-
  Unix/Address.lean --- the MTU and the IPv4 address of the interface.

  Source: src/lib/tapcfg_unix.c, lines 400-526, and the functions
  `tapcfg_ifaddr_ioctl` of the backends.

  An address is set by two requests, in an order of its own on every backend.
  `tapcfg_ifaddr_ioctl` tells whether one of them has failed, and
  `tapcfg_iface_set_ipv4` does not look at what it tells.  `Inet` is what the
  system has for an interface; a request that fails changes nothing.
-/
import TapCfg.Foundation.Inet
import TapCfg.Unix.Device

set_option autoImplicit false

namespace TapCfg.Unix

open TapCfg.Foundation
open Prog

/-! ## System calls -/

/-- An `ioctl` request on the MTU or the address of an interface; addresses and masks are in
network byte order. -/
inductive AddrRequest where
  | siocgifmtu (name : CStr)
  | siocsifmtu (name : CStr) (mtu : Int)
  | siocsifaddr (name : CStr) (addr : BitVec 32)
  | siocsifnetmask (name : CStr) (mask : BitVec 32)
  | siocdifaddr (name : CStr)
  | siocaifaddr (name : CStr) (addr mask : BitVec 32)
  deriving DecidableEq, Repr

/-- What such an `ioctl` leaves. -/
structure AddrReply where
  ret : Int
  /-- `errno` is `EADDRNOTAVAIL` -/
  addrnotavail : Bool := false
  mtu : Int := 0
  deriving DecidableEq, Repr

inductive AddrCall where
  | ioctl (fd : Int) (req : AddrRequest)
  deriving DecidableEq, Repr

def AddrCall.Ans : AddrCall → Type
  | .ioctl _ _ => AddrReply

/-- The IPv4 address and the netmask of an interface. -/
structure Inet where
  addr : Option (BitVec 32) := none
  mask : Option (BitVec 32) := none
  deriving DecidableEq, Repr

/-- The device object, the addresses of the interfaces, and the requests so far. -/
structure Addressed where
  cfg : Tapcfg
  inet : CStr → Inet
  log : List (AddrRequest × AddrReply)

/-- What the system does with an address: the mask it gets with it. -/
structure AddrSystem where
  order : Endian
  /-- on Linux the mask of its class -/
  maskOf : Inet → BitVec 32 → Option (BitVec 32)

/-- What a request that succeeds changes of the interface it names.  On Solaris a new address
keeps the mask. -/
def AddrRequest.apply (b : Backend) (sys : AddrSystem) (inet : CStr → Inet) :
    AddrRequest → CStr → Inet
  | .siocgifmtu _ => inet
  | .siocsifmtu _ _ => inet
  | .siocsifaddr name addr =>
      let addr := htonl sys.order addr
      let mask := if b = .solaris then (inet name).mask else sys.maskOf (inet name) addr
      Function.update inet name { addr := some addr, mask := mask }
  | .siocsifnetmask name mask =>
      Function.update inet name { inet name with mask := some (htonl sys.order mask) }
  | .siocdifaddr name => Function.update inet name {}
  | .siocaifaddr name addr mask =>
      Function.update inet name
        { addr := some (htonl sys.order addr), mask := some (htonl sys.order mask) }

/-- A request is answered. -/
def Addressed.answer (b : Backend) (sys : AddrSystem) (s : Addressed) (req : AddrRequest)
    (reply : AddrReply) : Addressed :=
  { s with
    inet := if reply.ret = -1 then s.inet else req.apply b sys s.inet
    log := s.log ++ [(req, reply)] }

/-- The operating system: it may answer anything. -/
def addrEnv (b : Backend) (sys : AddrSystem) : Env Addressed AddrCall AddrCall.Ans
  | s, .ioctl _ req, reply, s' => s' = s.answer b sys req reply

abbrev AddrIo (α : Type) : Type := Prog Addressed AddrCall AddrCall.Ans Empty α

def addrIoctl (fd : Int) (req : AddrRequest) : AddrIo AddrReply := .call (.ioctl fd req) .ret

/-! ## The program -/

/-- `TAPCFG_BUFSIZE - 22` -/
def mtuLimit : Int := 4096 - 22

/-- `tapcfg_iface_get_mtu` -/
def tapcfgIfaceGetMtu : AddrIo Int := do
  let s ← load
  if s.cfg.started = false then return 0
  let reply ← addrIoctl s.cfg.ctrlFd (.siocgifmtu s.cfg.ifname)
  if reply.ret = -1 then return -1
  return reply.mtu

/-- `tapcfg_iface_set_mtu` -/
def tapcfgIfaceSetMtu (mtu : Int) : AddrIo Int := do
  let s ← load
  if s.cfg.started = false then return 0
  if mtu < 68 ∨ mtuLimit < mtu then return -1
  let reply ← addrIoctl s.cfg.ctrlFd (.siocsifmtu s.cfg.ifname mtu)
  if reply.ret = -1 then return -1
  return mtu

/-- `tapcfg_ifaddr_ioctl` on Linux -/
def Linux.tapcfgIfaddrIoctl (addr mask : BitVec 32) : AddrIo Int := do
  let s ← load
  let reply ← addrIoctl s.cfg.ctrlFd (.siocsifaddr s.cfg.ifname addr)
  if reply.ret = -1 then return -1
  let reply ← addrIoctl s.cfg.ctrlFd (.siocsifnetmask s.cfg.ifname mask)
  if reply.ret = -1 then return -1
  return 0

/-- `tapcfg_ifaddr_ioctl` on the BSDs -/
def Bsd.tapcfgIfaddrIoctl (addr mask : BitVec 32) : AddrIo Int := do
  let s ← load
  let reply ← addrIoctl s.cfg.ctrlFd (.siocdifaddr s.cfg.ifname)
  if reply.ret = -1 ∧ reply.addrnotavail = false then return -1
  let reply ← addrIoctl s.cfg.ctrlFd (.siocaifaddr s.cfg.ifname addr mask)
  if reply.ret = -1 then return -1
  return 0

/-- `tapcfg_ifaddr_ioctl` on Solaris -/
def Solaris.tapcfgIfaddrIoctl (addr mask : BitVec 32) : AddrIo Int := do
  let s ← load
  let reply ← addrIoctl s.cfg.ctrlFd (.siocsifnetmask s.cfg.ifname mask)
  if reply.ret = -1 then return -1
  let reply ← addrIoctl s.cfg.ctrlFd (.siocsifaddr s.cfg.ifname addr)
  if reply.ret = -1 then return -1
  return 0

def tapcfgIfaddrIoctl : Backend → BitVec 32 → BitVec 32 → AddrIo Int
  | .linux => Linux.tapcfgIfaddrIoctl
  | .bsd => Bsd.tapcfgIfaddrIoctl
  | .netbsd => Bsd.tapcfgIfaddrIoctl
  | .solaris => Solaris.tapcfgIfaddrIoctl

/-- `getaddrinfo` with `AI_NUMERICHOST` and `AF_INET`: the address, in network byte order. -/
def getaddrinfo (order : Endian) (addrstr : CStr) : Option (BitVec 32) :=
  (dottedAddress addrstr).map (htonl order)

/-- `tapcfg_iface_set_ipv4` -/
def tapcfgIfaceSetIpv4 (b : Backend) (order : Endian) (addrstr : CStr) (netbits : Byte) :
    AddrIo Int := do
  let s ← load
  if s.cfg.started = false then return 0
  if netbits = 0 ∨ 32 < netbits then return -1
  -- Check that the given IPv4 address is valid
  match getaddrinfo order addrstr with
  | none => return -1
  | some addr =>
      -- Calculate the netmask from the network bit length
      let mask := shiftMask netbits.toNat 0
      let _ ← tapcfgIfaddrIoctl b addr (htonl order mask)
      return 0

/-- `tapcfg_iface_set_ipv6` -/
def tapcfgIfaceSetIpv6 (_addrstr : CStr) (_netbits : Byte) : AddrIo Int := return -1

/-- `tapcfg_iface_set_dhcp_options` -/
def tapcfgIfaceSetDhcpOptions (_buffer : List Byte) (_buflen : Int) : AddrIo Int := return -1

/-- `tapcfg_iface_set_dhcpv6_options` -/
def tapcfgIfaceSetDhcpv6Options (_buffer : List Byte) (_buflen : Int) : AddrIo Int := return -1

/-! ## What a call does to the interface -/

/-- The request has failed. -/
def Refused (e : AddrRequest × AddrReply) : Prop := e.2.ret = -1

/-- The requests made between two states. -/
def Addressed.since (s s' : Addressed) : List (AddrRequest × AddrReply) :=
  s'.log.drop s.log.length

/-- The interface has the address of the string, and a netmask of so many leading ones. -/
structure Carries (inet : Inet) (addrstr : CStr) (netbits : Byte) : Prop where
  addr : ∃ addr, dottedAddress addrstr = some addr ∧ inet.addr = some addr
  mask : ∃ mask, inet.mask = some mask ∧ ∀ i < 32, mask.getMsbD i = decide (i < netbits.toNat)

/-- A call that returns `r`: it reports success only when the interface has the address, and a
request that has failed is reported and leaves the interface as it was. -/
structure Assigns (addrstr : CStr) (netbits : Byte) (s : Addressed) (r : Int) (s' : Addressed) :
    Prop where
  success : 0 ≤ r → Carries (s'.inet s.cfg.ifname) addrstr netbits
  failure : (∃ e ∈ s.since s', Refused e) → r < 0 ∧ s'.inet = s.inet

/-- What `tapcfg_ifaddr_ioctl` leaves: a request has failed, or the address is set. -/
inductive Attempted (sys : AddrSystem) (addr mask : BitVec 32) (s s' : Addressed) : Prop where
  | refused {es : List (AddrRequest × AddrReply)} (hlog : s'.log = s.log ++ es)
      (hsome : ∃ e ∈ es, Refused e)
  | done {es : List (AddrRequest × AddrReply)} (hlog : s'.log = s.log ++ es)
      (hnone : ∀ e ∈ es, ¬ Refused e)
      (hset : s'.inet s.cfg.ifname =
        { addr := some (htonl sys.order addr), mask := some (htonl sys.order mask) })

section

variable {b : Backend} {sys : AddrSystem} {F : Empty → Addressed → Prop} {s : Addressed}

theorem since_append {s' : Addressed} {es : List (AddrRequest × AddrReply)}
    (h : s'.log = s.log ++ es) : s.since s' = es := by
  rw [Addressed.since, h, List.drop_left]

theorem sat_addrIoctl {fd : Int} {req : AddrRequest} {Q : AddrReply → Addressed → Prop}
    (hQ : ∀ reply, Q reply (s.answer b sys req reply)) :
    Sat (addrEnv b sys) (fun _ => True) Q F (addrIoctl fd req) s := by
  refine ⟨trivial, ?_⟩
  rintro reply s' rfl
  exact ⟨trivial, hQ reply⟩

/-- Two requests, each of which ends the function when it fails. -/
theorem sat_twoRequests {fd : Int} {first second : AddrRequest} {addr mask : BitVec 32}
    (hset : second.apply b sys (first.apply b sys s.inet) s.cfg.ifname =
      { addr := some (htonl sys.order addr), mask := some (htonl sys.order mask) }) :
    Sat (addrEnv b sys) (fun _ => True) (fun _ s' => Attempted sys addr mask s s') F
      ((addrIoctl fd first).bind fun reply =>
        if reply.ret = -1 then .ret (-1) else
          (addrIoctl fd second).bind fun reply =>
            if reply.ret = -1 then .ret (-1) else .ret (0 : Int)) s := by
  refine sat_bind (sat_addrIoctl fun reply₁ => ?_)
  by_cases h₁ : reply₁.ret = -1
  · rw [if_pos h₁]
    exact sat_ret trivial (.refused rfl ⟨_, List.mem_singleton.mpr rfl, h₁⟩)
  rw [if_neg h₁]
  refine sat_bind (sat_addrIoctl fun reply₂ => ?_)
  have hlog : ((s.answer b sys first reply₁).answer b sys second reply₂).log =
      s.log ++ [(first, reply₁), (second, reply₂)] := List.append_assoc _ _ _
  by_cases h₂ : reply₂.ret = -1
  · rw [if_pos h₂]
    exact sat_ret trivial (.refused hlog ⟨(second, reply₂), by simp, h₂⟩)
  · rw [if_neg h₂]
    refine sat_ret trivial (.done hlog ?_ ?_)
    · simp [Refused, h₁, h₂]
    · simp only [Addressed.answer, if_neg h₁, if_neg h₂]
      exact hset

/-- On the BSDs the address is set also when there was none to delete. -/
theorem Bsd.sat_tapcfgIfaddrIoctl (addr mask : BitVec 32) :
    Sat (addrEnv b sys) (fun _ => True) (fun _ s' => Attempted sys addr mask s s') F
      (Bsd.tapcfgIfaddrIoctl addr mask) s := by
  unfold Bsd.tapcfgIfaddrIoctl
  refine sat_bind (sat_load trivial (sat_bind (sat_addrIoctl fun reply₁ => ?_)))
  split
  · exact sat_ret trivial (.refused rfl ⟨_, List.mem_singleton.mpr rfl, And.left ‹_›⟩)
  refine sat_bind (sat_addrIoctl fun reply₂ => ?_)
  have hlog : ∀ (first second : AddrRequest),
      ((s.answer b sys first reply₁).answer b sys second reply₂).log =
        s.log ++ [(first, reply₁), (second, reply₂)] := fun _ _ => List.append_assoc _ _ _
  by_cases h₂ : reply₂.ret = -1
  · rw [if_pos h₂]
    exact sat_ret trivial (.refused (hlog _ _) ⟨_, List.mem_cons_of_mem _ List.mem_cons_self, h₂⟩)
  rw [if_neg h₂]
  by_cases h₁ : reply₁.ret = -1
  · exact sat_ret trivial (.refused (hlog _ _) ⟨_, List.mem_cons_self, h₁⟩)
  · refine sat_ret trivial (.done (hlog _ _) ?_ ?_)
    · simp [Refused, h₁, h₂]
    · simp only [Addressed.answer, if_neg h₁, if_neg h₂]
      exact Function.update_self _ _ _

theorem sat_tapcfgIfaddrIoctl (addr mask : BitVec 32) :
    Sat (addrEnv b sys) (fun _ => True) (fun _ s' => Attempted sys addr mask s s') F
      (tapcfgIfaddrIoctl b addr mask) s := by
  cases b with
  | linux =>
      show Sat _ _ _ _ (Linux.tapcfgIfaddrIoctl addr mask) s
      unfold Linux.tapcfgIfaddrIoctl
      refine sat_bind (sat_load trivial (sat_twoRequests ?_))
      simp [AddrRequest.apply]
  | bsd => exact Bsd.sat_tapcfgIfaddrIoctl addr mask
  | netbsd => exact Bsd.sat_tapcfgIfaddrIoctl addr mask
  | solaris =>
      show Sat _ _ _ _ (Solaris.tapcfgIfaddrIoctl addr mask) s
      unfold Solaris.tapcfgIfaddrIoctl
      refine sat_bind (sat_load trivial (sat_twoRequests ?_))
      simp [AddrRequest.apply]

/-- A set of an address of a started device. -/
theorem sat_tapcfgIfaceSetIpv4 {addrstr : CStr} {netbits : Byte} {addr : BitVec 32}
    (hup : s.cfg.started = true) (haddr : dottedAddress addrstr = some addr)
    (hbits : ¬ (netbits = 0 ∨ 32 < netbits)) :
    Sat (addrEnv b sys) (fun _ => True)
      (fun r s' => r = 0 ∧
        Attempted sys (htonl sys.order addr) (htonl sys.order (netmask netbits.toNat)) s s') F
      (tapcfgIfaceSetIpv4 b sys.order addrstr netbits) s := by
  have hget : getaddrinfo sys.order addrstr = some (htonl sys.order addr) := by
    rw [getaddrinfo, haddr]
    rfl
  unfold tapcfgIfaceSetIpv4
  refine sat_bind (sat_load trivial ?_)
  rw [if_neg (by simp [hup]), if_neg hbits, hget]
  exact sat_seq (sat_tapcfgIfaddrIoctl _ _) fun _ s' h => sat_ret trivial ⟨rfl, h⟩

/-- On a started device a valid address and netmask are assigned as is reported, exactly when
no request of the call fails. -/
theorem address_assigned {addrstr : CStr} {netbits : Byte} {r : Int} {s' : Addressed}
    (hup : s.cfg.started = true) (hvalid : (dottedAddress addrstr).isSome = true)
    (hbits : 1 ≤ netbits ∧ netbits ≤ 32)
    (hr : Reaches (addrEnv b sys) (tapcfgIfaceSetIpv4 b sys.order addrstr netbits, s)
      (.ret r, s')) :
    Assigns addrstr netbits s r s' ↔ ∀ e ∈ s.since s', ¬ Refused e := by
  obtain ⟨addr, haddr⟩ := Option.isSome_iff_exists.mp hvalid
  have hrange : ¬ (netbits = 0 ∨ 32 < netbits) := by
    rintro (rfl | h)
    · exact absurd hbits.1 (by decide)
    · exact absurd hbits.2 (UInt8.not_le.mpr h)
  have hsat : Sat (addrEnv b sys) (fun _ => True) _ (fun _ _ => True)
      (tapcfgIfaceSetIpv4 b sys.order addrstr netbits) s :=
    sat_tapcfgIfaceSetIpv4 hup haddr hrange
  obtain ⟨rfl, hattempted⟩ := (hsat.reaches hr).2
  cases hattempted with
  | refused hlog hsome =>
      rw [since_append hlog]
      refine iff_of_false (fun h => ?_) fun h => ?_
      · have hneg := (h.failure (by rwa [since_append hlog])).1
        exact absurd hneg (by decide)
      · obtain ⟨e, he, hrefused⟩ := hsome
        exact h e he hrefused
  | done hlog hnone hset =>
      rw [since_append hlog]
      refine iff_of_true ⟨fun _ => ?_, fun h => ?_⟩ hnone
      · rw [hset, htonl_htonl, htonl_htonl]
        exact ⟨⟨addr, haddr, rfl⟩, _, rfl, fun i hi => getMsbD_netmask _ hi⟩
      · rw [since_append hlog] at h
        obtain ⟨e, he, hrefused⟩ := h
        exact absurd hrefused (hnone e he)

end

/-! ## Systems that refuse some requests -/

/-- A system whose bytes are in little order, and where an address gets the mask of class A. -/
def littleSystem : AddrSystem where
  order := .little
  maskOf _ _ := some 0xff000000

/-- It refuses some requests and grants the others. -/
def refusing (b : Backend) (refused : AddrRequest → Bool) :
    Responder Addressed AddrCall AddrCall.Ans
  | s, .ioctl _ req =>
      let reply : AddrReply := { ret := if refused req then -1 else 0 }
      (reply, s.answer b littleSystem req reply)

theorem refusing_follows (b : Backend) (refused : AddrRequest → Bool) :
    Follows (refusing b refused) (addrEnv b littleSystem)
  | _, .ioctl _ _ => rfl

/-- A started device, whose interface has the address 192.168.0.1. -/
def startedAddressed : Addressed where
  cfg := { tapcfgInit with started := true, tapFd := 3, ctrlFd := 4, ifname := "tap0".toList }
  inet := Function.update (fun _ => {}) "tap0".toList
    { addr := some 0xc0a80001, mask := some 0xffffff00 }
  log := []

/-- It is given the address 10.0.0.1, with a netmask of 24 bits. -/
def assigned (b : Backend) (refused : AddrRequest → Bool) : Except Empty Int × Addressed :=
  (tapcfgIfaceSetIpv4 b .little "10.0.0.1".toList 24).run (refusing b refused) startedAddressed

theorem assigned_reaches {b : Backend} {refused : AddrRequest → Bool}
    (h : (assigned b refused).1 = .ok 0) :
    Reaches (addrEnv b littleSystem)
      (tapcfgIfaceSetIpv4 b .little "10.0.0.1".toList 24, startedAddressed)
      (.ret 0, (assigned b refused).2) :=
  reaches_run (refusing_follows b refused) (Prod.ext h rfl)

/-- A system that grants every request. -/
theorem address_assigned_granted :
    Assigns "10.0.0.1".toList 24 startedAddressed 0 (assigned .linux fun _ => false).2 := by
  have hzero : (assigned .linux fun _ => false).1 = .ok 0 := by decide +kernel
  have hr := assigned_reaches hzero
  exact (address_assigned rfl (by decide) (by decide) hr).mpr (by
    unfold Refused
    decide +kernel)

/-- Linux refuses the address, and a BSD refuses it when the old one is deleted: both calls
return 0. -/
theorem address_lost :
    (∃ s', Reaches (addrEnv .linux littleSystem)
        (tapcfgIfaceSetIpv4 .linux .little "10.0.0.1".toList 24, startedAddressed) (.ret 0, s') ∧
      s'.inet "tap0".toList = startedAddressed.inet "tap0".toList ∧
      ¬ Assigns "10.0.0.1".toList 24 startedAddressed 0 s') ∧
    ∃ s', Reaches (addrEnv .bsd littleSystem)
        (tapcfgIfaceSetIpv4 .bsd .little "10.0.0.1".toList 24, startedAddressed) (.ret 0, s') ∧
      s'.inet "tap0".toList = {} ∧ ¬ Assigns "10.0.0.1".toList 24 startedAddressed 0 s' := by
  have hlost : ∀ {s'}, (∃ e ∈ startedAddressed.since s', Refused e) →
      ¬ Assigns "10.0.0.1".toList 24 startedAddressed 0 s' :=
    fun hsome h => absurd (h.failure hsome).1 (by decide)
  constructor
  · have hzero : (assigned .linux (· = .siocsifaddr "tap0".toList 0x0100000a)).1 = .ok 0 := by
      decide +kernel
    refine ⟨_, assigned_reaches hzero, by decide +kernel, hlost ?_⟩
    unfold Refused
    decide +kernel
  · have hzero : (assigned .bsd (· = .siocaifaddr "tap0".toList 0x0100000a 0x00ffffff)).1 =
        .ok 0 := by decide +kernel
    refine ⟨_, assigned_reaches hzero, by decide +kernel, hlost ?_⟩
    unfold Refused
    decide +kernel

end TapCfg.Unix
