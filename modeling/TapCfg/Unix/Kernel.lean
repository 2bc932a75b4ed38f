/-
  Unix/Kernel.lean --- the interfaces behind the descriptors, and their
  hardware addresses.

  Source: the requests of src/lib/tapcfg_unix_linux.h, tapcfg_unix_bsd.h,
  tapcfg_unix_solaris.h and dlpi.c that name an interface or carry an address.

  A `Kernel` says, after every history, which interface is behind a descriptor
  and which address an interface has.  Its laws are what the systems document:
  an interface gets another address only when it is created or when a request to
  set the address succeeds, and a `Truthful` answer tells what the kernel has.
-/
import TapCfg.Unix.Iface

set_option autoImplicit false

namespace TapCfg.Unix

open TapCfg.Foundation
open Prog

/-- The backend opens a device node for each interface. -/
def Backend.isBsd : Backend → Bool
  | .bsd => true
  | .netbsd => true
  | _ => false

/-- An event that puts an interface behind the descriptor. -/
def Attaches (b : Backend) (fd : Int) : Event → Prop
  | ⟨.openDev _, fd'⟩ => b.isBsd = true ∧ fd' = fd
  | ⟨.ioctl fd' (.tunsetiff _), reply⟩ => fd' = fd ∧ Reply.ret reply ≠ -1
  | ⟨.ioctl fd' (.tunnewppa _), reply⟩ => fd' = fd ∧ Reply.ret reply ≠ -1
  | _ => False

/-- A request that puts an interface behind the descriptor. -/
def Request.attaches : Request → Bool
  | .tunsetiff _ => true
  | .tunnewppa _ => true
  | _ => false

/-- The address a request sets, and the interface it is set on. -/
def Request.sets : Request → Option Ifreq
  | .siocsifhwaddr ifr => some ifr
  | .siocsiflladdr ifr => some ifr
  | .siocsifphyaddr ifr => some ifr
  | _ => none

/-- A request that takes part in the creation of an interface. -/
def Request.creates : Request → Bool
  | .tunsetiff _ => true
  | .tunnewppa _ => true
  | .push _ => true
  | .pop => true
  | .siocslifname _ => true
  | .strSiocslifname _ => true
  | .siocslifmuxid _ => true
  | .plink _ => true
  | _ => false

/-- An event after which an interface may have another address. -/
def Renews : Event → Prop
  | ⟨.openDev _, _⟩ => True
  | ⟨.ioctl _ req, reply⟩ =>
      req.creates = true ∨ (req.sets ≠ none ∧ Reply.ret reply ≠ -1)
  | ⟨.setPhysaddr _ _, ack⟩ => ack ≠ SetAck.refused
  | _ => False

/-- What the system has behind its descriptors. -/
structure Kernel (b : Backend) where
  /-- the interface one gets by opening a device node -/
  node : List Event → CStr → CStr
  /-- the interface behind a descriptor -/
  behind : List Event → Int → CStr
  /-- the hardware address of an interface -/
  addr : List Event → CStr → List Byte
  /-- `/dev/tapX` is `tapX` -/
  node_tap : ∀ h i, i < 16 →
    node h ("/dev/tap".toList ++ Nat.toDigits 10 i) = "tap".toList ++ Nat.toDigits 10 i
  behind_open : ∀ h path (fd : Int), b.isBsd = true → 0 ≤ fd →
    behind (h ++ [⟨.openDev path, fd⟩]) fd = node h path
  behind_tun : ∀ h fd ifr (reply : Reply), reply.ret ≠ -1 →
    behind (h ++ [⟨.ioctl fd (.tunsetiff ifr), reply⟩]) fd = reply.ifr.name
  behind_ppa : ∀ h fd ppa (reply : Reply), reply.ret ≠ -1 →
    behind (h ++ [⟨.ioctl fd (.tunnewppa ppa), reply⟩]) fd = Solaris.tapName reply.ret
  behind_kept : ∀ h e fd, ¬ Attaches b fd e → behind (h ++ [e]) fd = behind h fd
  addr_length : ∀ h name, (addr h name).length = hwaddrlen
  addr_set : ∀ h fd req ifr (reply : Reply), req.sets = some ifr → reply.ret ≠ -1 →
    ifr.hwaddr.length = hwaddrlen → addr (h ++ [⟨.ioctl fd req, reply⟩]) ifr.name = ifr.hwaddr
  addr_setPhysaddr : ∀ h fd (hwaddr : List Byte), hwaddr.length = hwaddrlen →
    addr (h ++ [⟨.setPhysaddr fd hwaddr, SetAck.ok⟩]) (behind h fd) = hwaddr
  addr_kept : ∀ h e name, ¬ Renews e → addr (h ++ [e]) name = addr h name

variable {b : Backend}

/-- The answer tells what the kernel has; a name is shorter than `IFNAMSIZ`, a
unit is an `int`. -/
def Kernel.Truthful (K : Kernel b) (h : List Event) : Event → Prop
  | ⟨.ioctl _ (.tunsetiff _), reply⟩ =>
      Reply.ret reply ≠ -1 → (Reply.ifr reply).name.length < ifnamsiz
  | ⟨.ioctl fd (.tapgifname _), reply⟩ =>
      Reply.ret reply ≠ -1 → (Reply.ifr reply).name = K.behind h fd ∧
        (Reply.ifr reply).name.length < ifnamsiz
  | ⟨.ioctl _ (.tunnewppa _), reply⟩ => Reply.ret reply ≤ 0x7fffffff
  | ⟨.ioctl _ (.siocgifhwaddr ifr), reply⟩ =>
      Reply.ret reply ≠ -1 → (Reply.ifr reply).hwaddr.take hwaddrlen = K.addr h ifr.name
  | ⟨.getifaddrs, answer⟩ => ∀ ifa : List Ifaddr, answer = some ifa →
      ∀ curr ∈ ifa, ∀ link, curr.link = some link → link.take hwaddrlen = K.addr h curr.name
  | ⟨.getPhysaddr fd, answer⟩ => ∀ addr : List Byte, answer = some addr →
      addr = K.addr h (K.behind h fd)
  | _ => True

/-- The system: it may answer anything credible and true that `L` allows in this state. -/
def sysEnv (K : Kernel b) (L : World → Event → Prop) : Env World Call Call.Ans := fun w c a w' =>
  Credible w.hist ⟨c, a⟩ ∧ K.Truthful w.hist ⟨c, a⟩ ∧ L w ⟨c, a⟩ ∧ w' = w.log ⟨c, a⟩

/-! ## Rules -/

section

variable {K : Kernel b} {L : World → Event → Prop} {F : Fault → World → Prop} {w : World}

/-- The rule for one call. -/
theorem sat_ask {c : Call} {Q : c.Ans → World → Prop}
    (hQ : ∀ a, Credible w.hist ⟨c, a⟩ → K.Truthful w.hist ⟨c, a⟩ → L w ⟨c, a⟩ →
      Q a (w.log ⟨c, a⟩)) :
    Sat (sysEnv K L) (fun _ => True) Q F (.call c .ret) w := by
  refine ⟨trivial, ?_⟩
  rintro a w' ⟨hcred, htrue, hL, rfl⟩
  exact ⟨trivial, hQ a hcred htrue hL⟩

/-- A program that only makes calls leaves the object as it was. -/
theorem sat_calls {α : Type} {p : Io α} (hp : Uses (· = .ok) (fun _ => True) p) :
    Sat (sysEnv K L) (fun _ => True) (fun _ w' => w'.cfg = w.cfg) (fun _ _ => True) p w := by
  have hkept : Sat (sysEnv K L) (fun w' => w'.cfg = w.cfg) (fun _ w' => w'.cfg = w.cfg)
      (fun _ _ => True) p w := by
    refine sat_of_kept hp ?_ ?_ rfl
    · rintro f rfl w₁ w₂ hw hf
      cases hf
      exact hw
    · rintro c - w₁ a w₂ hcfg ⟨-, -, -, rfl⟩
      exact hcfg
  exact hkept.mono (fun _ _ => trivial) (fun _ _ _ h => h) (fun _ _ _ h => h)

/-- A call that puts nothing behind a descriptor. -/
def Detached (b : Backend) (c : Call) : Prop := ∀ a fd, ¬ Attaches b fd ⟨c, a⟩

theorem detached_ioctl (fd : Int) {req : Request} (h : req.attaches = false) :
    Detached b (.ioctl fd req) := by
  intro a fd'
  cases req with
  | tunnewppa ppa => cases h
  | tunsetiff ifr => cases h
  | _ => exact fun hattaches => hattaches

/-- Such calls only leave what is behind a descriptor. -/
theorem sat_detached {α : Type} {p : Io α} (fd : Int) (hp : Uses (· = .ok) (Detached b) p) :
    Sat (sysEnv K L) (fun _ => True)
      (fun _ w' => w'.cfg = w.cfg ∧ K.behind w'.hist fd = K.behind w.hist fd)
      (fun _ _ => True) p w := by
  have hkept : Sat (sysEnv K L)
      (fun w' => w'.cfg = w.cfg ∧ K.behind w'.hist fd = K.behind w.hist fd)
      (fun _ w' => w'.cfg = w.cfg ∧ K.behind w'.hist fd = K.behind w.hist fd)
      (fun _ _ => True) p w := by
    refine sat_of_kept hp ?_ ?_ ⟨rfl, rfl⟩
    · rintro f rfl w₁ w₂ hw hf
      cases hf
      exact hw
    · rintro c hc w₁ a w₂ ⟨hcfg, hbehind⟩ ⟨-, -, -, rfl⟩
      exact ⟨hcfg, (K.behind_kept _ _ _ (hc a fd)).trans hbehind⟩
  exact hkept.mono (fun _ _ => trivial) (fun _ _ _ h => h) (fun _ _ _ h => h)

end

/-! ## Plumbing on Solaris -/

namespace Solaris

theorem tapName_natCast (n : Nat) : tapName n = "tap".toList ++ Nat.toDigits 10 n := by
  show "tap".toList ++ n.repr.toList = _
  rw [Nat.toList_repr]

/-- The name of a unit that is an `int` is not cut. -/
theorem tapName_take {n : Int} (h : 0 ≤ n) (hint : n ≤ 0x7fffffff) :
    (tapName n).take (maxIfname - 1) = tapName n := by
  obtain ⟨m, rfl⟩ := Int.eq_ofNat_of_zero_le h
  have hdigits : (Nat.toDigits 10 m).length ≤ 10 :=
    (Nat.length_toDigits_le_iff (by decide) (by decide)).mpr (by omega)
  rw [tapName_natCast]
  refine List.take_of_length_le ?_
  rw [List.length_append]
  show 3 + _ ≤ 14
  omega

/-- What is left to do attaches nothing, and returns a result of `Y`. -/
structure Rest (Y : Plumbed → Prop) (p : Io Plumbed) : Prop where
  uses : Uses (· = .ok) (Detached .solaris) p
  yields : Yields Y p

section

variable {Y : Plumbed → Prop} {v : Locals}

theorem detached_openDev (path : CStr) : Detached .solaris (.openDev path) :=
  fun _ _ h => absurd h.1 (by decide)

theorem uses_unlessNone {n : Int} {p : Io Unit} (hp : Uses (· = .ok) (Detached .solaris) p) :
    Uses (· = .ok) (Detached .solaris) (unlessNone n p) := by
  unfold unlessNone
  split
  · exact hp
  · exact uses_ret ()

theorem uses_punlink (fd muxid : Int) :
    Uses (· = .ok) (Detached .solaris) (do let _ ← ioctl fd (.punlink muxid) : Io Unit) :=
  (uses_call (detached_ioctl fd rfl)).bind fun _ => uses_ret ()

theorem uses_close (fd : Int) : Uses (· = .ok) (Detached .solaris) (close fd) :=
  uses_call fun _ _ h => h

theorem yields_punlink {n fd : Int} :
    Yields (fun _ => True) (unlessNone n do let _ ← ioctl fd (.punlink n)) := by
  unfold unlessNone
  split
  · exact fun _ => trivial
  · trivial

theorem yields_close {fd : Int} : Yields (fun _ => True) (unlessNone fd (close fd)) := by
  unfold unlessNone
  split
  · exact fun _ => trivial
  · trivial

theorem rest_plumbError (hY : Y {}) : Rest Y (plumbError v) := by
  constructor
  · unfold plumbError
    refine (uses_unlessNone (uses_punlink _ _)).bind fun _ => ?_
    refine (uses_unlessNone (uses_punlink _ _)).bind fun _ => ?_
    refine (uses_unlessNone (uses_punlink _ _)).bind fun _ => ?_
    refine (uses_unlessNone (uses_close _)).bind fun _ => ?_
    refine (uses_unlessNone (uses_close _)).bind fun _ => ?_
    refine (uses_unlessNone (uses_close _)).bind fun _ => ?_
    refine (uses_unlessNone (uses_close _)).bind fun _ => ?_
    exact (uses_unlessNone (uses_close _)).bind fun _ => uses_ret _
  · unfold plumbError
    refine yields_punlink.bind fun _ _ => yields_punlink.bind fun _ _ => ?_
    refine yields_punlink.bind fun _ _ => yields_close.bind fun _ _ => ?_
    refine yields_close.bind fun _ _ => yields_close.bind fun _ _ => ?_
    exact yields_close.bind fun _ _ => yields_close.bind fun _ _ => hY

theorem rest_orError {c : Prop} [Decidable c] {rest : Io Plumbed} (hY : Y {})
    (hrest : Rest Y rest) : Rest Y (if c then plumbError v else rest) := by
  split
  · exact rest_plumbError hY
  · exact hrest

theorem rest_openOr {path : CStr} {v : Int → Locals} {rest : Int → Io Plumbed} (hY : Y {})
    (hrest : ∀ fd, Rest Y (rest fd)) :
    Rest Y ((openDev path).bind fun fd => if fd < 0 then plumbError (v fd) else rest fd) :=
  have hor := fun fd => rest_orError (c := fd < 0) (v := v fd) hY (hrest fd)
  ⟨(uses_call (detached_openDev path)).bind fun fd => (hor fd).uses, fun fd => (hor fd).yields⟩

theorem rest_ioctlOr {fd : Int} {req : Request} {c : Reply → Prop} [∀ reply, Decidable (c reply)]
    {v : Reply → Locals} {rest : Reply → Io Plumbed} (hY : Y {})
    (hreq : req.attaches = false) (hrest : ∀ reply, Rest Y (rest reply)) :
    Rest Y ((ioctl fd req).bind fun reply =>
      if c reply then plumbError (v reply) else rest reply) :=
  have hor := fun reply => rest_orError (c := c reply) (v := v reply) hY (hrest reply)
  ⟨(uses_call (detached_ioctl fd hreq)).bind fun reply => (hor reply).uses,
    fun reply => (hor reply).yields⟩

theorem rest_ioctlThen {fd : Int} {req : Request} {rest : Reply → Io Plumbed}
    (hreq : req.attaches = false) (hrest : ∀ reply, Rest Y (rest reply)) :
    Rest Y ((ioctl fd req).bind rest) :=
  ⟨(uses_call (detached_ioctl fd hreq)).bind fun reply => (hrest reply).uses,
    fun reply => (hrest reply).yields⟩

theorem rest_closeThen {fd : Int} {rest : Io Plumbed} (hrest : Rest Y rest) :
    Rest Y ((close fd).bind fun _ => rest) :=
  ⟨(uses_close fd).bind fun _ => hrest.uses, fun _ => hrest.yields⟩

/-- What `tapcfg_plumb_device` does up to `TUNNEWPPA`; what follows attaches nothing. -/
theorem plumbDevice_eq (ppa : Int) : ∃ rest : Int → Int → Int → Reply → Io Plumbed,
    (tapcfgPlumbDevice ppa = (openDev ipNode).bind fun ip =>
      if ip < 0 then plumbError { ipFd := ip } else (openDev ip6Node).bind fun ip6 =>
      if ip6 < 0 then plumbError { ipFd := ip, ip6Fd := ip6 } else (openDev tapNode).bind fun tap =>
      if tap < 0 then plumbError { tapFd := tap, ipFd := ip, ip6Fd := ip6 } else
      (ioctl tap (.tunnewppa ppa)).bind fun newppa =>
      if newppa.ret = -1 then plumbError { tapFd := tap, ipFd := ip, ip6Fd := ip6 } else
      rest ip ip6 tap newppa) ∧
    ∀ ip ip6 tap newppa, Rest (fun plumbed => plumbed = {} ∨
      (plumbed.newppa = newppa.ret ∧ plumbed.tapFd = tap)) (rest ip ip6 tap newppa) := by
  refine ⟨_, rfl, fun ip ip6 tap newppa => ?_⟩
  -- IPv4
  refine rest_openOr (.inl rfl) fun _ => ?_
  refine rest_ioctlOr (.inl rfl) rfl fun _ => ?_
  refine rest_ioctlOr (.inl rfl) rfl fun _ => ?_
  refine rest_ioctlOr (.inl rfl) rfl fun _ => ?_
  refine rest_ioctlOr (.inl rfl) rfl fun _ => ?_
  refine rest_ioctlThen rfl fun _ => ?_
  refine rest_ioctlOr (.inl rfl) rfl fun _ => ?_
  refine rest_openOr (.inl rfl) fun _ => ?_
  refine rest_ioctlOr (.inl rfl) rfl fun _ => ?_
  refine rest_ioctlOr (.inl rfl) rfl fun _ => ?_
  refine rest_ioctlOr (.inl rfl) rfl fun _ => ?_
  refine rest_closeThen ?_
  refine rest_ioctlOr (.inl rfl) rfl fun _ => ?_
  refine rest_closeThen ?_
  refine rest_ioctlOr (.inl rfl) rfl fun _ => ?_
  -- IPv6
  refine rest_openOr (.inl rfl) fun _ => ?_
  refine rest_ioctlOr (.inl rfl) rfl fun _ => ?_
  refine rest_ioctlOr (.inl rfl) rfl fun _ => ?_
  refine rest_ioctlOr (.inl rfl) rfl fun _ => ?_
  refine rest_ioctlOr (.inl rfl) rfl fun _ => ?_
  refine rest_closeThen ?_
  refine rest_ioctlOr (.inl rfl) rfl fun _ => ?_
  exact ⟨uses_ret _, .inr ⟨rfl, rfl⟩⟩

end

section

variable {K : Kernel .solaris} {L : World → Event → Prop} {F : Fault → World → Prop}
  {w w₀ : World}

/-- A unit is plumbed: its interface is behind the descriptor. -/
structure UnitOpen (K : Kernel .solaris) (plumbed : Plumbed) (h : List Event) : Prop where
  tapFd : 0 ≤ plumbed.tapFd
  nonneg : 0 ≤ plumbed.newppa
  int : plumbed.newppa ≤ 0x7fffffff
  behind : K.behind h plumbed.tapFd = tapName plumbed.newppa

/-- What `tapcfg_plumb_device` leaves: the object as it was, and perhaps a plumbed unit. -/
structure PlumbsUnit (K : Kernel .solaris) (w : World) (plumbed : Plumbed) (w' : World) : Prop where
  cfg : w'.cfg = w.cfg
  unit : plumbed.newppa ≠ -1 → UnitOpen K plumbed w'.hist

theorem unit_error {v : Locals} (hw : w.cfg = w₀.cfg) :
    Sat (sysEnv K L) (fun _ => True) (PlumbsUnit K w₀) F (plumbError v) w := by
  have herror : Rest (· = {}) (plumbError v) := rest_plumbError rfl
  refine ((sat_detached 0 herror.uses).yields herror.yields).post fun plumbed w' h => ?_
  obtain ⟨rfl, hcfg, -⟩ := h
  exact ⟨hcfg.trans hw, fun hne => absurd rfl hne⟩

theorem unit_orError {c : Prop} [Decidable c] {v : Locals} {rest : Io Plumbed}
    (hw : w.cfg = w₀.cfg)
    (hrest : ¬ c → Sat (sysEnv K L) (fun _ => True) (PlumbsUnit K w₀) F rest w) :
    Sat (sysEnv K L) (fun _ => True) (PlumbsUnit K w₀) F (if c then plumbError v else rest) w := by
  split
  · exact unit_error hw
  · exact hrest ‹_›

theorem unit_openOr {path : CStr} {v : Int → Locals} {rest : Int → Io Plumbed}
    (hw : w.cfg = w₀.cfg)
    (hrest : ∀ fd w', 0 ≤ fd → w'.cfg = w₀.cfg →
      Sat (sysEnv K L) (fun _ => True) (PlumbsUnit K w₀) F (rest fd) w') :
    Sat (sysEnv K L) (fun _ => True) (PlumbsUnit K w₀) F
      ((openDev path).bind fun fd => if fd < 0 then plumbError (v fd) else rest fd) w :=
  sat_bind (sat_ask fun (fd : Int) _ _ _ => unit_orError hw fun hfd => hrest fd _ (by omega) hw)

/-- A unit that is plumbed is behind the descriptor that is returned: nothing that follows
`TUNNEWPPA` puts another there. -/
theorem unit_plumbDevice (ppa : Int) (w : World) :
    Sat (sysEnv K L) (fun _ => True) (PlumbsUnit K w) F (tapcfgPlumbDevice ppa) w := by
  obtain ⟨rest, heq, hrest⟩ := plumbDevice_eq ppa
  rw [heq]
  refine unit_openOr rfl fun ip w₁ _ h₁ => ?_
  refine unit_openOr h₁ fun ip6 w₂ _ h₂ => ?_
  refine unit_openOr h₂ fun tap w₃ htap h₃ => ?_
  refine sat_bind (sat_ask fun newppa hcred htrue _ => ?_)
  have hint : Reply.ret newppa ≤ 0x7fffffff := htrue
  refine unit_orError h₃ fun hnewppa => ?_
  have hbehind := K.behind_ppa w₃.hist tap ppa newppa hnewppa
  have hnonneg : 0 ≤ Reply.ret newppa := (hcred.resolve_left hnewppa).1
  obtain ⟨huses, hyields⟩ := hrest ip ip6 tap newppa
  refine ((sat_detached tap huses).yields hyields).post fun plumbed w' h => ?_
  obtain ⟨hplumbed, hcfg, hkept⟩ := h
  refine ⟨hcfg.trans h₃, fun hne => ?_⟩
  rcases hplumbed with rfl | ⟨hret, hfd⟩
  · exact absurd rfl hne
  · refine ⟨?_, ?_, ?_, ?_⟩
    · rwa [hfd]
    · rwa [hret]
    · rwa [hret]
    · rw [hret, hfd]
      exact hkept.trans hbehind

/-- The units the search returns are plumbed. -/
structure FindsUnit (K : Kernel .solaris) (w : World) (found : Option Plumbed) (w' : World) :
    Prop where
  cfg : w'.cfg = w.cfg
  unit : ∀ plumbed, found = some plumbed → UnitOpen K plumbed w'.hist

theorem unit_plumbOther (ppa : Int) (n i : Nat) (w : World) :
    Sat (sysEnv K L) (fun _ => True) (FindsUnit K w) F (plumbOther ppa n i) w := by
  induction n generalizing i w with
  | zero => exact sat_ret trivial ⟨rfl, fun _ h => by cases h⟩
  | succ n ih =>
      unfold plumbOther
      split
      · exact ih (i + 1) w
      · refine sat_seq (unit_plumbDevice i w) fun plumbed w₁ h₁ => ?_
        split
        · refine sat_ret trivial ⟨h₁.cfg, fun plumbed' h => ?_⟩
          cases h
          exact h₁.unit (by omega)
        · exact (ih (i + 1) w₁).post fun found w₂ h₂ => ⟨h₂.cfg.trans h₁.cfg, h₂.unit⟩

theorem unit_plumbNamed (ppa : Int) (fallback : Bool) (w : World) :
    Sat (sysEnv K L) (fun _ => True) (FindsUnit K w) F (plumbNamed ppa fallback) w := by
  unfold plumbNamed
  refine sat_seq (unit_plumbDevice ppa w) fun plumbed w₁ h₁ => ?_
  split
  · exact sat_ret trivial ⟨h₁.cfg, fun _ h => by cases h⟩
  · split
    · exact (unit_plumbOther ppa 16 0 w₁).post fun found w₂ h₂ => ⟨h₂.cfg.trans h₁.cfg, h₂.unit⟩
    · refine sat_ret trivial ⟨h₁.cfg, fun plumbed' h => ?_⟩
      cases h
      exact h₁.unit ‹_›

end

end Solaris

/-! ## A kernel that runs -/

/-- What it has behind its descriptors, and the addresses. -/
structure Devices where
  behind : Int → CStr
  addr : CStr → List Byte

/-- At first the addresses of two interfaces differ when their names end otherwise. -/
def Devices.initial : Devices where
  behind _ := []
  addr name := [0x02, 0, 0, 0, 0, UInt8.ofNat (name.getLastD ' ').toNat]

/-- Another interface is behind the descriptor. -/
def Devices.attach (d : Devices) (fd : Int) (name : CStr) : Devices :=
  { d with behind := Function.update d.behind fd name }

/-- The interface has another address. -/
def Devices.setAddr (d : Devices) (name : CStr) (hwaddr : List Byte) : Devices :=
  if hwaddr.length = hwaddrlen then { d with addr := Function.update d.addr name hwaddr } else d

/-- What a request that succeeds changes. -/
def Devices.requested (d : Devices) (fd : Int) (req : Request) (reply : Reply) : Devices :=
  match req with
  | .tunsetiff _ => d.attach fd reply.ifr.name
  | .tunnewppa _ => d.attach fd (Solaris.tapName reply.ret)
  | .siocsifhwaddr ifr => d.setAddr ifr.name ifr.hwaddr
  | .siocsiflladdr ifr => d.setAddr ifr.name ifr.hwaddr
  | .siocsifphyaddr ifr => d.setAddr ifr.name ifr.hwaddr
  | _ => d

/-- What one event changes; `node` is the interface one gets by opening a device node. -/
def Devices.after (b : Backend) (node : CStr → CStr) (d : Devices) : Event → Devices
  | ⟨.openDev path, fd⟩ =>
      if b.isBsd then d.attach fd (node path) else d
  | ⟨.ioctl fd req, reply⟩ => if Reply.ret reply = -1 then d else d.requested fd req reply
  | ⟨.setPhysaddr fd hwaddr, ack⟩ =>
      match (ack : SetAck) with
      | .ok => d.setAddr (d.behind fd) hwaddr
      | _ => d
  | _ => d

/-- What a history leaves. -/
def devices (b : Backend) (node : CStr → CStr) (h : List Event) : Devices :=
  h.foldl (Devices.after b node) .initial

section

variable {node : CStr → CStr}

theorem devices_concat (h : List Event) (e : Event) :
    devices b node (h ++ [e]) = (devices b node h).after b node e := by
  simp [devices]

theorem Devices.attach_behind {d : Devices} {fd fd' : Int} {name : CStr} (h : ¬ fd' = fd) :
    (d.attach fd' name).behind fd = d.behind fd :=
  Function.update_of_ne (fun heq => h heq.symm) _ _

@[simp] theorem Devices.setAddr_behind (d : Devices) (name : CStr) (hwaddr : List Byte) :
    (d.setAddr name hwaddr).behind = d.behind := by
  unfold Devices.setAddr
  split <;> rfl

theorem Devices.setAddr_addr (d : Devices) (name : CStr) {hwaddr : List Byte}
    (h : hwaddr.length = hwaddrlen) : (d.setAddr name hwaddr).addr name = hwaddr := by
  rw [Devices.setAddr, if_pos h]
  exact Function.update_self _ _ _

theorem Devices.setAddr_length {d : Devices} (name : CStr) (hwaddr : List Byte)
    (h : ∀ name, (d.addr name).length = hwaddrlen) (name' : CStr) :
    ((d.setAddr name hwaddr).addr name').length = hwaddrlen := by
  unfold Devices.setAddr
  split
  · show (Function.update d.addr name hwaddr name').length = _
    rw [Function.update_apply]
    split
    · assumption
    · exact h name'
  · exact h name'

theorem Devices.after_behind {d : Devices} {e : Event} {fd : Int} (h : ¬ Attaches b fd e) :
    (d.after b node e).behind fd = d.behind fd := by
  obtain ⟨c, a⟩ := e
  cases c with
  | openDev path =>
      show (if b.isBsd then d.attach a (node path) else d).behind fd = _
      split
      · exact Devices.attach_behind fun heq => h ⟨‹_›, heq⟩
      · rfl
  | ioctl fd' req =>
      show (if Reply.ret a = -1 then d else d.requested fd' req a).behind fd = _
      split
      · rfl
      · rename_i hret
        cases req with
        | tunsetiff ifr => exact Devices.attach_behind fun heq => h ⟨heq, hret⟩
        | tunnewppa ppa => exact Devices.attach_behind fun heq => h ⟨heq, hret⟩
        | siocsifhwaddr ifr => exact congrFun (Devices.setAddr_behind _ _ _) fd
        | siocsiflladdr ifr => exact congrFun (Devices.setAddr_behind _ _ _) fd
        | siocsifphyaddr ifr => exact congrFun (Devices.setAddr_behind _ _ _) fd
        | _ => rfl
  | setPhysaddr fd' hwaddr =>
      cases a with
      | ok => exact congrFun (Devices.setAddr_behind _ _ _) fd
      | _ => rfl
  | _ => rfl

theorem Devices.after_addr {d : Devices} {e : Event} {name : CStr} (h : ¬ Renews e) :
    (d.after b node e).addr name = d.addr name := by
  obtain ⟨c, a⟩ := e
  cases c with
  | openDev path => exact absurd trivial h
  | ioctl fd req =>
      show (if Reply.ret a = -1 then d else d.requested fd req a).addr name = _
      split
      · rfl
      · rename_i hret
        cases req with
        | tunsetiff ifr => exact absurd (.inl rfl) h
        | tunnewppa ppa => exact absurd (.inl rfl) h
        | siocsifhwaddr ifr => exact absurd (.inr ⟨by simp [Request.sets], hret⟩) h
        | siocsiflladdr ifr => exact absurd (.inr ⟨by simp [Request.sets], hret⟩) h
        | siocsifphyaddr ifr => exact absurd (.inr ⟨by simp [Request.sets], hret⟩) h
        | _ => rfl
  | setPhysaddr fd hwaddr =>
      cases a with
      | ok => exact absurd (fun heq => by cases heq) h
      | _ => rfl
  | _ => rfl

theorem Devices.after_length {d : Devices} (e : Event)
    (h : ∀ name, (d.addr name).length = hwaddrlen) (name : CStr) :
    ((d.after b node e).addr name).length = hwaddrlen := by
  obtain ⟨c, a⟩ := e
  cases c with
  | openDev path =>
      show ((if b.isBsd then d.attach a (node path) else d).addr name).length = _
      split
      · exact h name
      · exact h name
  | ioctl fd req =>
      show ((if Reply.ret a = -1 then d else d.requested fd req a).addr name).length = _
      split
      · exact h name
      · cases req with
        | siocsifhwaddr ifr => exact Devices.setAddr_length _ _ h name
        | siocsiflladdr ifr => exact Devices.setAddr_length _ _ h name
        | siocsifphyaddr ifr => exact Devices.setAddr_length _ _ h name
        | _ => exact h name
  | setPhysaddr fd hwaddr =>
      cases a with
      | ok => exact Devices.setAddr_length _ _ h name
      | _ => exact h name
  | _ => exact h name

theorem devices_length (h : List Event) (name : CStr) :
    ((devices b node h).addr name).length = hwaddrlen := by
  induction h using List.reverseRecOn generalizing name with
  | nil => rfl
  | append_singleton h e ih =>
      rw [devices_concat]
      exact Devices.after_length e ih name

end

/-- The kernel that does just this. -/
def nodeKernel (b : Backend) (node : CStr → CStr)
    (hnode : ∀ i, i < 16 →
      node ("/dev/tap".toList ++ Nat.toDigits 10 i) = "tap".toList ++ Nat.toDigits 10 i) :
    Kernel b where
  node _ := node
  behind h := (devices b node h).behind
  addr h := (devices b node h).addr
  node_tap _ := hnode
  behind_open h path fd hb _ := by
    rw [devices_concat]
    simp [Devices.after, Devices.attach, hb]
  behind_tun h fd ifr reply hret := by
    rw [devices_concat]
    simp [Devices.after, Devices.requested, Devices.attach, hret]
  behind_ppa h fd ppa reply hret := by
    rw [devices_concat]
    simp [Devices.after, Devices.requested, Devices.attach, hret]
  behind_kept h e fd hkept := by
    rw [devices_concat]
    exact Devices.after_behind hkept
  addr_length := devices_length
  addr_set h fd req ifr reply hsets hret hlen := by
    rw [devices_concat]
    show (if reply.ret = -1 then _ else _ : Devices).addr ifr.name = _
    rw [if_neg hret]
    cases req with
    | siocsifhwaddr ifr' =>
        cases hsets
        exact Devices.setAddr_addr _ _ hlen
    | siocsiflladdr ifr' =>
        cases hsets
        exact Devices.setAddr_addr _ _ hlen
    | siocsifphyaddr ifr' =>
        cases hsets
        exact Devices.setAddr_addr _ _ hlen
    | _ => cases hsets
  addr_setPhysaddr h fd hwaddr hlen := by
    rw [devices_concat]
    exact Devices.setAddr_addr _ _ hlen
  addr_kept h e name hkept := by
    rw [devices_concat]
    exact Devices.after_addr hkept

/-- Every node is that of the interface of its name. -/
def plainKernel (b : Backend) : Kernel b := nodeKernel b (List.drop 5) fun _ _ => rfl

end TapCfg.Unix
