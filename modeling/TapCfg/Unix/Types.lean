/-
  Unix/Types.lean --- the device object of the Unix library, the system calls
  its backends make, and the history of those calls.

  Source: src/lib/tapcfg_unix.c (struct tapcfg_s, lines 43-56).

  A descriptor is an `Int`, -1 when the call has failed, as in the source.
  `openFds` is what the history leaves open; the operating system returns
  descriptors that are not open, and `ioctl` on one that is not open fails.

  `Holds` says which descriptors a point of a program has open, slot by slot: a
  slot that holds -1 holds nothing.  Opening fills a slot, closing empties it.
-/
import TapCfg.Foundation.Interactive
import TapCfg.Foundation.Framing
import TapCfg.Foundation.Ledger

set_option autoImplicit false

namespace TapCfg.Unix

open TapCfg.Foundation
open Prog

/-- A C string, without its NUL; a character is one byte. -/
abbrev CStr : Type := List Char

/-- `IFNAMSIZ` -/
def ifnamsiz : Nat := 16

/-- `MAX_IFNAME` -/
def maxIfname : Nat := ifnamsiz - 1

/-- `HWADDRLEN` -/
def hwaddrlen : Nat := 6

/-- `TAPCFG_STATUS_ALL_DOWN` -/
def statusAllDown : Nat := 0x0000

/-- `struct tapcfg_s`, without the frame buffer and the log. -/
structure Tapcfg where
  started : Bool
  status : Nat
  tapFd : Int
  ctrlFd : Int
  ifname : CStr
  hwaddr : List Byte
  ipFd : Int
  ip6Fd : Int
  deriving DecidableEq, Repr

/-! ## System calls -/

/-- `errno`, as far as the library looks at it. -/
inductive Errno where
  | einval
  | other
  deriving DecidableEq, Repr

/-- What the library uses of `struct ifreq`. -/
structure Ifreq where
  name : CStr := []
  hwaddr : List Byte := []
  flags : Nat := 0
  deriving DecidableEq, Repr

/-- What the library uses of `struct lifreq`. -/
structure Lifreq where
  name : CStr := []
  ppa : Int := 0
  flags : Nat := 0
  ipMuxid : Int := 0
  arpMuxid : Int := 0
  deriving DecidableEq, Repr

/-- An `ioctl` request, with what it is given. -/
inductive Request where
  | tunsetiff (ifr : Ifreq)
  | siocgifhwaddr (ifr : Ifreq)
  | tapgifname (ifr : Ifreq)
  /-- `I_STR` with `TUNNEWPPA` -/
  | tunnewppa (ppa : Int)
  | push (module : CStr)
  | pop
  | siocglifflags (lifr : Lifreq)
  | siocslifname (lifr : Lifreq)
  /-- `I_STR` with `SIOCSLIFNAME` -/
  | strSiocslifname (lifr : Lifreq)
  | siocglifmuxid (lifr : Lifreq)
  | siocslifmuxid (lifr : Lifreq)
  | plink (fd : Int)
  | punlink (muxid : Int)
  | siocsifhwaddr (ifr : Ifreq)
  | siocsiflladdr (ifr : Ifreq)
  /-- its `struct ifaliasreq` holds a name and an `AF_LINK` address -/
  | siocsifphyaddr (ifr : Ifreq)
  | siocgifflags (ifr : Ifreq)
  | siocsifflags (ifr : Ifreq)
  | siocslifflags (lifr : Lifreq)
  | siocprotoattachIn6 (name : CStr)
  | siocllStart (name : CStr)
  deriving DecidableEq, Repr

/-- What an `ioctl` leaves. -/
structure Reply where
  ret : Int
  errno : Errno := .other
  ifr : Ifreq := {}
  lifr : Lifreq := {}
  deriving DecidableEq, Repr

/-- What the library uses of `struct ifaddrs`: the address, when it is an `AF_LINK` one. -/
structure Ifaddr where
  name : CStr
  link : Option (List Byte)
  deriving DecidableEq, Repr

/-- The first two are `socket(AF_INET, SOCK_DGRAM, 0)`. -/
inductive SocketUse where
  /-- the control socket of `tapcfg_start` -/
  | control
  /-- the temporary socket of the Linux `tapcfg_start_dev` -/
  | temporary
  /-- `socket(AF_INET6, SOCK_DGRAM, 0)` -/
  | inet6
  deriving DecidableEq, Repr

/-- The `sysctl` variables below `net.inet6.ip6`. -/
inductive Inet6Code where
  | autoLinklocal
  | forwarding
  | acceptRtadv
  deriving DecidableEq, Repr

/-- How the exchange of `dlpi_set_physaddr` ends. -/
inductive SetAck where
  /-- `DL_OK_ACK` -/
  | ok
  /-- the request is not sent, or its answer is not `DL_OK_ACK` -/
  | refused
  /-- the request is sent, and its answer cannot be read -/
  | lost
  deriving DecidableEq, Repr

inductive Call where
  | openDev (path : CStr)
  | socket (use : SocketUse)
  | close (fd : Int)
  | ioctl (fd : Int) (req : Request)
  | getifaddrs
  /-- `dlpi_get_physaddr` -/
  | getPhysaddr (fd : Int)
  /-- `dlpi_set_physaddr` -/
  | setPhysaddr (fd : Int) (hwaddr : List Byte)
  /-- `getinet6sysctl` -/
  | getInet6 (code : Inet6Code)
  /-- `setinet6sysctl` -/
  | setInet6 (code : Inet6Code) (newval : Int)
  deriving DecidableEq, Repr

/-- What a call answers. -/
def Call.Ans : Call → Type
  | .openDev _ => Int
  | .socket _ => Int
  | .close _ => Unit
  | .ioctl _ _ => Reply
  | .getifaddrs => Option (List Ifaddr)
  | .getPhysaddr _ => Option (List Byte)
  | .setPhysaddr _ _ => SetAck
  | .getInet6 _ => Int
  | .setInet6 _ _ => Int

/-- An answered call. -/
abbrev Event : Type := (c : Call) × c.Ans

/-- The device object, and what the library has done so far. -/
structure World where
  cfg : Tapcfg
  hist : List Event

/-- The world after one more call. -/
def World.log (w : World) (e : Event) : World := { w with hist := w.hist ++ [e] }

/-- A failed `assert`. -/
inductive Fault where
  | assertion
  deriving DecidableEq, Repr

/-- A function of the library. -/
abbrev Io (α : Type) : Type := Prog World Call Call.Ans Fault α

/-! ## Descriptors -/

/-- What a call that returns `fd` acquires. -/
def acquired (fd : Int) : Option (Entry Nat) := if 0 ≤ fd then some (.acquire fd.toNat) else none

/-- What a call does to the descriptors that are open; `close(-1)` does nothing. -/
def entry : Event → Option (Entry Nat)
  | ⟨.openDev _, fd⟩ => acquired fd
  | ⟨.socket _, fd⟩ => acquired fd
  | ⟨.close fd, _⟩ => if 0 ≤ fd then some (.release fd.toNat) else none
  | _ => none

/-- The descriptors opened and closed. -/
def ledger (h : List Event) : List (Entry Nat) := h.filterMap entry

/-- The descriptors that are open. -/
def openFds (h : List Event) : List Nat := held (ledger h)

/-- The descriptor is open. -/
def IsOpen (h : List Event) (fd : Int) : Prop := 0 ≤ fd ∧ fd.toNat ∈ openFds h

/-- A descriptor the system returns: a new one, or -1. -/
def NewFd (h : List Event) (fd : Int) : Prop := fd = -1 ∨ (0 ≤ fd ∧ fd.toNat ∉ openFds h)

/-- What every answer respects. -/
def Credible (h : List Event) : Event → Prop
  | ⟨.openDev _, fd⟩ => NewFd h fd
  | ⟨.socket _, fd⟩ => NewFd h fd
  | ⟨.ioctl fd _, reply⟩ => Reply.ret reply = -1 ∨ (0 ≤ Reply.ret reply ∧ IsOpen h fd)
  | _ => True

/-- A further assumption on the answers. -/
abbrev Allows : Type := Event → Prop

/-- The operating system: it may answer anything credible that `L` allows. -/
def osEnv (L : Allows) : Env World Call Call.Ans := fun w c a w' =>
  Credible w.hist ⟨c, a⟩ ∧ L ⟨c, a⟩ ∧ w' = w.log ⟨c, a⟩

/-- No assumption. -/
def anyAnswer : Allows := fun _ => True

def openDev (path : CStr) : Io Int := .call (.openDev path) .ret

def socket (use : SocketUse) : Io Int := .call (.socket use) .ret

def close (fd : Int) : Io Unit := .call (.close fd) .ret

def ioctl (fd : Int) (req : Request) : Io Reply := .call (.ioctl fd req) .ret

def getifaddrs : Io (Option (List Ifaddr)) := .call .getifaddrs .ret

def dlpiGetPhysaddr (fd : Int) : Io (Option (List Byte)) := .call (.getPhysaddr fd) .ret

def dlpiSetPhysaddr (fd : Int) (hwaddr : List Byte) : Io Int :=
  .call (.setPhysaddr fd hwaddr) fun (ack : SetAck) => .ret (if ack = .ok then 0 else -1)

def getinet6sysctl (code : Inet6Code) : Io Int := .call (.getInet6 code) .ret

def setinet6sysctl (code : Inet6Code) (newval : Int) : Io Int := .call (.setInet6 code newval) .ret

/-- `assert` -/
def assert (c : Prop) [Decidable c] : Io Unit := if c then .ret () else .fault .assertion

/-- Write to the device object. -/
def modify (f : Tapcfg → Tapcfg) : Io Unit := update fun w => .ok { w with cfg := f w.cfg }

/-! ## What is held -/

/-- The descriptor in a slot. -/
def slot (fd : Int) : List Nat := if 0 ≤ fd then [fd.toNat] else []

/-- The descriptors in some slots. -/
def slots (fds : List Int) : List Nat := fds.flatMap slot

/-- Just the descriptors in the slots are open, and none has been closed twice. -/
structure Holds (fds : List Int) (h : List Event) : Prop where
  settles : Along Settles [] (ledger h)
  fresh : Along Fresh [] (ledger h)
  exact : (openFds h).Perm (slots fds)

@[simp] theorem slot_neg_one : slot (-1) = [] := rfl

@[simp] theorem slots_nil : slots [] = [] := rfl

@[simp] theorem slots_cons (fd : Int) (fds : List Int) :
    slots (fd :: fds) = slot fd ++ slots fds := by simp [slots]

@[simp] theorem slots_append (l₁ l₂ : List Int) : slots (l₁ ++ l₂) = slots l₁ ++ slots l₂ := by
  simp [slots]

theorem slot_of_nonneg {fd : Int} (h : 0 ≤ fd) : slot fd = [fd.toNat] := if_pos h

theorem slot_of_neg {fd : Int} (h : fd < 0) : slot fd = [] := if_neg (by omega)

theorem slots_of_nonneg {fds : List Int} (h : ∀ fd ∈ fds, 0 ≤ fd) :
    slots fds = fds.map Int.toNat := by
  induction fds with
  | nil => rfl
  | cons fd fds ih =>
      have hfd : 0 ≤ fd := h fd List.mem_cons_self
      rw [slots_cons, slot_of_nonneg hfd, ih fun fd' h' => h fd' (List.mem_cons_of_mem fd h')]
      rfl

theorem ledger_concat (h : List Event) (e : Event) :
    ledger (h ++ [e]) = ledger h ++ (entry e).toList := by
  unfold ledger
  rw [List.filterMap_append]
  cases he : entry e <;> simp [he]

namespace Holds

variable {fds l₁ l₂ : List Int} {h : List Event} {e : Event} {fd : Int}

theorem nodup (hh : Holds fds h) : (slots fds).Nodup :=
  hh.exact.nodup_iff.mp (held_nodup hh.fresh)

/-- Only what the slots hold matters. -/
theorem of_slots {fds' : List Int} (hh : Holds fds h) (heq : slots fds = slots fds') :
    Holds fds' h :=
  ⟨hh.settles, hh.fresh, heq ▸ hh.exact⟩

theorem of_perm {fds' : List Int} (hh : Holds fds h) (hp : fds.Perm fds') : Holds fds' h :=
  ⟨hh.settles, hh.fresh, hh.exact.trans (hp.flatMap_right slot)⟩

/-- A call that opens and closes nothing. -/
theorem quiet (hh : Holds fds h) (he : entry e = none) : Holds fds (h ++ [e]) := by
  have hledger : ledger (h ++ [e]) = ledger h := by rw [ledger_concat, he]; simp
  refine ⟨hledger ▸ hh.settles, hledger ▸ hh.fresh, ?_⟩
  rw [openFds, hledger]
  exact hh.exact

/-- A call that returns a descriptor fills an empty slot. -/
theorem opened (hh : Holds (l₁ ++ -1 :: l₂) h) (he : entry e = acquired fd) (hnew : NewFd h fd) :
    Holds (l₁ ++ fd :: l₂) (h ++ [e]) := by
  rcases hnew with rfl | ⟨hfd, hfresh⟩
  · exact hh.quiet he
  · have hledger : ledger (h ++ [e]) = ledger h ++ [.acquire fd.toNat] := by
      rw [ledger_concat, he, acquired, if_pos hfd]
      rfl
    have hexact : (openFds h).Perm (slots l₁ ++ slots l₂) := by simpa using hh.exact
    refine ⟨?_, ?_, ?_⟩
    · rw [hledger]
      exact along_append.mpr ⟨hh.settles, along_singleton.mpr trivial⟩
    · rw [hledger]
      exact along_append.mpr ⟨hh.fresh, along_singleton.mpr hfresh⟩
    · rw [openFds, hledger, held_acquire, slots_append, slots_cons, slot_of_nonneg hfd]
      have hlast : (openFds h ++ [fd.toNat]).Perm (fd.toNat :: (slots l₁ ++ slots l₂)) :=
        List.perm_append_comm.trans (hexact.cons _)
      exact hlast.trans List.perm_middle.symm

/-- Closing empties a slot. -/
theorem closed {u : Unit} (hh : Holds (l₁ ++ fd :: l₂) h) :
    Holds (l₁ ++ -1 :: l₂) (h ++ [⟨.close fd, u⟩]) := by
  by_cases hfd : 0 ≤ fd
  · have hledger : ledger (h ++ [⟨.close fd, u⟩]) = ledger h ++ [.release fd.toNat] := by
      have he : entry ⟨.close fd, u⟩ = some (.release fd.toNat) := if_pos hfd
      rw [ledger_concat, he]
      rfl
    have hexact : (openFds h).Perm (fd.toNat :: (slots l₁ ++ slots l₂)) := by
      have := hh.exact
      rw [slots_append, slots_cons, slot_of_nonneg hfd] at this
      exact this.trans List.perm_middle
    refine ⟨?_, ?_, ?_⟩
    · rw [hledger]
      refine along_append.mpr ⟨hh.settles, along_singleton.mpr ?_⟩
      exact hexact.mem_iff.mpr List.mem_cons_self
    · rw [hledger]
      exact along_append.mpr ⟨hh.fresh, along_singleton.mpr trivial⟩
    · rw [openFds, hledger, held_release, slots_append, slots_cons, slot_neg_one, List.nil_append]
      have herase := hexact.erase fd.toNat
      rwa [List.erase_cons_head] at herase
  · have hempty : slots (l₁ ++ -1 :: l₂) = slots (l₁ ++ fd :: l₂) := by
      simp [slot_of_neg (show fd < 0 by omega)]
    have hquiet := hh.quiet (e := ⟨.close fd, u⟩) (if_neg hfd)
    exact ⟨hquiet.settles, hquiet.fresh, hempty ▸ hquiet.exact⟩

end Holds

/-! ## What a backend promises -/

/-- The fields `tapcfg_start_dev` and `tapcfg_stop_dev` leave alone. -/
structure Kept (cfg cfg' : Tapcfg) : Prop where
  started : cfg'.started = cfg.started
  status : cfg'.status = cfg.status
  tapFd : cfg'.tapFd = cfg.tapFd
  ctrlFd : cfg'.ctrlFd = cfg.ctrlFd

theorem Kept.refl (cfg : Tapcfg) : Kept cfg cfg := ⟨rfl, rfl, rfl, rfl⟩

theorem Kept.trans {c₁ c₂ c₃ : Tapcfg} (h : Kept c₁ c₂) (h' : Kept c₂ c₃) : Kept c₁ c₃ :=
  ⟨h'.started.trans h.started, h'.status.trans h.status, h'.tapFd.trans h.tapFd,
    h'.ctrlFd.trans h.ctrlFd⟩

/-- What `tapcfg_start_dev` leaves: nothing, or the descriptor it returns and the
`further` ones, which it has put into the object. -/
structure DevStarted (further : Tapcfg → List Int) (w : World) (fd : Int) (w' : World) : Prop where
  kept : Kept w.cfg w'.cfg
  result : (fd = -1 ∧ Holds [] w'.hist) ∨
    (0 ≤ fd ∧ (∀ fd' ∈ further w'.cfg, 0 ≤ fd') ∧ Holds (fd :: further w'.cfg) w'.hist)

theorem DevStarted.failed {further : Tapcfg → List Int} {w w' : World} {fds : List Int}
    (hkept : Kept w.cfg w'.cfg) (hh : Holds fds w'.hist) (hempty : slots fds = []) :
    DevStarted further w (-1) w' :=
  ⟨hkept, .inl ⟨rfl, hh.of_slots hempty⟩⟩

/-! ## Rules -/

section Rules

variable {L : Allows} {F : Fault → World → Prop} {w : World}

/-- A world with the device object as it was. -/
abbrev Unmodified (w w' : World) : Prop := w'.cfg = w.cfg

/-- A request is answered -1, or with a number that is not negative. -/
theorem osEnv_ioctl {w' : World} {fd : Int} {req : Request} {reply : Reply}
    (h : osEnv L w (.ioctl fd req) reply w') :
    (reply.ret = -1 ∨ 0 ≤ reply.ret) ∧ w' = w.log ⟨.ioctl fd req, reply⟩ := by
  have hret : reply.ret = -1 ∨ (0 ≤ reply.ret ∧ IsOpen w.hist fd) := h.1
  exact ⟨hret.imp_right And.left, h.2.2⟩

theorem sat_openDev (l₁ l₂ : List Int) {path : CStr} {Q : Int → World → Prop}
    (hh : Holds (l₁ ++ -1 :: l₂) w.hist)
    (hQ : ∀ fd w', (fd = -1 ∨ 0 ≤ fd) → Unmodified w w' →
      Holds (l₁ ++ fd :: l₂) w'.hist → Q fd w') :
    Sat (osEnv L) (fun _ => True) Q F (openDev path) w := by
  refine ⟨trivial, ?_⟩
  rintro fd w' ⟨hcred, -, rfl⟩
  have hnew : NewFd w.hist fd := hcred
  exact ⟨trivial, hQ fd _ (hnew.imp_right And.left) rfl (hh.opened rfl hnew)⟩

theorem sat_socket (l₁ l₂ : List Int) {use : SocketUse} {Q : Int → World → Prop}
    (hh : Holds (l₁ ++ -1 :: l₂) w.hist)
    (hQ : ∀ (fd : Int) w', (fd = -1 ∨ 0 ≤ fd) → L ⟨.socket use, fd⟩ → Unmodified w w' →
      Holds (l₁ ++ fd :: l₂) w'.hist → Q fd w') :
    Sat (osEnv L) (fun _ => True) Q F (socket use) w := by
  refine ⟨trivial, ?_⟩
  rintro fd w' ⟨hcred, hL, rfl⟩
  have hnew : NewFd w.hist fd := hcred
  exact ⟨trivial, hQ fd _ (hnew.imp_right And.left) hL rfl (hh.opened rfl hnew)⟩

theorem sat_close (l₁ l₂ : List Int) {fd : Int} {Q : Unit → World → Prop}
    (hh : Holds (l₁ ++ fd :: l₂) w.hist)
    (hQ : ∀ w', Unmodified w w' → Holds (l₁ ++ -1 :: l₂) w'.hist → Q () w') :
    Sat (osEnv L) (fun _ => True) Q F (close fd) w := by
  refine ⟨trivial, ?_⟩
  rintro ⟨⟩ w' ⟨-, -, rfl⟩
  exact ⟨trivial, hQ _ rfl hh.closed⟩

theorem sat_ioctl {fds : List Int} {fd : Int} {req : Request} {Q : Reply → World → Prop}
    (hh : Holds fds w.hist)
    (hQ : ∀ reply w', (Reply.ret reply = -1 ∨ (0 ≤ Reply.ret reply ∧ 0 ≤ fd)) →
      L ⟨.ioctl fd req, reply⟩ → Unmodified w w' → Holds fds w'.hist → Q reply w') :
    Sat (osEnv L) (fun _ => True) Q F (ioctl fd req) w := by
  refine ⟨trivial, ?_⟩
  rintro reply w' ⟨hcred, hL, rfl⟩
  have hret : Reply.ret reply = -1 ∨ (0 ≤ Reply.ret reply ∧ IsOpen w.hist fd) := hcred
  exact ⟨trivial, hQ reply _ (hret.imp_right fun ⟨h, hfd⟩ => ⟨h, hfd.1⟩) hL rfl (hh.quiet rfl)⟩

/-- An `ioctl` that is made on a condition. -/
theorem sat_ite_ioctl {fds : List Int} {fd : Int} {req : Request} {c : Prop} [Decidable c]
    {reply : Reply} {Q : Reply → World → Prop} (hh : Holds fds w.hist)
    (hQ : ∀ reply w', Unmodified w w' → Holds fds w'.hist → Q reply w') :
    Sat (osEnv L) (fun _ => True) Q F (if c then ioctl fd req else .ret reply) w := by
  split
  · exact sat_ioctl hh fun reply w' _ _ h hh' => hQ reply w' h hh'
  · exact sat_ret trivial (hQ reply w rfl hh)

theorem sat_getifaddrs {fds : List Int} {Q : Option (List Ifaddr) → World → Prop}
    (hh : Holds fds w.hist)
    (hQ : ∀ a w', Unmodified w w' → Holds fds w'.hist → Q a w') :
    Sat (osEnv L) (fun _ => True) Q F getifaddrs w := by
  refine ⟨trivial, ?_⟩
  rintro a w' ⟨-, -, rfl⟩
  exact ⟨trivial, hQ a _ rfl (hh.quiet rfl)⟩

theorem sat_dlpiGetPhysaddr {fds : List Int} {fd : Int} {Q : Option (List Byte) → World → Prop}
    (hh : Holds fds w.hist)
    (hQ : ∀ a w', Unmodified w w' → Holds fds w'.hist → Q a w') :
    Sat (osEnv L) (fun _ => True) Q F (dlpiGetPhysaddr fd) w := by
  refine ⟨trivial, ?_⟩
  rintro a w' ⟨-, -, rfl⟩
  exact ⟨trivial, hQ a _ rfl (hh.quiet rfl)⟩

theorem sat_assert {c : Prop} [Decidable c] {Q : Unit → World → Prop} (hc : c) (hQ : Q () w) :
    Sat (osEnv L) (fun _ => True) Q F (assert c) w := by
  rw [assert, if_pos hc]
  exact sat_ret trivial hQ

theorem sat_modify {env : Env World Call Call.Ans} {f : Tapcfg → Tapcfg}
    {Q : Unit → World → Prop} (hQ : Q () { w with cfg := f w.cfg }) :
    Sat env (fun _ => True) Q F (modify f) w :=
  sat_update rfl trivial trivial hQ

end Rules

end TapCfg.Unix
