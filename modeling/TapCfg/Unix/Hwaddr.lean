/-
  Unix/Hwaddr.lean --- the hardware address of a started device.

  Source: src/lib/tapcfg_unix.c, lines 94-161 and 299-335, and the functions
  `tapcfg_start_dev` and `tapcfg_hwaddr_ioctl` of the backends.

  `tapcfg_start_dev` reads the address into the object, and a request that sets
  it writes it there.  On Linux a start fails when the address cannot be read;
  on the BSDs and on Solaris it goes on, with the address the object held before.
  The invariant is `Coherent`: the address in a started object is the kernel's.
-/
import TapCfg.Unix.Kernel

set_option autoImplicit false

namespace TapCfg.Unix

open TapCfg.Foundation
open Prog

variable {b : Backend}

/-- The address in the object is that of the interface it names. -/
def AddrRead (K : Kernel b) (w : World) : Prop := w.cfg.hwaddr = K.addr w.hist w.cfg.ifname

/-- The interface the object names is behind the descriptor. -/
def NameRead (K : Kernel b) (fd : Int) (w : World) : Prop :=
  K.behind w.hist fd = w.cfg.ifname

/-- What holds between two calls. -/
structure Coherent (K : Kernel b) (w : World) : Prop where
  length : w.cfg.hwaddr.length = hwaddrlen
  addr : w.cfg.started = true → AddrRead K w
  /-- Solaris sets the address through the descriptor -/
  behind : w.cfg.started = true → b = .solaris → NameRead K w.cfg.tapFd w

/-- The discovery of the address succeeds: `getifaddrs` lists a link address of the
interface just named, `dlpi_get_physaddr` does not fail.  A request of
`dlpi_set_physaddr` whose answer is lost has not been carried out. -/
def Discovers (K : Kernel b) (w : World) : Event → Prop
  | ⟨.getifaddrs, answer⟩ => ∃ ifa : List Ifaddr, answer = some ifa ∧
      ∃ curr ∈ ifa, curr.name = w.cfg.ifname ∧ curr.link ≠ none
  | ⟨.getPhysaddr _, answer⟩ => ∃ addr : List Byte, answer = some addr
  | ⟨.setPhysaddr fd hwaddr, ack⟩ => ack = SetAck.lost →
      K.addr (w.hist ++ [⟨.setPhysaddr fd hwaddr, ack⟩]) (K.behind w.hist fd) =
        K.addr w.hist (K.behind w.hist fd)
  | _ => True

/-! ## Calls that leave the address alone -/

/-- A call that neither creates an interface nor sets an address. -/
def Quiet (b : Backend) (c : Call) : Prop :=
  ∀ a, ¬ Renews ⟨c, a⟩ ∧ ∀ fd, ¬ Attaches b fd ⟨c, a⟩

theorem quiet_socket (use : SocketUse) : Quiet b (.socket use) := fun _ => ⟨id, fun _ => id⟩

theorem quiet_close (fd : Int) : Quiet b (.close fd) := fun _ => ⟨id, fun _ => id⟩

theorem quiet_getifaddrs : Quiet b .getifaddrs := fun _ => ⟨id, fun _ => id⟩

theorem quiet_getPhysaddr (fd : Int) : Quiet b (.getPhysaddr fd) := fun _ => ⟨id, fun _ => id⟩

theorem quiet_getInet6 (code : Inet6Code) : Quiet b (.getInet6 code) :=
  fun _ => ⟨id, fun _ => id⟩

theorem quiet_setInet6 (code : Inet6Code) (newval : Int) : Quiet b (.setInet6 code newval) :=
  fun _ => ⟨id, fun _ => id⟩

theorem quiet_ioctl (fd : Int) {req : Request} (hcreates : req.creates = false)
    (hsets : req.sets = none) (hattaches : req.attaches = false) : Quiet b (.ioctl fd req) := by
  intro a
  refine ⟨?_, detached_ioctl fd hattaches a⟩
  rintro (h | ⟨h, -⟩)
  · rw [hcreates] at h
    cases h
  · exact h hsets

section

variable {K : Kernel b} {L : World → Event → Prop} {w : World}

theorem AddrRead.quiet {c : Call} {a : c.Ans} (hw : AddrRead K w) (hc : Quiet b c) :
    AddrRead K (w.log ⟨c, a⟩) :=
  Eq.trans hw (K.addr_kept _ _ _ (hc a).1).symm

theorem NameRead.quiet {fd : Int} {c : Call} {a : c.Ans} (hw : NameRead K fd w) (hc : Quiet b c) :
    NameRead K fd (w.log ⟨c, a⟩) :=
  Eq.trans (K.behind_kept _ _ _ ((hc a).2 fd)) hw

theorem Coherent.quiet {c : Call} {a : c.Ans} (hw : Coherent K w) (hc : Quiet b c) :
    Coherent K (w.log ⟨c, a⟩) :=
  ⟨hw.length, fun hs => (hw.addr hs).quiet hc, fun hs hb => (hw.behind hs hb).quiet hc⟩

/-! ## Starting -/

/-- What a start leaves alone before it reads the address. -/
structure Unread (w w' : World) : Prop where
  started : w'.cfg.started = w.cfg.started
  hwaddr : w'.cfg.hwaddr = w.cfg.hwaddr

theorem Unread.of_cfg {w' : World} (h : w'.cfg = w.cfg) : Unread w w' := by
  constructor
  · rw [h]
  · rw [h]

/-- What `tapcfg_start_dev` leaves; when it returns a descriptor, the address is read. -/
structure DevRead (K : Kernel b) (w : World) (fd : Int) (w' : World) : Prop where
  started : w'.cfg.started = w.cfg.started
  length : w.cfg.hwaddr.length = hwaddrlen → w'.cfg.hwaddr.length = hwaddrlen
  addr : 0 ≤ fd → AddrRead K w'
  behind : 0 ≤ fd → b = .solaris → NameRead K fd w'

theorem DevRead.failed {fd : Int} {w' : World} (h : Unread w w') (hfd : fd < 0) :
    DevRead K w fd w' :=
  ⟨h.started, fun hlen => by rw [h.hwaddr, hlen], fun hopen => by omega, fun hopen => by omega⟩

theorem DevRead.read {fd : Int} {w' : World} (h : w'.cfg.started = w.cfg.started)
    (haddr : AddrRead K w') (hbehind : b = .solaris → NameRead K fd w') : DevRead K w fd w' :=
  ⟨h, fun _ => (congrArg List.length haddr).trans (K.addr_length _ _), fun _ => haddr,
    fun _ => hbehind⟩

end

/-- Linux fails when it cannot read the address. -/
theorem Linux.startDev_reads {K : Kernel .linux} {L : World → Event → Prop} (ifname : CStr)
    (fallback : Bool) (w : World) :
    Sat (sysEnv K L) (fun _ => True) (DevRead K w) (fun _ _ => True)
      (Linux.tapcfgStartDev ifname fallback) w := by
  unfold Linux.tapcfgStartDev
  refine sat_bind (sat_ask fun (tapFd : Int) _ _ _ => ?_)
  split
  · exact sat_ret trivial (.failed ⟨rfl, rfl⟩ (by decide))
  refine sat_bind (sat_ask fun (first : Reply) _ _ _ => ?_)
  -- whether or not the device is asked for again without its name
  have hreply : ∀ {c : Prop} [Decidable c] {fd : Int} {req : Request} {w₂ : World}, Unread w w₂ →
      Sat (sysEnv K L) (fun _ => True) (fun _ => Unread w) (fun _ _ => True)
        (if c then ioctl fd req else .ret first) w₂ := by
    intro c _ fd req w₂ h₂
    split
    · exact sat_ask fun _ _ _ _ => ⟨h₂.1, h₂.2⟩
    · exact sat_ret trivial h₂
  refine sat_seq (hreply ⟨rfl, rfl⟩) fun reply w₃ h₃ => ?_
  split
  · exact sat_bind (sat_ask fun _ _ _ _ => sat_ret trivial (.failed ⟨h₃.1, h₃.2⟩ (by decide)))
  refine sat_bind (sat_modify (sat_bind (sat_ask fun (s : Int) _ _ _ => ?_)))
  split
  · exact sat_bind (sat_ask fun _ _ _ _ => sat_ret trivial (.failed ⟨h₃.1, h₃.2⟩ (by decide)))
  refine sat_bind (sat_load trivial (sat_bind (sat_ask fun (hw : Reply) _ htrue _ => ?_)))
  split
  · refine sat_bind (sat_ask fun _ _ _ _ => sat_bind (sat_ask fun _ _ _ _ => ?_))
    exact sat_ret trivial (.failed ⟨h₃.1, h₃.2⟩ (by decide))
  · refine sat_bind (sat_modify (sat_bind (sat_ask fun _ _ _ _ => sat_ret trivial ?_)))
    refine .read h₃.started ?_ fun h => by cases h
    -- the answer tells the address, and closing the socket changes none
    have haddr : hw.ifr.hwaddr.take hwaddrlen = _ := htrue ‹_›
    refine AddrRead.quiet ?_ (quiet_close s)
    refine Eq.trans haddr ?_
    exact (K.addr_kept _ _ _ (quiet_ioctl (b := .linux) s rfl rfl rfl hw).1).symm

namespace Bsd

/-- Calls only. -/
abbrev CallsOnly {α : Type} (p : Io α) : Prop := Uses (· = .ok) (fun _ => True) p

theorem callsOnly_openConfigured (ifname : CStr) : CallsOnly (openConfigured ifname) := by
  unfold openConfigured
  split
  · exact (uses_call trivial).bind fun _ => uses_ret _
  · exact uses_ret _

theorem callsOnly_tryDevices (n i : Nat) : CallsOnly (tryDevices n i) := by
  induction n generalizing i with
  | zero => exact uses_ret _
  | succ n ih =>
      unfold tryDevices
      refine (uses_call trivial).bind fun (tapFd : Int) => ?_
      split
      · exact uses_ret _
      · exact ih (i + 1)

theorem callsOnly_findOther (netbsd : Bool) : CallsOnly (findOther netbsd) := by
  cases netbsd with
  | false => exact (callsOnly_tryDevices 16 0).bind fun _ => uses_ret _
  | true =>
      show CallsOnly cloneDevice
      unfold cloneDevice
      refine (uses_call trivial).bind fun (tapFd : Int) => ?_
      split
      · refine (uses_call trivial).bind fun (reply : Reply) => ?_
        split
        · exact uses_ret _
        · exact uses_ret _
      · exact uses_ret _

/-- When the list has the address of the interface, the loop finds it. -/
theorem linkAddress_eq {ifa : List Ifaddr} (cfg : Tapcfg) {addr : List Byte}
    (htrue : ∀ curr ∈ ifa, ∀ link, curr.link = some link → curr.name = cfg.ifname →
      link.take hwaddrlen = addr)
    (hlisted : cfg.hwaddr = addr ∨ ∃ curr ∈ ifa, curr.name = cfg.ifname ∧ curr.link ≠ none) :
    linkAddress ifa cfg = addr := by
  unfold linkAddress
  generalize cfg.hwaddr = old at hlisted ⊢
  induction ifa generalizing old with
  | nil =>
      rcases hlisted with rfl | ⟨curr, hmem, -⟩
      · rfl
      · cases hmem
  | cons first ifa ih =>
      rw [List.foldl_cons]
      refine ih (fun curr hmem => htrue curr (List.mem_cons_of_mem _ hmem)) _ ?_
      rcases hlink : first.link with - | link
      · rcases hlisted with hold | ⟨curr, hmem, hname, hsome⟩
        · exact .inl hold
        · rcases List.mem_cons.mp hmem with rfl | hmem
          · exact absurd hlink hsome
          · exact .inr ⟨curr, hmem, hname, hsome⟩
      · by_cases hname : first.name = cfg.ifname
        · refine .inl ?_
          dsimp only
          rw [if_pos hname]
          exact htrue first List.mem_cons_self link hlink hname
        · dsimp only
          rw [if_neg hname]
          rcases hlisted with hold | ⟨curr, hmem, hcurr, hsome⟩
          · exact .inl hold
          · rcases List.mem_cons.mp hmem with rfl | hmem
            · exact absurd hcurr hname
            · exact .inr ⟨curr, hmem, hcurr, hsome⟩

/-- The BSDs take the address from the list of all interfaces. -/
theorem startDev_reads {K : Kernel b} (hb : b ≠ .solaris) (netbsd : Bool) (ifname : CStr)
    (fallback : Bool) (w : World) :
    Sat (sysEnv K (Discovers K)) (fun _ => True) (DevRead K w) (fun _ _ => True)
      (Bsd.tapcfgStartDev netbsd ifname fallback) w := by
  unfold Bsd.tapcfgStartDev
  refine sat_seq (sat_calls (callsOnly_openConfigured ifname)) fun first w₁ h₁ => ?_
  have hfound : CallsOnly (if first.1 < 0 ∧ fallback = true then findOther netbsd
      else .ret (some first)) := by
    split
    · exact callsOnly_findOther netbsd
    · exact uses_ret _
  refine sat_seq (sat_calls hfound) fun found w₂ h₂ => ?_
  have hunread : Unread w w₂ := .of_cfg (h₂.trans h₁)
  cases found with
  | none => exact sat_ret trivial (.failed hunread (by decide))
  | some found =>
      obtain ⟨tapFd, buf⟩ := found
      dsimp only
      split
      · exact sat_ret trivial (.failed ⟨hunread.1, hunread.2⟩ (by omega))
      refine sat_bind (sat_modify (sat_bind (sat_ask fun (answer : Option (List Ifaddr)) _ htrue
        hlisted => ?_)))
      obtain ⟨ifa, rfl, hlisted⟩ := hlisted
      refine sat_bind (sat_modify (sat_ret trivial (.read hunread.started ?_ fun h => ?_)))
      · have haddr := linkAddress_eq { w₂.cfg with ifname := buf.take maxIfname }
          (fun curr hmem link hlink hname => (htrue ifa rfl curr hmem link hlink).trans
            (congrArg (K.addr w₂.hist) hname)) (.inr hlisted)
        exact Eq.trans haddr (K.addr_kept _ _ _ (quiet_getifaddrs (b := b) _).1).symm
      · exact absurd h hb

end Bsd

/-- Solaris asks the device. -/
theorem Solaris.startDev_reads {K : Kernel .solaris} (ifname : CStr) (fallback : Bool)
    {w : World} (hlen : w.cfg.hwaddr.length = hwaddrlen) :
    Sat (sysEnv K (Discovers K)) (fun _ => True) (DevRead K w) (fun _ _ => True)
      (Solaris.tapcfgStartDev ifname fallback) w := by
  unfold Solaris.tapcfgStartDev
  cases namedPpa ifname fallback with
  | none => exact sat_ret trivial (.failed ⟨rfl, rfl⟩ (by decide))
  | some ppa =>
      refine sat_seq (unit_plumbNamed ppa fallback w) fun found w₁ h₁ => ?_
      have hunread : Unread w w₁ := .of_cfg h₁.cfg
      cases found with
      | none => exact sat_ret trivial (.failed hunread (by decide))
      | some plumbed =>
          have hunit := h₁.unit plumbed rfl
          refine sat_bind (sat_modify (sat_bind (sat_ask fun (answer : Option (List Byte)) _ htrue
            hread => ?_)))
          obtain ⟨addr, rfl⟩ := hread
          have hname := tapName_take hunit.nonneg hunit.int
          have haddr : addr = K.addr w₁.hist (tapName plumbed.newppa) :=
            (htrue addr rfl).trans (congrArg (K.addr w₁.hist) hunit.behind)
          refine sat_bind (sat_modify (sat_bind (sat_modify (sat_ret trivial ?_))))
          refine .read hunread.started ?_ fun _ => ?_
          · have hsix : addr.length = hwaddrlen :=
              (congrArg List.length haddr).trans (K.addr_length _ _)
            have hold : w₁.cfg.hwaddr.drop addr.length = [] := by
              refine List.drop_eq_nil_of_le (Nat.le_of_eq ?_)
              exact (congrArg List.length hunread.hwaddr).trans (hlen.trans hsix.symm)
            show addr ++ w₁.cfg.hwaddr.drop addr.length = _
            rw [hold, List.append_nil, haddr]
            refine Eq.trans ?_ (K.addr_kept _ _ _ (quiet_getPhysaddr (b := .solaris) _ _).1).symm
            exact congrArg (K.addr w₁.hist) hname.symm
          · refine Eq.trans (K.behind_kept _ _ _ ((quiet_getPhysaddr _ _).2 _)) ?_
            exact hunit.behind.trans hname.symm

/-! ## The calls -/

theorem Coherent.idle {K : Kernel b} {w : World} (hlen : w.cfg.hwaddr.length = hwaddrlen)
    (h : ¬ w.cfg.started = true) : Coherent K w :=
  ⟨hlen, fun hs => absurd hs h, fun hs => absurd hs h⟩

section

variable {K : Kernel b} {w : World}

theorem startDev_reads (ifname : CStr) (fallback : Bool)
    (hlen : w.cfg.hwaddr.length = hwaddrlen) :
    Sat (sysEnv K (Discovers K)) (fun _ => True) (DevRead K w) (fun _ _ => True)
      (tapcfgStartDev b ifname fallback) w := by
  cases b with
  | linux => exact Linux.startDev_reads ifname fallback w
  | bsd => exact Bsd.startDev_reads (by decide) false ifname fallback w
  | netbsd => exact Bsd.startDev_reads (by decide) true ifname fallback w
  | solaris => exact Solaris.startDev_reads ifname fallback hlen

theorem start_coherent (ifname : Option CStr) (fallback : Bool) (hw : Coherent K w) :
    Sat (sysEnv K (Discovers K)) (fun _ => True) (fun _ => Coherent K) (fun _ _ => True)
      (tapcfgStart b ifname fallback) w := by
  unfold tapcfgStart
  refine sat_bind (sat_load trivial ?_)
  split
  · exact sat_ret trivial hw
  refine sat_seq (startDev_reads _ _ hw.length) fun tapFd w₁ h₁ => ?_
  have hidle : ¬ w₁.cfg.started = true := by rwa [h₁.started]
  have hlen := h₁.length hw.length
  split
  · unfold startError
    refine sat_bind (sat_modify ?_)
    have hclosed : ∀ w', w'.cfg = { w₁.cfg with ifname := [] } →
        Sat (sysEnv K (Discovers K)) (fun _ => True) (fun _ => Coherent K) (fun _ _ => True)
          ((modify fun cfg => { cfg with tapFd := -1 }).bind fun _ => .ret (-1)) w' := by
      intro w' h'
      refine sat_bind (sat_modify (sat_ret trivial (.idle ?_ ?_)))
      · rw [h']
        exact hlen
      · rw [h']
        exact hidle
    split
    · exact sat_bind (sat_ask fun _ _ _ _ => hclosed _ rfl)
    · exact hclosed _ rfl
  · refine sat_bind (sat_ask fun (ctrlFd : Int) _ _ _ => ?_)
    split
    · exact sat_ret trivial (.idle hlen hidle)
    · refine sat_bind (sat_modify (sat_ret trivial ⟨hlen, fun _ => ?_, fun _ hb => ?_⟩))
      · exact (h₁.addr (by omega)).quiet (quiet_socket .control)
      · exact (h₁.behind (by omega) hb).quiet (quiet_socket .control)

/-- The accesses of a stop leave the address alone. -/
def KeepsHwaddr (f : World → Except Fault World) : Prop :=
  ∀ w w', f w = .ok w' → w'.cfg.hwaddr = w.cfg.hwaddr

/-- Its calls may be any. -/
abbrev Keeps {α : Type} (p : Io α) : Prop := Uses KeepsHwaddr (fun _ => True) p

theorem keeps_load : Keeps (load : Io World) := by
  refine uses_load fun w w' h => ?_
  cases h
  rfl

theorem keeps_modify {f : Tapcfg → Tapcfg} (hf : ∀ cfg, (f cfg).hwaddr = cfg.hwaddr) :
    Keeps (modify f) := by
  refine uses_update fun w w' h => ?_
  cases h
  exact hf w.cfg

theorem keeps_call (c : Call) : Keeps (.call c .ret : Io c.Ans) := uses_call trivial

theorem keeps_assert (c : Prop) [Decidable c] : Keeps (assert c) := by
  unfold assert
  split
  · exact uses_ret ()
  · exact ⟨trivial, trivial⟩

/-- A request that ends the stop when it fails. -/
theorem keeps_ioctlOr {fd : Int} {req : Request} {rest : Reply → Io Unit}
    (hrest : ∀ reply, Keeps (rest reply)) :
    Keeps ((ioctl fd req).bind fun reply => if reply.ret < 0 then .ret () else rest reply) := by
  refine (keeps_call _).bind fun (reply : Reply) => ?_
  split
  · exact uses_ret ()
  · exact hrest reply

theorem keeps_closeField {fd : Tapcfg → Int} {clear : Tapcfg → Tapcfg}
    (hclear : ∀ cfg, (clear cfg).hwaddr = cfg.hwaddr) : Keeps (closeField fd clear) := by
  unfold closeField
  refine keeps_load.bind fun w => ?_
  split
  · exact (keeps_call _).bind fun _ => keeps_modify hclear
  · exact uses_ret ()

theorem Solaris.keeps_stopDev : Keeps Solaris.tapcfgStopDev := by
  unfold Solaris.tapcfgStopDev
  refine keeps_load.bind fun w => ?_
  refine (keeps_assert _).bind fun _ => (keeps_assert _).bind fun _ => ?_
  refine keeps_ioctlOr fun _ => ?_
  refine keeps_ioctlOr fun _ => ?_
  refine keeps_ioctlOr fun _ => ?_
  refine keeps_ioctlOr fun _ => ?_
  refine keeps_ioctlOr fun _ => ?_
  refine keeps_ioctlOr fun _ => ?_
  refine keeps_ioctlOr fun _ => ?_
  refine (keeps_call _).bind fun _ => ?_
  refine (keeps_modify fun _ => by rfl).bind fun _ => ?_
  refine (keeps_call _).bind fun _ => ?_
  exact keeps_modify fun _ => rfl

theorem keeps_stopDev (b : Backend) : Keeps (tapcfgStopDev b) := by
  cases b with
  | linux => exact uses_ret ()
  | bsd => exact uses_ret ()
  | netbsd => exact uses_ret ()
  | solaris => exact Solaris.keeps_stopDev

theorem keeps_stop (b : Backend) : Keeps (tapcfgStop b) := by
  unfold tapcfgStop
  refine keeps_load.bind fun w => ?_
  split
  · refine (keeps_stopDev b).bind fun _ => ?_
    refine (keeps_closeField fun _ => by rfl).bind fun _ => ?_
    refine (keeps_closeField fun _ => by rfl).bind fun _ => ?_
    exact keeps_modify fun _ => rfl
  · exact uses_ret ()

/-- A stop leaves no started device. -/
theorem stop_coherent (hw : Coherent K w) :
    Sat (sysEnv K (Discovers K)) (fun _ => True) (fun _ => Coherent K) (fun _ _ => True)
      (tapcfgStop b) w := by
  have hstops : Sat (sysEnv K (Discovers K)) (fun _ => True)
      (fun _ w' => w'.cfg.started = false) (fun _ _ => True) (tapcfgStop b) w := by
    unfold tapcfgStop
    refine sat_bind (sat_load trivial ?_)
    split
    · refine sat_seq (sat_trivial _ _) fun _ w₁ _ => ?_
      refine sat_seq (sat_trivial _ _) fun _ w₂ _ => ?_
      refine sat_seq (sat_trivial _ _) fun _ w₃ _ => ?_
      exact sat_modify rfl
    · exact sat_ret trivial (eq_false_of_ne_true ‹_›)
  have hkeeps : Sat (sysEnv K (Discovers K)) (fun w' => w'.cfg.hwaddr = w.cfg.hwaddr)
      (fun _ w' => w'.cfg.hwaddr = w.cfg.hwaddr) (fun _ _ => True) (tapcfgStop b) w := by
    refine sat_of_kept (keeps_stop b) (fun f hf w₁ w₂ h₁ h => (hf w₁ w₂ h).trans h₁) ?_ rfl
    rintro c - w₁ a w₂ h₁ ⟨-, -, -, rfl⟩
    exact h₁
  refine (hstops.and hkeeps).mono (fun _ _ => trivial) (fun _ w' _ h => ?_) (fun _ _ _ _ => trivial)
  exact .idle ((congrArg List.length h.2).trans hw.length) (by simp [h.1])

/-- An access that leaves the interface of the object alone. -/
def KeepsIface (f : World → Except Fault World) : Prop :=
  f = .ok ∨ ∃ flags : Nat, f = fun w => .ok { w with cfg := { w.cfg with status := flags } }

/-- Calls that leave the address alone, and changes of the status. -/
abbrev KeepsAddr (b : Backend) {α : Type} (p : Io α) : Prop := Uses KeepsIface (Quiet b) p

theorem keepsAddr_load : KeepsAddr b (load : Io World) := uses_load (.inl rfl)

theorem keepsAddr_onlyIf {c : Prop} [Decidable c] {p : Io Unit} (hp : KeepsAddr b p) :
    KeepsAddr b (onlyIf c p) := by
  unfold onlyIf
  split
  · exact hp
  · exact uses_ret ()

theorem KeepsAddr.coherent {α : Type} {p : Io α} {L : World → Event → Prop}
    (hp : KeepsAddr b p) (hw : Coherent K w) :
    Sat (sysEnv K L) (fun _ => True) (fun _ => Coherent K) (fun _ _ => True) p w := by
  have hkept : Sat (sysEnv K L) (Coherent K) (fun _ => Coherent K) (fun _ _ => True) p w := by
    refine sat_of_kept hp ?_ ?_ hw
    · rintro f (rfl | ⟨flags, rfl⟩) w₁ w₂ h₁ hf
      · cases hf
        exact h₁
      · cases hf
        exact ⟨h₁.length, h₁.addr, h₁.behind⟩
    · rintro c hc w₁ a w₂ h₁ ⟨-, -, -, rfl⟩
      exact h₁.quiet hc
  exact hkept.mono (fun _ _ => trivial) (fun _ _ _ h => h) (fun _ _ _ h => h)

theorem Bsd.keepsAddr_attachIpv6 (defines : BsdDefines) (ifname : CStr) :
    KeepsAddr b (Bsd.tapcfgAttachIpv6 defines ifname) := by
  unfold Bsd.tapcfgAttachIpv6
  split
  · refine (uses_call (quiet_socket .inet6)).bind fun (s : Int) => ?_
    refine Uses.unless ((uses_call (quiet_ioctl s rfl rfl rfl)).bind fun (err : Reply) => ?_)
    refine Uses.unless ((uses_call (quiet_ioctl s rfl rfl rfl)).bind fun (err : Reply) => ?_)
    exact Uses.unless ((uses_call (quiet_close s)).bind fun _ => uses_ret _)
  · exact uses_ret _

theorem Bsd.keepsAddr_adjustInet6 (code : Inet6Code) (value newval : Int) :
    KeepsAddr b (Bsd.adjustInet6 code value newval) := by
  unfold Bsd.adjustInet6
  refine (uses_call (quiet_getInet6 code)).bind fun (current : Int) => keepsAddr_onlyIf ?_
  exact (uses_call (quiet_setInet6 code newval)).bind fun _ => uses_ret ()

theorem keepsAddr_prepareIpv6 (defines : BsdDefines) (flags : Nat) :
    KeepsAddr b (tapcfgIfacePrepareIpv6 b defines flags) := by
  have hbsd : KeepsAddr b (Bsd.tapcfgIfacePrepareIpv6 defines flags) := by
    unfold Bsd.tapcfgIfacePrepareIpv6
    refine Uses.unless ((keepsAddr_onlyIf (Bsd.keepsAddr_adjustInet6 _ _ _)).bind fun _ => ?_)
    refine keepsAddr_load.bind fun w => ?_
    refine (Bsd.keepsAddr_attachIpv6 defines _).bind fun _ => Uses.unless ?_
    refine keepsAddr_onlyIf ((Bsd.keepsAddr_adjustInet6 _ _ _).bind fun _ => ?_)
    exact Bsd.keepsAddr_adjustInet6 _ _ _
  cases b with
  | linux => exact uses_ret ()
  | bsd => exact hbsd
  | netbsd => exact hbsd
  | solaris =>
      show KeepsAddr _ (Solaris.tapcfgIfacePrepareIpv6 flags)
      unfold Solaris.tapcfgIfacePrepareIpv6
      refine (uses_call (quiet_socket .inet6)).bind fun (ctrlFd : Int) => Uses.unless ?_
      refine keepsAddr_load.bind fun w => ?_
      refine (uses_call (quiet_ioctl ctrlFd rfl rfl rfl)).bind fun (got : Reply) => ?_
      split
      · exact (uses_call (quiet_close ctrlFd)).bind fun _ => uses_ret ()
      · exact (uses_call (quiet_ioctl ctrlFd rfl rfl rfl)).bind fun _ =>
          uses_call (quiet_close ctrlFd)

theorem keepsAddr_setStatus (defines : BsdDefines) (flags : Nat) :
    KeepsAddr b (tapcfgIfaceSetStatus b defines flags) := by
  unfold tapcfgIfaceSetStatus
  refine keepsAddr_load.bind fun w => Uses.unless ?_
  refine (keepsAddr_onlyIf (keepsAddr_prepareIpv6 defines flags)).bind fun _ => ?_
  refine (uses_call (quiet_ioctl w.cfg.ctrlFd rfl rfl rfl)).bind fun (got : Reply) => ?_
  refine Uses.unless ?_
  refine (uses_call (quiet_ioctl w.cfg.ctrlFd rfl rfl rfl)).bind fun (set : Reply) => ?_
  exact Uses.unless ((uses_update (.inr ⟨flags, rfl⟩)).bind fun _ => uses_ret _)

/-- What `tapcfg_hwaddr_ioctl` leaves: the address as it was, or the new one. -/
structure HwaddrSet (K : Kernel b) (w : World) (hwaddr : List Byte) (ret : Int) (w' : World) :
    Prop where
  cfg : w'.cfg = w.cfg
  addr : K.addr w'.hist w.cfg.ifname = if ret = -1 then w.cfg.hwaddr else hwaddr
  behind : b = .solaris → NameRead K w.cfg.tapFd w'

theorem hwaddrSet_ioctl {fd : Int} {req : Request} {hwaddr : List Byte} (hw : Coherent K w)
    (hup : w.cfg.started = true) (hsets : req.sets = some { name := w.cfg.ifname, hwaddr })
    (hcreates : req.creates = false) (hattaches : req.attaches = false)
    (hlen : hwaddr.length = hwaddrlen) :
    Sat (sysEnv K (Discovers K)) (fun _ => True) (HwaddrSet K w hwaddr) (fun _ _ => True)
      ((ioctl fd req).bind fun reply => .ret reply.ret) w := by
  refine sat_bind (sat_ask fun (reply : Reply) _ _ _ => sat_ret trivial ⟨rfl, ?_, fun hb => ?_⟩)
  · by_cases hret : reply.ret = -1
    · have hquiet : ¬ Renews ⟨.ioctl fd req, reply⟩ := by
        rintro (h | ⟨-, h⟩)
        · rw [hcreates] at h
          cases h
        · exact h hret
      rw [if_pos hret]
      exact (K.addr_kept _ _ _ hquiet).trans (hw.addr hup).symm
    · rw [if_neg hret]
      exact K.addr_set _ _ _ _ _ hsets hret hlen
  · exact (K.behind_kept _ _ _ (detached_ioctl fd hattaches reply _)).trans (hw.behind hup hb)

theorem Solaris.hwaddrSet {K : Kernel .solaris} {hwaddr : List Byte} (hw : Coherent K w)
    (hup : w.cfg.started = true) (hlen : (hwaddr.take hwaddrlen).length = hwaddrlen) :
    Sat (sysEnv K (Discovers K)) (fun _ => True) (HwaddrSet K w (hwaddr.take hwaddrlen))
      (fun _ _ => True) (Solaris.tapcfgHwaddrIoctl hwaddr) w := by
  have hname : K.behind w.hist w.cfg.tapFd = w.cfg.ifname := hw.behind hup rfl
  unfold Solaris.tapcfgHwaddrIoctl
  refine sat_bind (sat_load trivial (sat_bind ⟨trivial, ?_⟩))
  rintro ack w' ⟨-, -, hlost, rfl⟩
  have hdetached : ¬ Attaches .solaris w.cfg.tapFd
      ⟨.setPhysaddr w.cfg.tapFd (hwaddr.take hwaddrlen), ack⟩ := fun h => h
  have hbehind : NameRead K w.cfg.tapFd
      (w.log ⟨.setPhysaddr w.cfg.tapFd (hwaddr.take hwaddrlen), ack⟩) :=
    (K.behind_kept _ _ _ hdetached).trans hname
  cases ack with
  | ok =>
      refine sat_ret trivial (sat_ret trivial ⟨rfl, ?_, fun _ => hbehind⟩)
      have hset := K.addr_setPhysaddr w.hist w.cfg.tapFd _ hlen
      rw [hname] at hset
      exact hset
  | refused =>
      refine sat_ret trivial (sat_ret trivial ⟨rfl, ?_, fun _ => hbehind⟩)
      have hquiet : ¬ Renews ⟨.setPhysaddr w.cfg.tapFd (hwaddr.take hwaddrlen), .refused⟩ :=
        fun h => h rfl
      exact (K.addr_kept _ _ _ hquiet).trans (hw.addr hup).symm
  | lost =>
      refine sat_ret trivial (sat_ret trivial ⟨rfl, ?_, fun _ => hbehind⟩)
      have hkept := hlost rfl
      rw [hname] at hkept
      exact hkept.trans (hw.addr hup).symm

theorem hwaddrSet (defines : BsdDefines) {hwaddr : List Byte} (hw : Coherent K w)
    (hup : w.cfg.started = true) (hlen : (hwaddr.take hwaddrlen).length = hwaddrlen) :
    Sat (sysEnv K (Discovers K)) (fun _ => True) (HwaddrSet K w (hwaddr.take hwaddrlen))
      (fun _ _ => True) (tapcfgHwaddrIoctl b defines hwaddr) w := by
  have hbsd : Sat (sysEnv K (Discovers K)) (fun _ => True)
      (HwaddrSet K w (hwaddr.take hwaddrlen)) (fun _ _ => True)
      (Bsd.tapcfgHwaddrIoctl defines hwaddr) w := by
    unfold Bsd.tapcfgHwaddrIoctl
    refine sat_bind (sat_load trivial ?_)
    dsimp only
    split
    · exact hwaddrSet_ioctl hw hup rfl rfl rfl hlen
    · split
      · exact hwaddrSet_ioctl hw hup rfl rfl rfl hlen
      · exact sat_ret trivial ⟨rfl, (hw.addr hup).symm, hw.behind hup⟩
  cases b with
  | linux =>
      show Sat _ _ _ _ (Linux.tapcfgHwaddrIoctl hwaddr) w
      unfold Linux.tapcfgHwaddrIoctl
      exact sat_bind (sat_load trivial (hwaddrSet_ioctl hw hup rfl rfl rfl hlen))
  | bsd => exact hbsd
  | netbsd => exact hbsd
  | solaris => exact Solaris.hwaddrSet hw hup hlen

/-- A set is refused, or changes the address of the interface and of the object. -/
theorem setHwaddr_coherent (defines : BsdDefines) {hwaddr : List Byte} {length : Int}
    (hlength : length ≤ hwaddr.length) (hw : Coherent K w) :
    Sat (sysEnv K (Discovers K)) (fun _ => True) (fun _ => Coherent K) (fun _ _ => True)
      (tapcfgIfaceSetHwaddr b defines hwaddr length) w := by
  unfold tapcfgIfaceSetHwaddr
  refine sat_bind (sat_load trivial ?_)
  split
  · exact sat_ret trivial hw
  split
  · exact sat_ret trivial hw
  have hup : w.cfg.started = true := by simp_all
  have hlen : (hwaddr.take hwaddrlen).length = hwaddrlen := by
    refine List.length_take_of_le ?_
    omega
  refine sat_seq (hwaddrSet defines hw hup hlen) fun ret w₁ h₁ => ?_
  have haddr := h₁.addr
  split
  · rw [if_pos ‹_›] at haddr
    refine sat_ret trivial ⟨by rw [h₁.cfg]; exact hw.length, fun _ => ?_, fun _ hb => ?_⟩
    · show w₁.cfg.hwaddr = K.addr w₁.hist w₁.cfg.ifname
      rw [h₁.cfg]
      exact haddr.symm
    · rw [h₁.cfg]
      exact h₁.behind hb
  · rw [if_neg ‹_›] at haddr
    refine sat_bind (sat_modify (sat_ret trivial ⟨hlen, fun _ => ?_, fun _ hb => ?_⟩))
    · show hwaddr.take hwaddrlen = K.addr w₁.hist w₁.cfg.ifname
      rw [h₁.cfg]
      exact haddr.symm
    · show K.behind w₁.hist w₁.cfg.tapFd = w₁.cfg.ifname
      exact (congrArg (fun cfg => K.behind w₁.hist cfg.tapFd) h₁.cfg).trans
        ((h₁.behind hb).trans rfl)

end

/-! ## Every run -/

/-- A call of the library. -/
inductive IfaceCall where
  | start (ifname : Option CStr) (fallback : Bool)
  | stop
  | setHwaddr (hwaddr : List Byte) (length : Int)
  | setStatus (flags : Nat)
  | getHwaddr

/-- What the call does; `tapcfg_iface_get_hwaddr` only reads the object. -/
def IfaceCall.prog (b : Backend) (defines : BsdDefines) : IfaceCall → Io Int
  | .start ifname fallback => tapcfgStart b ifname fallback
  | .stop => do
      tapcfgStop b
      return 0
  | .setHwaddr hwaddr length => tapcfgIfaceSetHwaddr b defines hwaddr length
  | .setStatus flags => tapcfgIfaceSetStatus b defines flags
  | .getHwaddr => return 0

/-- The caller passes the bytes it announces. -/
def IfaceCall.WellFormed : IfaceCall → Prop
  | .setHwaddr hwaddr length => length ≤ hwaddr.length
  | _ => True

/-- One call, whose answers are such as `L` allows. -/
def IfaceStep (defines : BsdDefines) (K : Kernel b) (L : World → Event → Prop) (w w' : World) :
    Prop :=
  ∃ (c : IfaceCall) (r : Int), c.WellFormed ∧
    Reaches (sysEnv K L) (c.prog b defines, w) (.ret r, w')

/-- The object after `tapcfg_init`. -/
def initialWorld : World := ⟨tapcfgInit, []⟩

section

variable {K : Kernel b} {defines : BsdDefines} {w w' : World}

theorem Coherent.step (hw : Coherent K w) (h : IfaceStep defines K (Discovers K) w w') :
    Coherent K w' := by
  obtain ⟨c, r, hc, hr⟩ := h
  have hsat : Sat (sysEnv K (Discovers K)) (fun _ => True) (fun _ => Coherent K)
      (fun _ _ => True) (c.prog b defines) w := by
    cases c with
    | start ifname fallback => exact start_coherent ifname fallback hw
    | stop => exact sat_seq (stop_coherent hw) fun _ w₁ h₁ => sat_ret trivial h₁
    | setHwaddr hwaddr length => exact setHwaddr_coherent defines hc hw
    | setStatus flags => exact (keepsAddr_setStatus defines flags).coherent hw
    | getHwaddr => exact sat_ret trivial hw
  exact (hsat.reaches hr).2

/-- The address that is returned is the one the kernel has for the interface that is named. -/
def HwaddrCurrent (K : Kernel b) (w : World) : Prop :=
  ∃ ifname, tapcfgGetIfname w.cfg = some ifname ∧
    tapcfgIfaceGetHwaddr w.cfg = some (K.addr w.hist ifname, hwaddrlen) ∧
    (K.addr w.hist ifname).length = hwaddrlen

theorem not_hwaddrCurrent (hne : w.cfg.hwaddr ≠ K.addr w.hist w.cfg.ifname) :
    ¬ HwaddrCurrent K w := by
  rintro ⟨ifname, hname, haddr, -⟩
  have hup : w.cfg.started = true := by
    by_contra hidle
    rw [tapcfgGetIfname, if_neg hidle] at hname
    cases hname
  rw [tapcfgGetIfname, if_pos hup] at hname
  rw [tapcfgIfaceGetHwaddr, if_pos hup] at haddr
  cases hname
  exact hne (Prod.mk.inj (Option.some.inj haddr)).1

/-- In every run in which each start discovers the address, a started device has the
address the kernel has for its interface. -/
theorem hwaddr_coherent
    (h : Runs (· = initialWorld) (IfaceStep defines K (Discovers K)) w)
    (hup : w.cfg.started = true) : HwaddrCurrent K w := by
  have hw : Coherent K w := by
    refine h.invariant (I := Coherent K) ?_ fun _ _ hw hs => hw.step hs
    rintro w rfl
    exact .idle rfl (by decide)
  have haddr : w.cfg.hwaddr = K.addr w.hist w.cfg.ifname := hw.addr hup
  refine ⟨w.cfg.ifname, if_pos hup, ?_, K.addr_length _ _⟩
  rw [← haddr]
  exact if_pos hup

end

/-! ## Runs against a system that tells its addresses -/

/-- What it puts into a reply. -/
def tellIfr (K : Kernel b) (h : List Event) : Request → Ifreq
  | .tunsetiff _ => { name := "tap0".toList }
  | .siocgifhwaddr ifr => { hwaddr := K.addr h ifr.name }
  | _ => {}

/-- It refuses `TAPGIFNAME` and what is asked of a descriptor that is not open. -/
def tellReply (K : Kernel b) (h : List Event) (fd : Int) (req : Request) : Reply :=
  match req with
  | .tapgifname _ => { ret := -1 }
  | req => if IsOpen h fd then { ret := 0, ifr := tellIfr K h req } else { ret := -1 }

/-- Its answers; when it is `silent` it neither lists the interfaces nor tells the
physical address of a device. -/
def tell (K : Kernel b) (silent : Bool) (w : World) : (c : Call) → c.Ans
  | .openDev _ => (nextFd w.hist : Int)
  | .socket _ => (nextFd w.hist : Int)
  | .close _ => ()
  | .ioctl fd req => tellReply K w.hist fd req
  | .getifaddrs =>
      if silent then none
      else some [{ name := w.cfg.ifname, link := some (K.addr w.hist w.cfg.ifname) }]
  | .getPhysaddr fd => if silent then none else some (K.addr w.hist (K.behind w.hist fd))
  | .setPhysaddr _ _ => SetAck.ok
  | .getInet6 _ => (-1 : Int)
  | .setInet6 _ _ => (-1 : Int)

/-- That system. -/
def telling (K : Kernel b) (silent : Bool) : Responder World Call Call.Ans := fun w c =>
  (tell K silent w c, w.log ⟨c, tell K silent w c⟩)

theorem tellReply_credible (K : Kernel b) (h : List Event) (fd : Int) (req : Request) :
    Credible h ⟨.ioctl fd req, tellReply K h fd req⟩ := by
  unfold tellReply
  split
  · exact .inl rfl
  · split
    · exact .inr ⟨Int.le_refl 0, ‹_›⟩
    · exact .inl rfl

theorem tellReply_truthful (K : Kernel b) (h : List Event) (fd : Int) (req : Request) :
    K.Truthful h ⟨.ioctl fd req, tellReply K h fd req⟩ := by
  cases req with
  | tapgifname ifr => exact fun hret => absurd rfl hret
  | tunsetiff ifr =>
      intro _
      show (if IsOpen h fd then ({ ret := 0, ifr := { name := "tap0".toList } } : Reply)
        else { ret := -1 }).ifr.name.length < ifnamsiz
      split <;> decide
  | tunnewppa ppa =>
      show (if IsOpen h fd then ({ ret := 0, ifr := {} } : Reply)
        else { ret := -1 }).ret ≤ 0x7fffffff
      split <;> decide
  | siocgifhwaddr ifr =>
      intro hret
      by_cases hopen : IsOpen h fd
      · have hreply : tellReply K h fd (.siocgifhwaddr ifr) =
            { ret := 0, ifr := { hwaddr := K.addr h ifr.name } } := if_pos hopen
        rw [hreply]
        exact List.take_of_length_le (Nat.le_of_eq (K.addr_length _ _))
      · have hreply : tellReply K h fd (.siocgifhwaddr ifr) = { ret := -1 } := if_neg hopen
        exact absurd (congrArg Reply.ret hreply) hret
  | _ => trivial

/-- Its answers are credible and true. -/
theorem telling_follows {K : Kernel b} {L : World → Event → Prop} {silent : Bool}
    (hL : ∀ w c, L w ⟨c, tell K silent w c⟩) : Follows (telling K silent) (sysEnv K L) := by
  intro w c
  refine ⟨?_, ?_, hL w c, rfl⟩
  · cases c with
    | openDev path => exact .inr ⟨Int.natCast_nonneg _, nextFd_fresh _⟩
    | socket use => exact .inr ⟨Int.natCast_nonneg _, nextFd_fresh _⟩
    | ioctl fd req => exact tellReply_credible K w.hist fd req
    | _ => trivial
  · cases c with
    | ioctl fd req => exact tellReply_truthful K w.hist fd req
    | getifaddrs =>
        intro ifa hifa curr hcurr link hlink
        cases silent with
        | true => cases hifa
        | false =>
            cases hifa
            cases List.mem_singleton.mp hcurr
            cases hlink
            exact List.take_of_length_le (Nat.le_of_eq (K.addr_length _ _))
    | getPhysaddr fd =>
        intro addr haddr
        cases silent with
        | true => cases haddr
        | false =>
            cases haddr
            rfl
    | _ => trivial

theorem discovers_tell (K : Kernel b) (w : World) (c : Call) :
    Discovers K w ⟨c, tell K false w c⟩ := by
  cases c with
  | getifaddrs => exact ⟨_, rfl, _, List.mem_singleton.mpr rfl, rfl, fun h => by cases h⟩
  | getPhysaddr fd => exact ⟨_, rfl⟩
  | setPhysaddr fd hwaddr => exact fun h => by cases h
  | _ => trivial

/-- No assumption on the discovery. -/
def anyDiscovery : World → Event → Prop := fun _ _ => True

/-- FreeBSD -/
def freebsd : BsdDefines where
  siocsiflladdr := true
  siocsifphyaddr := false
  autoLinklocal := true
  protoattach := false
  acceptRtadv := true

/-- The world after a call. -/
def told (b : Backend) (silent : Bool) (c : IfaceCall) (w : World) : World :=
  ((c.prog b freebsd).run (telling (plainKernel b) silent) w).2

theorem told_step (silent : Bool) (c : IfaceCall) {w : World} {L : World → Event → Prop} (r : Int)
    (hL : ∀ w c, L w ⟨c, tell (plainKernel b) silent w c⟩) (hc : c.WellFormed)
    (hrun : ((c.prog b freebsd).run (telling (plainKernel b) silent) w).1 = .ok r) :
    IfaceStep freebsd (plainKernel b) L w (told b silent c w) :=
  ⟨c, r, hc, reaches_run (telling_follows hL) (Prod.ext hrun rfl)⟩

/-- Linux: a start. -/
def tap0World : World := told .linux false (.start none true) initialWorld

/-- And another address. -/
def newAddrWorld : World := told .linux false (.setHwaddr [2, 0, 0, 0, 0, 7] 6) tap0World

theorem hwaddr_coherent_set : HwaddrCurrent (plainKernel .linux) newAddrWorld := by
  have h₀ : Runs (· = initialWorld) (IfaceStep freebsd (plainKernel .linux)
      (Discovers (plainKernel .linux))) initialWorld := .start rfl
  have h₁ := h₀.next (told_step false (.start none true) 0 (discovers_tell _) trivial
    (by decide +kernel))
  have h₂ := h₁.next (told_step false (.setHwaddr [2, 0, 0, 0, 0, 7] 6) 0 (discovers_tell _)
    (Int.le_refl 6) (by decide +kernel))
  exact hwaddr_coherent h₂ (by decide +kernel)

/-- A start whose discovery fails. -/
def unreadWorld (b : Backend) : World := told b true (.start (some "tap0".toList) true) initialWorld

theorem unreadWorld_runs
    (hrun : (((IfaceCall.start (some "tap0".toList) true).prog b freebsd).run
      (telling (plainKernel b) true) initialWorld).1 = .ok 0) :
    Runs (· = initialWorld) (IfaceStep freebsd (plainKernel b) anyDiscovery) (unreadWorld b) := by
  have h₀ : Runs (· = initialWorld) (IfaceStep freebsd (plainKernel b) anyDiscovery)
      initialWorld := .start rfl
  exact h₀.next
    (told_step true (.start (some "tap0".toList) true) 0 (fun _ _ => trivial) trivial hrun)

/-- A BSD: a start on `tap0`, and a stop. -/
def stoppedWorld : World :=
  told .bsd false .stop (told .bsd false (.start (some "tap0".toList) true) initialWorld)

/-- And a start on `tap1` whose discovery fails. -/
def staleWorld : World := told .bsd true (.start (some "tap1".toList) true) stoppedWorld

theorem staleWorld_runs :
    Runs (· = initialWorld) (IfaceStep freebsd (plainKernel .bsd) anyDiscovery) staleWorld := by
  have h₀ : Runs (· = initialWorld) (IfaceStep freebsd (plainKernel .bsd) anyDiscovery)
      initialWorld := .start rfl
  have h₁ := h₀.next (told_step false (.start (some "tap0".toList) true) 0 (fun _ _ => trivial)
    trivial (by decide +kernel))
  have h₂ := h₁.next (told_step false .stop 0 (fun _ _ => trivial) trivial (by decide +kernel))
  exact h₂.next (told_step true (.start (some "tap1".toList) true) 0 (fun _ _ => trivial) trivial
    (by decide +kernel))

/-- Without the discovery a started device has an address that was never read, on the BSDs
and on Solaris, or that of an earlier interface. -/
theorem hwaddr_stale :
    (∃ w, Runs (· = initialWorld) (IfaceStep freebsd (plainKernel .bsd) anyDiscovery) w ∧
      w.cfg.started = true ∧ w.cfg.hwaddr = [0, 0, 0, 0, 0, 0] ∧
      ¬ HwaddrCurrent (plainKernel .bsd) w) ∧
    (∃ w, Runs (· = initialWorld) (IfaceStep freebsd (plainKernel .solaris) anyDiscovery) w ∧
      w.cfg.started = true ∧ w.cfg.hwaddr = [0, 0, 0, 0, 0, 0] ∧
      ¬ HwaddrCurrent (plainKernel .solaris) w) ∧
    ∃ w, Runs (· = initialWorld) (IfaceStep freebsd (plainKernel .bsd) anyDiscovery) w ∧
      w.cfg.started = true ∧ w.cfg.ifname = "tap1".toList ∧
      w.cfg.hwaddr = (plainKernel .bsd).addr w.hist "tap0".toList ∧
      ¬ HwaddrCurrent (plainKernel .bsd) w :=
  ⟨⟨unreadWorld .bsd, unreadWorld_runs (by decide +kernel), by decide +kernel, by decide +kernel,
      not_hwaddrCurrent (by decide +kernel)⟩,
    ⟨unreadWorld .solaris, unreadWorld_runs (by decide +kernel), by decide +kernel,
      by decide +kernel, not_hwaddrCurrent (by decide +kernel)⟩,
    ⟨staleWorld, staleWorld_runs, by decide +kernel, by decide +kernel, by decide +kernel,
      not_hwaddrCurrent (by decide +kernel)⟩⟩

end TapCfg.Unix
