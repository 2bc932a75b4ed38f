/-
  TapWin32/Offered.lean --- the address the library sets is the one the system gets.

  Source: src/lib/tapcfg_windows.c, lines 525-569; drivers/windows/tap-win32/
  tapdrvr.c, lines 2153-2185; dhcp.c, lines 235-373.

  On Windows the library does not set an address: it hands the driver a lease,
  and the driver plays the DHCP server the system asks.
-/
import TapCfg.TapWin32.Leases
import TapCfg.Windows.Lease

set_option autoImplicit false

namespace TapCfg.TapWin32

open TapCfg.Foundation
open TapCfg.Foundation.Layout (htons u8 u16 u32 array)
open TapCfg.Windows (CStr Tapcfg tapEnv tapcfgIfaceSetIpv4 masqBuffer masqBuffer_server inaddrNone
  asks_setIpv4_iff startedWriter)

/-- A number as the network carries it. -/
def networkBytes (x : BitVec 32) : List Byte := u32.bytes (swapBytes x)

example : networkBytes 0x0a030007 = [10, 3, 0, 7] := by decide

/-- The input of a request: words in memory. -/
def requestInput (words : List (BitVec 32)) : List Byte := words.flatMap u32.bytes

/-- The lease the adapter holds, in host order. -/
structure Holds (a : TapAdapter) (addr mask : BitVec 32) : Prop where
  address : a.dhcpAddr = swapBytes addr
  netmask : a.dhcpNetmask = swapBytes mask
  server : a.dhcpServerIp = swapBytes (lastHost addr mask)
  time : a.dhcpLeaseTime = 3600

variable {addr mask : BitVec 32} {a : TapAdapter}

theorem Holds.of_eq {b : TapAdapter} (h : Holds a addr mask) (h₁ : b.dhcpAddr = a.dhcpAddr)
    (h₂ : b.dhcpNetmask = a.dhcpNetmask) (h₃ : b.dhcpServerIp = a.dhcpServerIp)
    (h₄ : b.dhcpLeaseTime = a.dhcpLeaseTime) : Holds b addr mask :=
  ⟨h₁.trans h.address, h₂.trans h.netmask, h₃.trans h.server, h₄.trans h.time⟩

theorem Holds.check (h : Holds a addr mask) : Holds (checkIfDhcpAndTunMode a) addr mask := by
  unfold checkIfDhcpAndTunMode
  split <;> exact h.of_eq rfl rfl rfl rfl

/-- The words of a request, read back. -/
theorem inputWord_requestInput {words : List (BitVec 32)} {i : Nat} {x : BitVec 32}
    (h : words[i]? = some x) : inputWord (requestInput words) i = x := by
  induction words generalizing i with
  | nil => simp at h
  | cons w words ih =>
      have hlen : (u32.bytes w).length = 4 := u32.length_bytes w
      rw [requestInput, List.flatMap_cons]
      cases i with
      | zero =>
          rw [List.getElem?_cons_zero, Option.some.injEq] at h
          rw [inputWord, Nat.mul_zero, List.drop_zero, u32.read_bytes, h]
          rfl
      | succ i =>
          rw [List.getElem?_cons_succ] at h
          have hdrop : 4 * (i + 1) = (u32.bytes w).length + 4 * i := by omega
          rw [inputWord, hdrop, ← List.drop_drop, List.drop_left]
          exact ih h

theorem requestInput_length (words : List (BitVec 32)) :
    (requestInput words).length = 4 * words.length := by
  induction words with
  | nil => rfl
  | cons w words ih =>
      have hlen : (u32.bytes w).length = 4 := u32.length_bytes w
      rw [requestInput, List.flatMap_cons, List.length_append, hlen]
      rw [requestInput] at ih
      rw [ih, List.length_cons]
      omega

/-- The driver takes the lease from the request of the library. -/
theorem ioctl_masqBuffer (v : Version) (a : TapAdapter) (addr mask : BitVec 32) :
    Holds (ioctl v a (.configDhcpMasq
        (requestInput (masqBuffer .little (htonl .little addr) mask)))).1 addr mask ∧
      (ioctl v a (.configDhcpMasq
        (requestInput (masqBuffer .little (htonl .little addr) mask)))).2.status = .success := by
  rw [masqBuffer_server]
  generalize hwords : [htonl Endian.little addr, htonl Endian.little mask,
    htonl Endian.little ((addr ||| ~~~mask) - 1), 3600] = words
  have hlen : 16 ≤ (requestInput words).length := by
    rw [requestInput_length, ← hwords]
    exact Nat.le_refl 16
  have haddr : inputWord (requestInput words) 0 = swapBytes addr :=
    inputWord_requestInput (by rw [← hwords]; rfl)
  have hmask : inputWord (requestInput words) 1 = swapBytes mask :=
    inputWord_requestInput (by rw [← hwords]; rfl)
  have hserver : inputWord (requestInput words) 2 = swapBytes (lastHost addr mask) :=
    inputWord_requestInput (by rw [← hwords]; rfl)
  have htime : inputWord (requestInput words) 3 = 3600 :=
    inputWord_requestInput (by rw [← hwords]; rfl)
  simp only [ioctl, ioctlConfigDhcpMasq]
  rw [if_pos hlen]
  exact ⟨Holds.check ⟨haddr, hmask, hserver, htime⟩, rfl⟩

/-! ## What the system is told -/

/-- No other lease is set. -/
def NoOtherLease (c : Ioctl) : Prop := ∀ input, c ≠ .configDhcpMasq input

theorem Holds.ioctl {v : Version} {c : Ioctl} (h : Holds a addr mask) (hc : NoOtherLease c) :
    Holds (ioctl v a c).1 addr mask := by
  cases c with
  | configTun input =>
      simp only [TapWin32.ioctl, ioctlConfigTun]
      split
      · split
        · exact h.of_eq rfl rfl rfl rfl
        · exact Holds.check (h.of_eq rfl rfl rfl rfl)
      · exact h
  | configPointToPoint input =>
      simp only [TapWin32.ioctl, ioctlConfigPointToPoint]
      split
      · exact Holds.check (h.of_eq rfl rfl rfl rfl)
      · exact h
  | setMediaStatus input =>
      simp only [TapWin32.ioctl, ioctlSetMediaStatus]
      split
      · unfold setMediaStatus
        split <;> exact h.of_eq rfl rfl rfl rfl
      · exact h
  | configDhcpMasq input => exact absurd rfl (hc input)
  | configDhcpSetOpt input =>
      simp only [TapWin32.ioctl, ioctlConfigDhcpSetOpt]
      split
      · split <;> exact h.of_eq rfl rfl rfl rfl
      · exact h
  | getMac n => exact h
  | getVersion n => exact h
  | getMtu n => exact h
  | other => exact h

theorem Holds.noteMessage {msgType : Int} {dhcp : Dhcp} (h : Holds a addr mask) :
    Holds (noteMessage a msgType dhcp) addr mask := by
  unfold TapWin32.noteMessage
  dsimp only
  split <;> split <;> exact h.of_eq rfl rfl rfl rfl

/-- A reply tells the system its address, its netmask, the server and the time. -/
structure Tells (addr mask : BitVec 32) (frame : List Byte) : Prop where
  address : ∃ pre, DhcpPre.layout.read frame = some pre ∧ swapBytes pre.dhcp.yiaddr = addr
  options : ∃ type more tail, Splits dhcpMarks (frame.drop dhcpHeadersSize)
    (.option dhcpMsgType [type] :: .option dhcpServerId (networkBytes (lastHost addr mask)) ::
      .option dhcpLeaseTimeOpt (networkBytes 3600) ::
      .option dhcpNetmaskOpt (networkBytes mask) :: more) tail

/-- An offer, or an acknowledgement. -/
def Grants (frame : List Byte) : Prop :=
  replyMessage frame = some (dhcpOffer.toNat : Int) ∨ replyMessage frame = some (dhcpAck.toNat : Int)

theorem Holds.tells {memory : Bool} {type : Byte} {eth : EthHeader} {dhcp : Dhcp}
    {frame : List Byte} (h : Holds a addr mask)
    (hsend : sendDhcpMsg memory a type eth dhcp = some frame) (hgrants : Grants frame) :
    Tells addr mask frame := by
  have hne : type ≠ dhcpNak := by
    rintro rfl
    rw [Grants, replyMessage_eq hsend] at hgrants
    rcases hgrants with hg | hg <;> exact absurd (Option.some.inj hg) (by decide)
  obtain ⟨pre, options, hreply⟩ := sendDhcpMsg_replyTo hsend
  obtain ⟨more, tail, hsplits⟩ := hreply.items
  refine ⟨⟨pre, hreply.read, ?_⟩, type, more, tail, ?_⟩
  · rw [hreply.yiaddr, if_neg hne, h.address, swapBytes_swapBytes]
  · have hdrop : frame.drop dhcpHeadersSize = options := hreply.rest
    rw [hdrop]
    rw [replyItems, if_neg hne, h.server, h.netmask, h.time] at hsplits
    exact hsplits

/-- What holds of a session that began with a lease. -/
structure Telling (addr mask : BitVec 32) (s : Session) : Prop where
  holds : Holds s.adapter addr mask
  told : ∀ e ∈ s.log, ∀ frame, e.2 = some frame → Grants frame → Tells addr mask frame

theorem not_grants_short {injected : Option (List Byte)} {frame : List Byte} (h : Short injected)
    (hf : injected = some frame) : ¬ Grants frame := by
  have hlt := h frame hf
  have hnone : replyMessage frame = none := by
    rw [replyMessage, if_neg (by omega)]
  rintro (hg | hg)
  · rw [hnone] at hg
    cases hg
  · rw [hnone] at hg
    cases hg

theorem Telling.step {s s' : Session} (h : Telling addr mask s)
    (hs : SessionStep NoOtherLease s s') : Telling addr mask s' := by
  cases hs with
  | ioctl v hc => exact ⟨h.holds.ioctl hc, h.told⟩
  | @transmit memory data r hrun =>
      rcases transmitFilter_cases hrun with ⟨hsame, hshort⟩ | ⟨eth, dhcp, type, -, rfl⟩
      · refine ⟨hsame ▸ h.holds, ?_⟩
        intro e he frame hframe hgrants
        rcases List.mem_append.mp he with he | he
        · exact h.told e he frame hframe hgrants
        · rw [List.mem_singleton] at he
          subst he
          exact absurd hgrants (not_grants_short hshort hframe)
      · refine ⟨h.holds.noteMessage, ?_⟩
        intro e he frame hframe hgrants
        rcases List.mem_append.mp he with he | he
        · exact h.told e he frame hframe hgrants
        · rw [List.mem_singleton] at he
          subst he
          exact h.holds.tells hframe hgrants

/-- A session of one frame. -/
theorem runs_transmit {P : Ioctl → Prop} {memory : Bool} {b : TapAdapter} {data : List Byte}
    {r : Filtered} (h : transmitFilter memory b data = some r) :
    Runs (· = ⟨b, []⟩) (SessionStep P) ⟨r.adapter, [(data, r.injected)]⟩ := by
  have hstart : Runs (· = ⟨b, []⟩) (SessionStep P) ⟨b, []⟩ := .start rfl
  exact hstart.next (SessionStep.transmit h)

/-- What the library asks for 10.3.0.7/24. -/
def exampleBuffer : List (BitVec 32) :=
  masqBuffer .little (htonl .little 0x0a030007) (netmask 24)

end TapCfg.TapWin32
