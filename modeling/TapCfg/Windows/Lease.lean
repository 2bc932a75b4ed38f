/-
  Windows/Lease.lean --- the address of the DHCP server the driver plays.

  Source: src/lib/tapcfg_windows.c, lines 525-569.

  `tapcfg_iface_set_ipv4` hands the driver an address, a netmask and the address
  of the server.  The server gets the last host of the subnet, so the decrement
  keeps it away from the broadcast address.  Nothing keeps it away from the
  interface: the two are the same when the interface has the last host itself.
-/
import TapCfg.Foundation.Subnet
import TapCfg.Windows.Iface

set_option autoImplicit false

namespace TapCfg.Windows

open TapCfg.Foundation
open Prog hiding ret

/-- A request as the driver reads it, in host order. -/
structure Lease where
  addr : BitVec 32
  mask : BitVec 32
  server : BitVec 32
  deriving DecidableEq, Repr

/-- The words of a request; the last is the time. -/
def readLease (order : Endian) : List (BitVec 32) → Option Lease
  | [addr, mask, server, _] => some ⟨htonl order addr, htonl order mask, htonl order server⟩
  | _ => none

namespace Lease

/-- The server is a host of the subnet, and not the interface. -/
structure Apart (l : Lease) : Prop where
  inside : l.server ∈ subnet l.addr l.mask
  ne_network : l.server ≠ network l.addr l.mask
  ne_broadcast : l.server ≠ broadcast l.addr l.mask
  ne_addr : l.server ≠ l.addr

/-- What `tapcfg_iface_set_ipv4` asks for. -/
def last (addr mask : BitVec 32) : Lease := ⟨addr, mask, lastHost addr mask⟩

/-- A last host is a host of its subnet, when there are two or more places for hosts. -/
theorem last_apart_iff {addr mask : BitVec 32} (h₀ : mask.getLsbD 0 = false)
    (h₁ : mask.getLsbD 1 = false) :
    (last addr mask).Apart ↔ addr ≠ lastHost addr mask := by
  constructor
  · intro h
    exact h.ne_addr.symm
  · intro hne
    exact
      { inside := lastHost_mem_subnet (by decide) h₀
        ne_network := lastHost_ne_network (by decide) h₀ h₁
        ne_broadcast := lastHost_ne_broadcast (by decide) h₀
        ne_addr := hne.symm }

end Lease

/-- The driver finds the last host in the third word. -/
theorem readLease_masqBuffer (order : Endian) (addr mask : BitVec 32) :
    readLease order (masqBuffer order (htonl order addr) mask) = some (Lease.last addr mask) := by
  rw [masqBuffer_server]
  simp only [readLease, htonl_htonl]
  rfl

section

variable {order : Endian} {addrstr : CStr} {netbits : Byte} {addr : BitVec 32} {cfg : Tapcfg}

/-- The one request of a call that gets through the checks. -/
theorem asks_setIpv4_iff (hup : cfg.started = true) (hbits : 1 ≤ netbits ∧ netbits ≤ 32)
    (haddr : dottedAddress addrstr = some addr) (hzero : addr ≠ 0) (hones : addr ≠ inaddrNone)
    {c : TapCall} :
    Asks tapEnv (tapcfgIfaceSetIpv4 order addrstr netbits) cfg c ↔
      c = .configDhcpMasq cfg.devHandle
        (masqBuffer order (htonl order addr) (netmask netbits.toNat)) := by
  have hinet : inetAddr order addrstr = htonl order addr := by
    rw [inetAddr, haddr]
    rfl
  have hplain : ∀ x : BitVec 32, htonl order x = x → (htonl order addr = x ↔ addr = x) := by
    intro x hx
    constructor
    · intro h
      rw [← htonl_htonl order addr, h, hx]
    · rintro rfl
      exact hx
  have hvalid : ¬ (htonl order addr = inaddrNone ∨ htonl order addr = 0) := by
    rw [hplain _ (by cases order <;> decide), hplain _ (by cases order <;> decide)]
    exact fun h => h.elim hones hzero
  unfold tapcfgIfaceSetIpv4
  rw [bind_eq_bind, asks_load_bind, if_neg (by simp [hup]), if_neg (by grind)]
  rw [hinet, if_neg hvalid]
  refine asks_call.trans ⟨?_, .inl⟩
  rintro (h | ⟨done, cfg', -, h⟩)
  · exact h
  · -- whatever the driver answers, the call returns
    cases done with
    | false => exact (asks_ret h).elim
    | true => exact (asks_ret h).elim

/-- The server of the request has an address of its own exactly when the
interface does not have the last of its subnet. -/
theorem server_apart_iff (order : Endian) (cfg : Tapcfg) (addrstr : CStr) (netbits : Byte)
    (hup : cfg.started = true) (hbits : 1 ≤ netbits ∧ netbits ≤ 30)
    (haddr : dottedAddress addrstr = some addr)
    (hnetwork : addr ≠ network addr (netmask netbits.toNat))
    (hbroadcast : addr ≠ broadcast addr (netmask netbits.toNat)) :
    ∃ buffer lease,
      (∀ c, Asks tapEnv (tapcfgIfaceSetIpv4 order addrstr netbits) cfg c ↔
        c = .configDhcpMasq cfg.devHandle buffer) ∧
      readLease order buffer = some lease ∧
      lease.addr = addr ∧ lease.mask = netmask netbits.toNat ∧
      (lease.Apart ↔ addr ≠ lastHost addr (netmask netbits.toNat)) := by
  have hle : netbits.toNat ≤ 30 := UInt8.le_iff_toNat_le.mp hbits.2
  have hfree : ∀ i < 2, (netmask netbits.toNat).getLsbD i = false := by
    intro i hi
    exact getLsbD_netmask_eq_false (by omega)
  have hzero : addr ≠ 0 := by
    rintro rfl
    exact hnetwork (by simp [network])
  have hones : addr ≠ inaddrNone := by
    rintro rfl
    exact hbroadcast (BitVec.allOnes_or (x := ~~~netmask netbits.toNat)).symm
  refine ⟨_, .last addr (netmask netbits.toNat), fun c => ?_, readLease_masqBuffer order _ _, rfl,
    rfl, Lease.last_apart_iff (hfree 0 (by decide)) (hfree 1 (by decide))⟩
  exact asks_setIpv4_iff hup ⟨hbits.1, by grind⟩ haddr hzero hones

end

/-- A first host: the server is another one. -/
theorem server_apart_firstHost :
    ∃ buffer lease,
      (∀ c, Asks tapEnv (tapcfgIfaceSetIpv4 .little "10.0.0.1".toList 24) startedWriter.cfg c ↔
        c = .configDhcpMasq 7 buffer) ∧
      readLease .little buffer = some lease ∧ lease.addr = 0x0a000001 ∧ lease.Apart := by
  obtain ⟨buffer, lease, hasks, hread, haddr, -, happart⟩ :=
    server_apart_iff .little startedWriter.cfg "10.0.0.1".toList 24 rfl (by decide)
      (by decide : _ = some 0x0a000001#32) (by decide) (by decide)
  exact ⟨buffer, lease, hasks, hread, haddr, happart.mpr (by decide)⟩

/-- The last host before the broadcast address: the server has the address of the interface. -/
theorem server_not_apart :
    dottedAddress "192.168.0.254".toList = some 0xc0a800fe#32 ∧
      0xc0a800fe#32 ≠ network 0xc0a800fe#32 (netmask 24) ∧
      0xc0a800fe#32 ≠ broadcast 0xc0a800fe#32 (netmask 24) ∧
      Asks tapEnv (tapcfgIfaceSetIpv4 .little "192.168.0.254".toList 24) startedWriter.cfg
        (.configDhcpMasq 7 [0xfe00a8c0, 0x00ffffff, 0xfe00a8c0, 3600]) ∧
      ∀ lease, readLease .little [0xfe00a8c0, 0x00ffffff, 0xfe00a8c0, 3600] = some lease →
        ¬ lease.Apart := by
  refine ⟨by decide, by decide, by decide, ?_, ?_⟩
  · have haddr : dottedAddress "192.168.0.254".toList = some 0xc0a800fe#32 := by decide
    refine (asks_setIpv4_iff rfl (by decide) haddr (by decide) (by decide)).mpr ?_
    decide
  · intro lease hread happart
    cases hread
    exact happart.ne_addr (by decide)

end TapCfg.Windows
