/-
  SolarisTun/Types.lean --- the streams and the units of the Solaris driver.

  Source: drivers/solaris/tuntap/if_tun.h, lines 41-84; tun.c, lines 71-73, 161-165
  and 473-542.  The driver is built for frames (`TUNTAP_TAP`).

  A stream and its queue are made and freed together, and lead to one another, so
  that one address names both.  The messages that wait on the write side of the
  queue are kept with the stream.

  The numbers of the messages are those of <sys/dlpi.h>.
-/
import TapCfg.Foundation.Chains
import TapCfg.Foundation.Layout
import TapCfg.Unix.Dlpi

set_option autoImplicit false

namespace TapCfg.SolarisTun

open TapCfg.Foundation
open TapCfg.Foundation.Layout (array)
open TapCfg.Unix.Dlpi (words)

/-! ## Frames -/

/-- `struct ether_addr` -/
abbrev EtherAddr : Type := Vector Byte 6

/-- `ether_addr_octet[0] & 0x01` -/
def EtherAddr.multicast (addr : EtherAddr) : Bool := addr[0] &&& 0x01 ≠ 0

/-- `broadcastaddr` -/
def broadcastaddr : EtherAddr := Vector.replicate 6 0xff

/-- `ETHERMTU` -/
def ethermtu : Nat := 1500

/-- `ETHERTYPE_MAX` -/
def ethertypeMax : Nat := 0xffff

/-- `struct ether_header`; the type as `ntohs` makes it. -/
structure EtherHeader where
  dhost : EtherAddr
  shost : EtherAddr
  type : Nat
  deriving DecidableEq, Repr

namespace EtherHeader

/-- The header at the front of a block; `none` when the block ends inside it. -/
def read (block : List Byte) : Option EtherHeader := do
  let dhost ← (array 6).read block
  let shost ← (array 6).read (block.drop 6)
  if 14 ≤ block.length then some ⟨dhost, shost, headerValue (block.drop 12)⟩ else none

/-- The header as it is laid out, its type by `htons`. -/
def bytes (h : EtherHeader) : List Byte := h.dhost.toList ++ (h.shost.toList ++ header h.type)

end EtherHeader

/-- A message of data: its first block, and those linked to it. -/
structure Msg where
  first : List Byte
  cont : List (List Byte)
  deriving DecidableEq, Repr

def Msg.bytes (m : Msg) : List Byte := m.first ++ m.cont.flatten

/-! ## Streams and units -/

/-- `TUN_CONTROL`, `TUN_RAW`, `TUN_ALL_PHY`, `TUN_ALL_SAP` and `TUN_ALL_MUL` -/
structure Flags where
  control : Bool := false
  raw : Bool := false
  allPhy : Bool := false
  allSap : Bool := false
  allMul : Bool := false
  deriving DecidableEq, Repr

/-- `SNIFFER` -/
def Flags.sniffer (flags : Flags) : Bool := flags.allSap || flags.allPhy

inductive DlState where
  | unattached
  | unbound
  | idle
  deriving DecidableEq, Repr

def DlState.number : DlState → Nat
  | .unattached => 0x04
  | .unbound => 0x00
  | .idle => 0x03

/-- A message that waits: data, or a request, which may be of high priority. -/
inductive Queued where
  | data (m : Msg)
  | proto (high : Bool) (mp : List Byte)
  deriving DecidableEq, Repr

/-- `struct tunstr` -/
structure Tunstr where
  sNext : Option Nat := none
  pNext : Option Nat := none
  ppa : Option Nat := none
  flags : Flags := {}
  state : DlState := .unattached
  sap : Nat := 0
  minor : Nat
  wq : List Queued := []
  deriving DecidableEq, Repr

/-- `struct tunppa` -/
structure Tunppa where
  id : Nat
  rq : Nat
  pStr : Option Nat := none
  etheraddr : EtherAddr
  deriving DecidableEq, Repr

/-- `TUNMAXPPA` -/
def tunMaxPpa : Nat := 20

/-- What the driver keeps, and its memory. -/
structure Driver where
  localmacaddr : EtherAddr
  tunPpa : Vector (Option Nat) tunMaxPpa
  tunStr : Option Nat
  streams : Cells Tunstr
  ppas : Cells Tunppa

/-- The list of all streams. -/
def sLink : Link Tunstr where
  next str := str.sNext
  setNext n str := { str with sNext := n }
  next_setNext _ _ := rfl

/-- The list of the streams of a unit. -/
def pLink : Link Tunstr where
  next str := str.pNext
  setNext n str := { str with pNext := n }
  next_setNext _ _ := rfl

/-! ## Answers -/

/-- `dl_errno` -/
inductive DlErrno where
  | badsap
  | outstate
  | syserr
  | baddata
  | unsupported
  | badppa
  | badprim
  | notsupported
  | noauto
  deriving DecidableEq, Repr

def DlErrno.number : DlErrno → Nat
  | .badsap => 0x00
  | .outstate => 0x03
  | .syserr => 0x04
  | .baddata => 0x06
  | .unsupported => 0x07
  | .badppa => 0x08
  | .badprim => 0x09
  | .notsupported => 0x12
  | .noauto => 0x16

/-- `struct tundladdr` -/
structure Tundladdr where
  etheraddr : EtherAddr
  sap : Nat
  deriving DecidableEq, Repr

/-- The `sap` is a short in the order of the machine. -/
def Tundladdr.bytes (order : Endian) (dla : Tundladdr) : List Byte :=
  dla.etheraddr.toList ++
    match order with
    | .little => (header dla.sap).reverse
    | .big => header dla.sap

/-- `TUN_ADDR_LEN` -/
def tunAddrLen : Nat := 8

/-- The answer to a request. -/
inductive Reply where
  | infoAck (state : DlState) (dla : Tundladdr)
  | okAck (prim : Nat)
  | errorAck (prim : Nat) (errno : DlErrno)
  | bindAck (dla : Tundladdr)
  | physAddrAck (addr : EtherAddr)
  deriving DecidableEq, Repr

/-- An answer as it is laid out; `tun_dl_info` is the frame of the first. -/
def Reply.bytes (order : Endian) : Reply → List Byte
  | .infoAck state dla =>
      words order [0x03, ethermtu, 0, tunAddrLen, 0x04, 0, state.number, 0xfffffffe, 0x02, 0, 0, 0,
        0, 0x0501, 76, 0x02, 6, 76 + tunAddrLen, 0] ++ (dla.bytes order ++ broadcastaddr.toList)
  | .okAck prim => words order [Unix.Dlpi.dlOkAck, prim]
  | .errorAck prim errno => words order [0x05, prim, errno.number, 0]
  | .bindAck dla => words order [0x04, dla.sap, tunAddrLen, 24, 0, 0] ++ dla.bytes order
  | .physAddrAck addr => words order [Unix.Dlpi.dlPhysAddrAck, 6, 12] ++ addr.toList

inductive Errno where
  | eexist
  | einval
  | enodev
  | enomem
  deriving DecidableEq, Repr

/-- What is sent up a stream.  `error` is the `M_ERROR` of `tunerr`. -/
inductive Up where
  | reply (r : Reply)
  | iocack (ret : Nat)
  | iocnak (err : Errno)
  | error
  | flush
  | data (m : Msg)
  | unitdata (dest src : Tundladdr) (m : Msg)
  deriving DecidableEq, Repr

abbrev Ups : Type := List (Nat × Up)

/-- Why a frame is offered to a stream. -/
inductive Pass where
  | sniffer
  | control
  | protocol
  deriving DecidableEq, Repr

/-- What the rest of the kernel says while an entry of the driver runs. -/
structure Kernel where
  /-- `canputnext`, and the memory for a copy -/
  takes : Pass → Nat → Bool
  /-- the memory for an answer -/
  answers : Bool
  /-- the memory to say that there is none for the answer -/
  errors : Bool
  /-- the memory for a header -/
  header : Bool
  /-- where `kmem_zalloc` puts a new unit -/
  page : Nat

end TapCfg.SolarisTun
