/-
  SolarisTun/Driver.lean --- the entries of the Solaris driver.

  Source: drivers/solaris/tuntap/tun.c, lines 262-456, 490-515, 546-1211 and 1248-1386.

  `none` is the fault of the kernel: NULL or freed memory is looked at, an array
  or a message is left, or a loop does not end.

  An entry runs to its end; `qwriter` calls its function at once.  `tunwsrv` is
  taken message by message.
-/
import TapCfg.SolarisTun.Types

set_option autoImplicit false

namespace TapCfg.SolarisTun

open TapCfg.Foundation
open TapCfg.Foundation.Layout (array)
open TapCfg.Unix.Dlpi (word toSigned)

/-! ## Requests -/

def dlInfoReq : Nat := 0x00

def dlBindReq : Nat := 0x01

def dlUnbindReq : Nat := 0x02

def dlUnitdataReq : Nat := 0x07

def dlEnabmultiReq : Nat := 0x1d

def dlDisabmultiReq : Nat := 0x1e

def dlPromisconReq : Nat := 0x1f

def dlPromiscoffReq : Nat := 0x20

/-- The word at offset `i` of a message that reaches so far. -/
def readWord (order : Endian) (mp : List Byte) (i : Nat) : Option Nat :=
  if i + 4 ≤ mp.length then some (word order mp i) else none

/-! ## Streams -/

/-- `tunopen`: the stream is made, and the minor of its device returned. -/
def tunopen (d : Driver) (rq : Nat) (clone : Bool) (minor : Nat) : Option (Driver × Nat) := do
  let (minordev, prev) ←
    if clone then do
      let (i, prev, _) ← seek sLink d.streams (fun i _ str => decide (i < str.minor)) d.tunStr
      some (i, prev)
    else some (minor, none)
  -- `rq->q_ptr` is set
  if rq ∈ d.streams then some (d, minordev)
  else do
    let streams := d.streams.insert rq { minor := minordev }
    let (tunStr, streams) ← linkAt sLink streams d.tunStr prev rq
    some ({ d with tunStr := tunStr, streams := streams }, minordev)

/-- What the end of a unit does to a stream that is attached to it. -/
def Tunstr.cutOff (str : Tunstr) : Tunstr :=
  { str with state := .unattached, ppa := none, wq := [] }

/-- The stream leaves its unit at `a`, or takes it along. -/
def leavePpa (d : Driver) (rq : Nat) (str : Tunstr) (a : Nat) : Option Driver := do
  let ppa ← d.ppas.lookup a
  if str.flags.control then do
    let strs ← visited pLink d.streams ppa.pStr
    some { d with
      streams := adjustAll Tunstr.cutOff strs d.streams
      tunPpa := d.tunPpa.setIfInBounds ppa.id none
      ppas := d.ppas.erase a }
  else do
    let (pStr, streams) ← unchain pLink d.streams ppa.pStr rq
    some { d with streams := streams, ppas := d.ppas.insert a { ppa with pStr := pStr } }

/-- The first part of `tunclose`. -/
def leave (d : Driver) (rq : Nat) (str : Tunstr) : Option Driver :=
  match str.ppa with
  | none => some d
  | some a => leavePpa d rq str a

/-- `tunclose` -/
def tunclose (d : Driver) (rq : Nat) : Option Driver := do
  let str ← d.streams.lookup rq
  let d ← leave d rq str
  let (tunStr, streams) ← unchain sLink d.streams d.tunStr rq
  some { d with tunStr := tunStr, streams := streams.erase rq }

/-! ## Control -/

/-- `tun_alloc_ppa`, of a stream that becomes its control stream. -/
def tunAllocPpa (d : Driver) (k : Kernel) (rq : Nat) (id : Int) : Option (Option (Driver × Nat)) :=
  match if id = -1 then d.tunPpa.toList.findIdx? (fun entry => entry.isNone) else some id.toNat with
  | none => some none
  | some i =>
      if i < tunMaxPpa then
        some (some ({ d with
          tunPpa := d.tunPpa.setIfInBounds i (some k.page)
          ppas := d.ppas.insert k.page { id := i, rq := rq, etheraddr := d.localmacaddr } }, i))
      else none

/-- The stream is put at the front of the list of the unit at `a`. -/
def attachTo (d : Driver) (rq a : Nat) (state : DlState) : Option Driver := do
  let ppa ← d.ppas.lookup a
  let (pStr, streams) ← linkAt pLink d.streams ppa.pStr none rq
  some { d with
    streams := adjust rq (fun str => { str with ppa := some a, state := state }) streams
    ppas := d.ppas.insert a { ppa with pStr := pStr } }

/-- The requests of `tun_ioctl`, with the number they are given. -/
inductive Ioctl where
  | tunnewppa (arg : Option Int)
  | tunsetppa (arg : Option Int)
  | dliocraw
  | other
  deriving DecidableEq, Repr

/-- `tun_ioctl` -/
def tunIoctl (d : Driver) (k : Kernel) (rq : Nat) (ioc : Ioctl) : Option (Driver × Ups) := do
  let str ← d.streams.lookup rq
  match ioc with
  | .tunnewppa arg => do
      let p ← arg
      if p < -1 ∨ p > tunMaxPpa then return (d, [(rq, .iocnak .einval)])
      let entry ← if p = -1 then some none else d.tunPpa[p.toNat]?
      if entry.isSome then return (d, [(rq, .iocnak .eexist)])
      match ← tunAllocPpa d k rq p with
      | none => return (d, [(rq, .iocnak .enomem)])
      | some (d', id) =>
          let control (s : Tunstr) : Tunstr :=
            { s with ppa := some k.page, flags := { s.flags with control := true } }
          return ({ d' with streams := adjust rq control d'.streams }, [(rq, .iocack id)])
  | .tunsetppa arg => do
      let p ← arg
      if p < 0 ∨ p > tunMaxPpa then return (d, [(rq, .iocnak .einval)])
      match ← d.tunPpa[p.toNat]? with
      | none => return (d, [(rq, .iocnak .enodev)])
      | some a => do
          let d' ← attachTo d rq a str.state
          return (d', [(rq, .iocack p.toNat)])
  | .dliocraw =>
      let raw (s : Tunstr) : Tunstr := { s with flags := { s.flags with raw := true } }
      return ({ d with streams := adjust rq raw d.streams }, [(rq, .iocack 0)])
  | .other => return (d, [(rq, .iocnak .einval)])

/-! ## The data link provider -/

/-- `tunchmsg` and `qreply`, with `tunerr` where there is no memory. -/
def reply (k : Kernel) (rq : Nat) (r : Reply) : Ups :=
  if k.answers then [(rq, .reply r)] else if k.errors then [(rq, .error)] else []

/-- `tundlokack` -/
def tundlokack (k : Kernel) (rq prim : Nat) : Ups := reply k rq (.okAck prim)

/-- `tundlerrack` -/
def tundlerrack (k : Kernel) (rq prim : Nat) (errno : DlErrno) : Ups :=
  reply k rq (.errorAck prim errno)

/-- `tun_info_req` -/
def tunInfoReq (d : Driver) (k : Kernel) (rq : Nat) (mp : List Byte) : Option (Driver × Ups) := do
  let str ← d.streams.lookup rq
  if mp.length < 4 then return (d, tundlerrack k rq dlInfoReq .badprim)
  let addr ← match str.ppa with
    | none => some (Vector.replicate 6 0)
    | some a => (d.ppas.lookup a).map Tunppa.etheraddr
  return (d, reply k rq (.infoAck str.state ⟨addr, str.sap⟩))

/-- `tun_attach_req` -/
def tunAttachReq (order : Endian) (d : Driver) (k : Kernel) (rq : Nat) (mp : List Byte) :
    Option (Driver × Ups) := do
  let str ← d.streams.lookup rq
  if mp.length < 8 then return (d, tundlerrack k rq Unix.Dlpi.dlAttachReq .badprim)
  if str.state ≠ .unattached then return (d, tundlerrack k rq Unix.Dlpi.dlAttachReq .outstate)
  let p := toSigned (word order mp 4)
  if p < 0 ∨ p > tunMaxPpa then return (d, tundlerrack k rq Unix.Dlpi.dlAttachReq .badppa)
  match ← d.tunPpa[p.toNat]? with
  | none => return (d, tundlerrack k rq Unix.Dlpi.dlAttachReq .badppa)
  | some a => do
      let d' ← attachTo d rq a .unbound
      return (d', tundlokack k rq Unix.Dlpi.dlAttachReq)

/-- `tun_detach_req` -/
def tunDetachReq (d : Driver) (k : Kernel) (rq : Nat) (mp : List Byte) : Option (Driver × Ups) := do
  let str ← d.streams.lookup rq
  if mp.length < 4 then return (d, tundlerrack k rq Unix.Dlpi.dlDetachReq .badprim)
  if str.state ≠ .unbound then return (d, tundlerrack k rq Unix.Dlpi.dlDetachReq .outstate)
  let a ← str.ppa
  let ppa ← d.ppas.lookup a
  let (pStr, streams) ← unchain pLink d.streams ppa.pStr rq
  return ({ d with
    streams := adjust rq (fun s => { s with ppa := none, state := .unattached }) streams
    ppas := d.ppas.insert a { ppa with pStr := pStr } }, tundlokack k rq Unix.Dlpi.dlDetachReq)

/-- `tun_bind_req` -/
def tunBindReq (order : Endian) (d : Driver) (k : Kernel) (rq : Nat) (mp : List Byte) :
    Option (Driver × Ups) := do
  let str ← d.streams.lookup rq
  if mp.length < 20 then return (d, tundlerrack k rq dlBindReq .badprim)
  if str.state ≠ .unbound then return (d, tundlerrack k rq dlBindReq .outstate)
  match str.ppa with
  | none => return (d, tundlerrack k rq dlBindReq .syserr)
  | some a => do
      let sap := word order mp 4
      if word order mp 16 ≠ 0 then return (d, tundlerrack k rq dlBindReq .noauto)
      if sap > ethertypeMax then return (d, tundlerrack k rq dlBindReq .badsap)
      let ppa ← d.ppas.lookup a
      let bound (s : Tunstr) : Tunstr := { s with sap := sap, state := .idle }
      return ({ d with streams := adjust rq bound d.streams },
        reply k rq (.bindAck ⟨ppa.etheraddr, sap⟩))

/-- `tun_unbind_req` -/
def tunUnbindReq (d : Driver) (k : Kernel) (rq : Nat) (mp : List Byte) : Option (Driver × Ups) := do
  let str ← d.streams.lookup rq
  if mp.length < 4 then return (d, tundlerrack k rq dlUnbindReq .badprim)
  if str.state ≠ .idle then return (d, tundlerrack k rq dlUnbindReq .outstate)
  let unbound (s : Tunstr) : Tunstr := { s with state := .unbound, sap := 0 }
  return ({ d with streams := adjust rq unbound d.streams },
    tundlokack k rq dlUnbindReq)

/-- The flag that a level of promiscuity sets or clears. -/
def setPromisc (level : Nat) (on : Bool) (flags : Flags) : Option Flags :=
  if level = 0x01 then some { flags with allPhy := on }
  else if level = 0x02 then some { flags with allSap := on }
  else if level = 0x03 then some { flags with allMul := on }
  else none

/-- What `tun_promiscon_req` and `tun_promiscoff_req` have in common. -/
def promiscReq (order : Endian) (d : Driver) (k : Kernel) (rq : Nat) (mp : List Byte) (prim : Nat)
    (on : Bool) : Option (Driver × Ups) := do
  let str ← d.streams.lookup rq
  if mp.length < 8 then return (d, tundlerrack k rq prim .badprim)
  match setPromisc (word order mp 4) on str.flags with
  | none => return (d, tundlerrack k rq prim .notsupported)
  | some flags =>
      return ({ d with streams := adjust rq (fun s => { s with flags := flags }) d.streams },
        tundlokack k rq prim)

/-- `tun_promiscon_req` -/
def tunPromisconReq (order : Endian) (d : Driver) (k : Kernel) (rq : Nat) (mp : List Byte) :
    Option (Driver × Ups) := promiscReq order d k rq mp dlPromisconReq true

/-- `tun_promiscoff_req` -/
def tunPromiscoffReq (order : Endian) (d : Driver) (k : Kernel) (rq : Nat) (mp : List Byte) :
    Option (Driver × Ups) := promiscReq order d k rq mp dlPromiscoffReq false

/-- `tun_physaddr_req`, which says nothing when there is no memory for the answer. -/
def tunPhysaddrReq (d : Driver) (k : Kernel) (rq : Nat) (mp : List Byte) :
    Option (Driver × Ups) := do
  let str ← d.streams.lookup rq
  if mp.length < 8 then return (d, tundlerrack k rq Unix.Dlpi.dlPhysAddrReq .badprim)
  match str.ppa with
  | none => return (d, tundlerrack k rq Unix.Dlpi.dlPhysAddrReq .syserr)
  | some a => do
      let ppa ← d.ppas.lookup a
      return (d, if k.answers then [(rq, .reply (.physAddrAck ppa.etheraddr))] else [])

/-- `tun_set_physaddr_req`, which checks nothing. -/
def tunSetPhysaddrReq (d : Driver) (k : Kernel) (rq : Nat) (mp : List Byte) :
    Option (Driver × Ups) := do
  let str ← d.streams.lookup rq
  let a ← str.ppa
  let ppa ← d.ppas.lookup a
  let addr ← (array 6).read (mp.drop 12)
  return ({ d with ppas := d.ppas.insert a { ppa with etheraddr := addr } },
    tundlokack k rq Unix.Dlpi.dlSetPhysAddrReq)

/-- `tun_dlpi` -/
def tunDlpi (order : Endian) (d : Driver) (k : Kernel) (rq : Nat) (mp : List Byte) :
    Option (Driver × Ups) := do
  let prim ← readWord order mp 0
  if prim = dlInfoReq then tunInfoReq d k rq mp
  else if prim = Unix.Dlpi.dlAttachReq then tunAttachReq order d k rq mp
  else if prim = Unix.Dlpi.dlDetachReq then tunDetachReq d k rq mp
  else if prim = dlBindReq then tunBindReq order d k rq mp
  else if prim = dlUnbindReq then tunUnbindReq d k rq mp
  else if prim = dlPromisconReq then tunPromisconReq order d k rq mp
  else if prim = dlPromiscoffReq then tunPromiscoffReq order d k rq mp
  else if prim = Unix.Dlpi.dlPhysAddrReq then tunPhysaddrReq d k rq mp
  else if prim = Unix.Dlpi.dlSetPhysAddrReq then tunSetPhysaddrReq d k rq mp
  else if prim = dlEnabmultiReq ∨ prim = dlDisabmultiReq then some (d, tundlokack k rq prim)
  else some (d, tundlerrack k rq prim .unsupported)

/-! ## Frames -/

/-- The messages of high priority stand before the others; `putq` puts one behind them, and
`putbq` one of the others back. -/
def putBehindHigh (wq : List Queued) (queued : Queued) : List Queued :=
  let isHigh (queued : Queued) : Bool := match queued with
    | .proto high _ => high
    | .data _ => false
  wq.takeWhile isHigh ++ queued :: wq.dropWhile isHigh

/-- `tun_unitdata_ind`: the header becomes the addresses of the message. -/
def tunUnitdataInd (m : Msg) : Option Up := do
  let h ← EtherHeader.read m.first
  some (.unitdata ⟨h.dhost, h.type⟩ ⟨h.shost, h.type⟩ { m with first := m.first.drop 14 })

/-- A copy of the frame as the stream has asked for it. -/
def copyFor (str : Tunstr) (m : Msg) : Option Up :=
  if str.flags.raw then some (.data m) else tunUnitdataInd m

/-- `tun_frame_is_eligible` -/
def tunFrameIsEligible (d : Driver) (h : EtherHeader) (str : Tunstr) : Option Bool := do
  if h.type ≤ ethermtu ∧ str.sap = 0 then return true
  if h.type ≠ str.sap then return false
  let a ← str.ppa
  let ppa ← d.ppas.lookup a
  if h.shost = ppa.etheraddr then return false
  return h.dhost = ppa.etheraddr ∨ h.dhost = broadcastaddr ∨ h.dhost.multicast

/-- The streams of a unit are gone through; a copy goes to those that want the frame and
take it. -/
def offer (d : Driver) (k : Kernel) (pass : Pass) (wants : Tunstr → Option Bool) (m : Msg)
    (strs : List Nat) : Option Ups :=
  strs.foldrM (fun tmp ups => do
    let str ← d.streams.lookup tmp
    if (← wants str) && k.takes pass tmp then do
      let up ← copyFor str m
      some ((tmp, up) :: ups)
    else some ups) []

/-- `tun_frame`; with `queue` a frame that the control stream does not take is put back. -/
def tunFrame (d : Driver) (k : Kernel) (rq : Nat) (m : Msg) (queue : Bool) :
    Option (Driver × Ups) := do
  let str ← d.streams.lookup rq
  match str.ppa with
  | none => return (d, [])
  | some a => do
      let ppa ← d.ppas.lookup a
      let strs ← visited pLink d.streams ppa.pStr
      let sniffed ← offer d k .sniffer (fun tmp => some tmp.flags.sniffer) m strs
      if str.flags.control then do
        let routed ← offer d k .protocol
          (fun tmp => (EtherHeader.read m.first).bind fun h => tunFrameIsEligible d h tmp) m strs
        return (d, sniffed ++ routed)
      else if ppa.rq ∉ d.streams then none
      else if k.takes .control ppa.rq then return (d, sniffed ++ [(ppa.rq, .data m)])
      else if queue then
        let put (s : Tunstr) : Tunstr := { s with wq := putBehindHigh s.wq (.data m) }
        return ({ d with streams := adjust rq put d.streams }, sniffed)
      else return (d, sniffed)

/-- `tun_unitdata_req`: the addresses of the message become the header. -/
def tunUnitdataReq (order : Endian) (d : Driver) (k : Kernel) (rq : Nat) (mp : List Byte)
    (cont : Option Msg) : Option (Driver × Ups) := do
  let str ← d.streams.lookup rq
  if str.state ≠ .idle ∨ str.ppa = none then
    return (d, tundlerrack k rq dlUnitdataReq .outstate)
  match cont with
  | none => return (d, tundlerrack k rq dlUnitdataReq .baddata)
  | some m => do
      let offset ← readWord order mp 8
      let dest ← (array 6).read (mp.drop offset)
      let a ← str.ppa
      let ppa ← d.ppas.lookup a
      -- `type` is a short
      let type := if str.sap % 65536 ≤ ethermtu ∨ str.sap = 0 then m.bytes.length % 65536
        else str.sap % 65536
      if k.header then
        tunFrame d k rq ⟨EtherHeader.bytes ⟨dest, ppa.etheraddr, type⟩, m.first :: m.cont⟩ true
      else return (d, [])

/-! ## The write side -/

/-- A message put on the write side of a stream. -/
inductive Put where
  | data (m : Msg)
  | proto (high : Bool) (mp : List Byte) (cont : Option Msg)
  | ioctl (ioc : Ioctl)
  | flush (write read : Bool)
  | other
  deriving DecidableEq, Repr

/-- `putq` -/
def putq (wq : List Queued) (high : Bool) (mp : List Byte) : List Queued :=
  if high then putBehindHigh wq (.proto high mp) else wq ++ [.proto high mp]

/-- `tunwput` -/
def tunwput (order : Endian) (d : Driver) (k : Kernel) (rq : Nat) (put : Put) :
    Option (Driver × Ups) :=
  match put with
  | .data m => tunFrame d k rq m true
  | .proto high mp cont => do
      let prim ← readWord order mp 0
      if prim = dlUnitdataReq then tunUnitdataReq order d k rq mp cont
      else some ({ d with
        streams := adjust rq (fun s => { s with wq := putq s.wq high mp }) d.streams }, [])
  | .ioctl ioc => tunIoctl d k rq ioc
  | .flush write read =>
      let streams := if write then adjust rq (fun s => { s with wq := [] }) d.streams else d.streams
      some ({ d with streams := streams }, if read then [(rq, .flush)] else [])
  | .other => some (d, [])

/-- One message of the loop of `tunwsrv`. -/
def tunwsrv (order : Endian) (d : Driver) (k : Kernel) (rq : Nat) : Option (Driver × Ups) := do
  let str ← d.streams.lookup rq
  match str.wq with
  | [] => some (d, [])
  | queued :: wq =>
      let d := { d with streams := adjust rq (fun s => { s with wq := wq }) d.streams }
      match queued with
      | .data m => tunFrame d k rq m false
      | .proto _ mp => tunDlpi order d k rq mp

end TapCfg.SolarisTun
