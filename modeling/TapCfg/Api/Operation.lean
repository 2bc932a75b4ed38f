/-
  Api/Operation.lean --- the operations on a started device, and how they fail.

  Source: src/include/tapcfg.h, lines 88-104 and 112-327.

  `tapcfg_start` has to be called before any of them, `or the other functions
  will simply fail': the header says of each function what it returns then.
-/
import TapCfg.Foundation.Framing

set_option autoImplicit false

namespace TapCfg.Api

open TapCfg.Foundation

/-- An operation on a started device, with its arguments; `buf` is the memory of the caller. -/
inductive Operation where
  | getFd
  | waitReadable (msec : Int)
  | read (buf : List Byte) (count : Int)
  | waitWritable (msec : Int)
  | write (buf : List Byte) (count : Int)
  | getIfname
  | getHwaddr
  | setHwaddr (hwaddr : List Byte) (length : Int)
  | setStatus (flags : Int)
  | getMtu
  | setMtu (mtu : Int)
  | setIpv4 (addrstr : List Char) (netbits : Byte)
  | setIpv6 (addrstr : List Char) (netbits : Byte)
  | setDhcpOptions (buffer : List Byte) (buflen : Int)
  | setDhcpv6Options (buffer : List Byte) (buflen : Int)

/-- What an operation returns; of a pointer, whether it is `NULL`. -/
inductive Result where
  | number (n : Int)
  | pointer
  | null
  deriving DecidableEq, Repr

/-- A negative value. -/
def Result.Negative : Result → Prop
  | .number n => n < 0
  | _ => False

/-- What the operation returns when it fails. -/
def Operation.Fails : Operation → Result → Prop
  | .waitReadable _, r => r = .number 0
  | .waitWritable _, r => r = .number 0
  | .getIfname, r => r = .null
  | .getHwaddr, r => r = .null
  | _, r => r.Negative

/-- A pointer that is returned. -/
def ofOption {α : Type} : Option α → Result
  | some _ => .pointer
  | none => .null

theorem not_negative_zero : ¬ (Result.number 0).Negative := (by decide : ¬ (0 : Int) < 0)

theorem negative_neg_one : (Result.number (-1)).Negative := (by decide : (-1 : Int) < 0)

end TapCfg.Api
