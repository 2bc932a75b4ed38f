/-
  Unix/Dlpi.lean --- the messages to a DLPI driver on Solaris.

  Source: src/lib/dlpi.c, lines 30-237.

  A request is put, and the driver's answer got into a buffer of which it fills
  the first part; what stands behind that part is whatever the stack has there.
  `dlpi_get_msg` does not hand back how much has been received.  So
  `dlpi_get_physaddr` checks the length it finds in the answer against the room
  of its caller, and nothing against the answer (`physaddr_inside_iff`).

  The layout of the messages is that of <sys/dlpi.h>: words of 32 bits in the
  order of the machine.  `copied` is a ghost: what has been copied of the buffer.
-/
import TapCfg.Foundation.Inet
import TapCfg.Foundation.Memory
import TapCfg.Unix.Types

set_option autoImplicit false

namespace TapCfg.Unix.Dlpi

open TapCfg.Foundation
open Prog hiding ret

/-! ## Messages -/

/-- `DLPIBUFSIZE` -/
def dlpiBufSize : Nat := 512

def dlOkAck : Nat := 0x06

def dlAttachReq : Nat := 0x0b

def dlDetachReq : Nat := 0x0c

def dlPhysAddrReq : Nat := 0x31

def dlPhysAddrAck : Nat := 0x32

def dlSetPhysAddrReq : Nat := 0x33

def dlCurrPhysAddr : Nat := 0x02

/-- The bytes of a word. -/
def putWord (order : Endian) (n : Nat) : List Byte :=
  let bytes :=
    [UInt8.ofNat n, UInt8.ofNat (n >>> 8), UInt8.ofNat (n >>> 16), UInt8.ofNat (n >>> 24)]
  match order with
  | .little => bytes
  | .big => bytes.reverse

/-- The words of a request. -/
def words (order : Endian) (ns : List Nat) : List Byte := ns.flatMap (putWord order)

/-- The number of some bytes, the lowest first. -/
def ofBytes : List Byte → Nat
  | [] => 0
  | b :: bytes => b.toNat + 256 * ofBytes bytes

/-- The word at offset `i`. -/
def word (order : Endian) (buffer : List Byte) (i : Nat) : Nat :=
  let bytes := (buffer.drop i).take 4
  match order with
  | .little => ofBytes bytes
  | .big => ofBytes bytes.reverse

/-- What `getmsg` leaves: its result, the control part, and what the rest of the
buffer holds. -/
structure Received where
  ret : Int
  msg : List Byte
  rest : List Byte
  deriving DecidableEq, Repr

def Received.buffer (reply : Received) : List Byte := reply.msg ++ reply.rest

/-- The driver sends at most what the buffer holds. -/
def Received.Fits (reply : Received) : Prop := reply.buffer.length = dlpiBufSize

instance (reply : Received) : Decidable reply.Fits := inferInstanceAs (Decidable (_ = _))

/-! ## System calls -/

inductive DlpiCall where
  | putmsg (fd : Int) (ctrl : List Byte)
  | getmsg (fd : Int) (maxlen : Nat)
  deriving DecidableEq, Repr

def DlpiCall.Ans : DlpiCall → Type
  | .putmsg _ _ => Int
  | .getmsg _ _ => Received

/-- The memory of the caller from `hwaddr` on, and what was copied: offset and length. -/
structure Caller where
  hwaddr : List Byte
  copied : List (Nat × Int)
  deriving DecidableEq, Repr

/-- A copy leaves one of its two buffers. -/
inductive DlpiFault where
  | overrun
  deriving DecidableEq, Repr

abbrev DlpiIo (α : Type) : Type := Prog Caller DlpiCall DlpiCall.Ans DlpiFault α

/-- `dlpi_put_msg`, which is never given data. -/
def dlpiPutMsg (fd : Int) (prim : List Byte) : DlpiIo Int := .call (.putmsg fd prim) .ret

/-- `dlpi_get_msg`, which is never asked for data. -/
def dlpiGetMsg (fd : Int) (primLen : Nat) : DlpiIo Received := .call (.getmsg fd primLen) .ret

/-! ## The program -/

/-- The conversion of an `int` to `unsigned`. -/
def toUnsigned (n : Int) : Nat := (n % 0x100000000).toNat

/-- The conversion of `unsigned` to an `int`. -/
def toSigned (n : Nat) : Int := (n : Int).bmod 0x100000000

/-- A request is put, and its answer got, or either fails. -/
def transact (fd : Int) (prim : List Byte) : DlpiIo (Option (List Byte)) := do
  let ret ← dlpiPutMsg fd prim
  if ret < 0 then return none
  let reply ← dlpiGetMsg fd dlpiBufSize
  if reply.ret ≠ 0 then return none
  return some reply.buffer

/-- The exchange of `dlpi_attach`, `dlpi_detach` and `dlpi_set_physaddr`. -/
def acknowledged (order : Endian) (fd : Int) (prim : List Byte) : DlpiIo Int := do
  match ← transact fd prim with
  | none => return -1
  | some buffer => return if word order buffer 0 ≠ dlOkAck then -1 else 0

/-- `dlpi_attach` -/
def dlpiAttach (order : Endian) (fd ppa : Int) : DlpiIo Int :=
  acknowledged order fd (words order [dlAttachReq, toUnsigned ppa])

/-- `dlpi_detach` -/
def dlpiDetach (order : Endian) (fd : Int) : DlpiIo Int :=
  acknowledged order fd (words order [dlDetachReq])

/-- `memcpy(hwaddr, buffer + offset, n)` -/
def copyOut (buffer : List Byte) (offset : Nat) (n : Int) (s : Caller) : Except DlpiFault Caller :=
  match memcpy s.hwaddr (buffer.drop offset) n with
  | some hwaddr => .ok { hwaddr := hwaddr, copied := s.copied ++ [(offset, n)] }
  | none => .error .overrun

/-- The second part of `dlpi_get_physaddr`, which looks at the answer. -/
def takePhysaddr (order : Endian) (buffer : List Byte) (length : Int) : DlpiIo Int := do
  if word order buffer 0 ≠ dlPhysAddrAck then return -1
  -- `dl_addr_length` is unsigned, and so is the comparison
  if toUnsigned length < word order buffer 4 then return -1
  let length := toSigned (word order buffer 4)
  update (copyOut buffer (word order buffer 8) length)
  return length

/-- `dlpi_get_physaddr` -/
def dlpiGetPhysaddr (order : Endian) (fd length : Int) : DlpiIo Int := do
  match ← transact fd (words order [dlPhysAddrReq, dlCurrPhysAddr]) with
  | none => return -1
  | some buffer => takePhysaddr order buffer length

/-- `dlpi_set_physaddr`: the address stands behind the three words of the request. -/
def dlpiSetPhysaddr (order : Endian) (fd : Int) (hwaddr : List Byte) : DlpiIo Int :=
  if dlpiBufSize < 12 + hwaddr.length then .fault .overrun
  else acknowledged order fd (words order [dlSetPhysAddrReq, hwaddr.length, 12] ++ hwaddr)

/-! ## One exchange -/

/-- A driver to which the request is put with this result, and which answers so. -/
def exchange (put : Int) (reply : Received) : Responder Caller DlpiCall DlpiCall.Ans := fun s c =>
  match c with
  | .putmsg _ _ => (put, s)
  | .getmsg _ _ => (reply, s)

/-- The answer is refused by one of the checks, for a caller with room for `size` bytes. -/
inductive Refused (order : Endian) (put : Int) (reply : Received) (size : Nat) : Prop where
  | put (h : put < 0)
  | get (h : reply.ret ≠ 0)
  | primitive (h : word order reply.buffer 0 ≠ dlPhysAddrAck)
  | tooLong (h : size < word order reply.buffer 4)

/-- Nothing is written, or just so many bytes of the received message as are reported. -/
inductive Safe (reply : Received) (s : Caller) : Except DlpiFault Int × Caller → Prop where
  | refused : Safe reply s (.ok (-1), s)
  | copied {off n : Nat} (hroom : n ≤ s.hwaddr.length)
      (hinside : ∀ i, off ≤ i → i < off + n → i < reply.msg.length) :
      Safe reply s (.ok n, {
        hwaddr := (reply.msg.drop off).take n ++ s.hwaddr.drop n
        copied := s.copied ++ [(off, (n : Int))] })

section

variable {order : Endian} {fd put : Int} {reply : Received} {s : Caller} {off n : Nat}

theorem toUnsigned_of_le {n : Nat} (h : n ≤ 0x7fffffff) : toUnsigned n = n := by
  unfold toUnsigned
  omega

theorem toSigned_of_le {n : Nat} (h : n ≤ 0x7fffffff) : toSigned n = n := by
  unfold toSigned
  rw [Int.bmod_def]
  split <;> omega

theorem run_transact (prim : List Byte) :
    (transact fd prim).run (exchange put reply) s =
      (.ok (if put < 0 ∨ reply.ret ≠ 0 then none else some reply.buffer), s) := by
  show ((if put < 0 then .ret none else _ : DlpiIo (Option (List Byte))).run _ s) = _
  by_cases hput : put < 0
  · rw [if_pos hput, if_pos (.inl hput)]
    rfl
  rw [if_neg hput]
  show ((if reply.ret ≠ 0 then .ret none else .ret (some reply.buffer) :
    DlpiIo (Option (List Byte))).run _ s) = _
  by_cases hget : reply.ret ≠ 0
  · rw [if_pos hget, if_pos (.inr hget)]
    rfl
  · rw [if_neg hget, if_neg (not_or.mpr ⟨hput, hget⟩)]
    rfl

/-- A server that takes the request, and answers so. -/
theorem runAgainst_transact {W : Type} {serve : Server W DlpiCall DlpiCall.Ans} {w w₁ w₂ : W}
    {prim : List Byte} (hput : serve w (.putmsg fd prim) = some ((0 : Int), w₁))
    (hget : serve w₁ (.getmsg fd dlpiBufSize) = some (reply, w₂)) (hret : reply.ret = 0) :
    (transact fd prim).runAgainst serve s w = some (.ok (some reply.buffer), s, w₂) := by
  refine (runAgainst_call hput).trans ((runAgainst_call hget).trans ?_)
  show (if reply.ret ≠ 0 then .ret none else .ret (some reply.buffer) :
    DlpiIo (Option (List Byte))).runAgainst serve s w₂ = _
  rw [if_neg (not_not.mpr hret)]
  rfl

/-- What is made of the answer without another call is made of it as in `exchange`. -/
theorem runAgainst_exchange {W α : Type} {serve : Server W DlpiCall DlpiCall.Ans} {w w₁ w₂ : W}
    {prim : List Byte} {g : Option (List Byte) → DlpiIo α}
    (hg : ∀ answer, Makes (fun _ => False) (g answer))
    (hput : serve w (.putmsg fd prim) = some ((0 : Int), w₁))
    (hget : serve w₁ (.getmsg fd dlpiBufSize) = some (reply, w₂)) (hret : reply.ret = 0) :
    ((transact fd prim).bind g).runAgainst serve s w =
      some ((((transact fd prim).bind g).run (exchange 0 reply) s).1,
        (((transact fd prim).bind g).run (exchange 0 reply) s).2, w₂) := by
  have hgot : ¬ ((0 : Int) < 0 ∨ reply.ret ≠ 0) := fun h => h.elim (by decide) (absurd hret)
  rw [runAgainst_bind (runAgainst_transact hput hget hret), run_bind (run_transact prim),
    if_neg hgot, runAgainst_of_makes (hg _) (exchange 0 reply)]

theorem makes_acknowledged (order : Endian) (answer : Option (List Byte)) :
    Makes (fun _ => False) (match answer with
      | none => .ret (-1)
      | some buffer => .ret (if word order buffer 0 ≠ dlOkAck then -1 else 0) : DlpiIo Int) := by
  cases answer with
  | none => trivial
  | some buffer => trivial

theorem makes_takePhysaddr (order : Endian) (length : Int) (answer : Option (List Byte)) :
    Makes (fun _ => False) (match answer with
      | none => .ret (-1)
      | some buffer => takePhysaddr order buffer length : DlpiIo Int) := by
  cases answer with
  | none => trivial
  | some buffer =>
      dsimp only
      unfold takePhysaddr
      split
      · trivial
      split
      · trivial
      · exact fun _ => trivial

theorem run_refused {size : Nat} (hint : size ≤ 0x7fffffff) (h : Refused order put reply size) :
    (dlpiGetPhysaddr order fd size).run (exchange put reply) s = (.ok (-1), s) := by
  unfold dlpiGetPhysaddr
  rw [bind_eq_bind, run_bind (run_transact _)]
  by_cases hgot : put < 0 ∨ reply.ret ≠ 0
  · rw [if_pos hgot]
    rfl
  rw [if_neg hgot]
  dsimp only
  unfold takePhysaddr
  split
  · rfl
  rw [toUnsigned_of_le hint]
  split
  · rfl
  · cases h with
    | put h => exact absurd (.inl h) hgot
    | get h => exact absurd (.inr h) hgot
    | primitive h => contradiction
    | tooLong h => contradiction

/-- An answer that passes the checks. -/
theorem run_accepted (fd : Int) {size : Nat} (hint : size ≤ 0x7fffffff)
    (h : ¬ Refused order put reply size) (hn : word order reply.buffer 4 = n)
    (hoff : word order reply.buffer 8 = off) :
    n ≤ size ∧ (dlpiGetPhysaddr order fd size).run (exchange put reply) s =
      match copyOut reply.buffer off n s with
      | .ok s' => (.ok n, s')
      | .error e => (.error e, s) := by
  have hle : n ≤ size := by
    rw [← hn]
    exact Nat.le_of_not_lt fun hlt => h (.tooLong hlt)
  have hgot : ¬ (put < 0 ∨ reply.ret ≠ 0) := fun hgot => h (hgot.elim .put .get)
  refine ⟨hle, ?_⟩
  unfold dlpiGetPhysaddr
  rw [bind_eq_bind, run_bind (run_transact _), if_neg hgot]
  dsimp only
  unfold takePhysaddr
  rw [if_neg fun hprim => h (.primitive hprim), toUnsigned_of_le hint, hn, hoff,
    if_neg (Nat.not_lt.mpr hle), toSigned_of_le (by omega)]
  show ((update (copyOut reply.buffer off n)).bind fun _ => .ret (n : Int) : DlpiIo Int).run _ s = _
  simp only [update, Prog.bind, Prog.run]
  cases copyOut reply.buffer off n s with
  | ok s' => rfl
  | error e => rfl

theorem copyOut_inside (hroom : n ≤ s.hwaddr.length) (h : n = 0 ∨ off + n ≤ reply.msg.length) :
    copyOut reply.buffer off n s = .ok {
      hwaddr := (reply.msg.drop off).take n ++ s.hwaddr.drop n
      copied := s.copied ++ [(off, (n : Int))] } := by
  have hbuffer : (reply.buffer.drop off).take n = (reply.msg.drop off).take n := by
    rcases h with rfl | hle
    · rfl
    · rw [Received.buffer, List.drop_append_of_le_length (by omega),
        List.take_append_of_le_length (by rw [List.length_drop]; omega)]
  have hlen : n ≤ (reply.buffer.drop off).length := by
    rw [Received.buffer, List.length_drop, List.length_append]
    omega
  unfold copyOut memcpy
  rw [if_pos ⟨by omega, by omega, by omega⟩, Int.toNat_natCast, hbuffer]

/-- A copy that succeeds has read what it was asked to. -/
theorem copyOut_copied {buffer : List Byte} {s' : Caller} (h : copyOut buffer off n s = .ok s') :
    s'.copied = s.copied ++ [(off, (n : Int))] := by
  unfold copyOut at h
  split at h
  · cases h
    rfl
  · cases h

theorem Safe.cases {out : Except DlpiFault Int × Caller} (h : Safe reply s out) :
    out = (.ok (-1), s) ∨ ∃ off n : Nat, out.1 = .ok (n : Int) ∧
      out.2.copied = s.copied ++ [(off, (n : Int))] ∧
      ∀ i, off ≤ i → i < off + n → i < reply.msg.length := by
  cases h with
  | refused => exact .inl rfl
  | copied _ hinside => exact .inr ⟨_, _, rfl, rfl, hinside⟩

/-- The call is safe exactly when the answer is refused, or the address is empty, or it
ends inside the received message. -/
theorem physaddr_inside_iff (order : Endian) (fd put : Int) (reply : Received) (s : Caller)
    (hint : s.hwaddr.length ≤ 0x7fffffff) :
    Safe reply s ((dlpiGetPhysaddr order fd s.hwaddr.length).run (exchange put reply) s) ↔
      Refused order put reply s.hwaddr.length ∨ word order reply.buffer 4 = 0 ∨
        word order reply.buffer 8 + word order reply.buffer 4 ≤ reply.msg.length := by
  by_cases href : Refused order put reply s.hwaddr.length
  · rw [run_refused hint href]
    exact iff_of_true .refused (.inl href)
  generalize hn : word order reply.buffer 4 = n
  generalize hoff : word order reply.buffer 8 = off
  obtain ⟨hroom, hrun⟩ := run_accepted (s := s) fd hint href hn hoff
  rw [hrun]
  constructor
  · intro hsafe
    refine .inr ?_
    by_contra houtside
    obtain ⟨hpos, hlt⟩ := not_or.mp houtside
    cases hcopy : copyOut reply.buffer off n s with
    | error e =>
        rw [hcopy] at hsafe
        rcases hsafe.cases with h | ⟨_, _, h, -⟩
        · cases h
        · cases h
    | ok s' =>
        rw [hcopy] at hsafe
        rcases hsafe.cases with h | ⟨off', n', -, hcopied, hinside⟩
        · have hret := (Except.ok.inj (congrArg Prod.fst h) : (n : Int) = -1)
          omega
        · -- the last byte of the copy
          replace hcopied : s'.copied = s.copied ++ [(off', (n' : Int))] := hcopied
          rw [copyOut_copied hcopy, List.append_cancel_left_eq] at hcopied
          obtain ⟨rfl, hn'⟩ := Prod.mk.inj (List.singleton_inj.mp hcopied)
          have hlast := hinside (off + n - 1) (by omega) (by omega)
          omega
  · rintro (h | h)
    · exact (href h).elim
    · rw [copyOut_inside hroom h]
      exact .copied hroom fun i _ hi => by omega

/-! ## Messages that carry an address -/

/-- A message with an address behind its three words and a gap. -/
def addrMessage (order : Endian) (prim : Nat) (gap addr : List Byte) : List Byte :=
  words order [prim, addr.length, 12 + gap.length] ++ (gap ++ addr)

theorem length_putWord (order : Endian) (n : Nat) : (putWord order n).length = 4 := by
  cases order <;> rfl

theorem length_words (order : Endian) (ns : List Nat) :
    (words order ns).length = 4 * ns.length := by
  induction ns with
  | nil => rfl
  | cons n ns ih =>
      rw [words, List.flatMap_cons, List.length_append, length_putWord, List.length_cons]
      rw [words] at ih
      omega

theorem ofBytes_four {n : Nat} (hn : n < 0x100000000) :
    ofBytes [UInt8.ofNat n, UInt8.ofNat (n >>> 8), UInt8.ofNat (n >>> 16), UInt8.ofNat (n >>> 24)] =
      n := by
  simp only [ofBytes, UInt8.toNat_ofNat', Nat.shiftRight_eq_div_pow]
  omega

/-- A word is read back where it was put. -/
theorem word_putWord (order : Endian) {n : Nat} (hn : n < 0x100000000) (before after : List Byte) :
    word order (before ++ (putWord order n ++ after)) before.length = n := by
  have htake : (putWord order n ++ after).take 4 = putWord order n :=
    List.take_left' (length_putWord order n)
  unfold word
  rw [List.drop_left, htake]
  cases order with
  | little => exact ofBytes_four hn
  | big =>
      dsimp only [putWord]
      rw [List.reverse_reverse]
      exact ofBytes_four hn

/-- The words of a message with an address, and the address where they say it is. -/
theorem addrMessage_carries (order : Endian) {prim : Nat} {gap addr : List Byte}
    (hprim : prim < 0x100000000) (hlen : 12 + gap.length + addr.length < 0x100000000)
    (rest : List Byte) :
    word order (addrMessage order prim gap addr ++ rest) 0 = prim ∧
      word order (addrMessage order prim gap addr ++ rest) 4 = addr.length ∧
      word order (addrMessage order prim gap addr ++ rest) 8 = 12 + gap.length ∧
      ((addrMessage order prim gap addr).drop (12 + gap.length)).take addr.length = addr := by
  have hsplit : addrMessage order prim gap addr ++ rest =
      putWord order prim ++ (putWord order addr.length ++ (putWord order (12 + gap.length) ++
        (gap ++ (addr ++ rest)))) := by
    simp [addrMessage, words, List.append_assoc]
  refine ⟨?_, ?_, ?_, ?_⟩
  · rw [hsplit]
    exact word_putWord order hprim [] _
  · have hword := word_putWord order (n := addr.length) (by omega) (putWord order prim)
      (putWord order (12 + gap.length) ++ (gap ++ (addr ++ rest)))
    rw [length_putWord] at hword
    rw [hsplit, hword]
  · have hword := word_putWord order (n := 12 + gap.length) (by omega)
      (putWord order prim ++ putWord order addr.length) (gap ++ (addr ++ rest))
    rw [List.length_append, length_putWord, length_putWord, List.append_assoc] at hword
    rw [hsplit, hword]
  · have hfront : (words order [prim, addr.length, 12 + gap.length] ++ gap).length =
        12 + gap.length := by
      rw [List.length_append, length_words]
      simp
    rw [addrMessage, ← List.append_assoc, List.drop_left' hfront, List.take_length]

/-- The address of a driver that sends such a message is handed over. -/
theorem run_addrMessage (order : Endian) (fd : Int) {gap addr : List Byte} (rest : List Byte)
    (hlen : 12 + gap.length + addr.length < 0x100000000) (hroom : addr.length ≤ s.hwaddr.length)
    (hint : s.hwaddr.length ≤ 0x7fffffff) :
    (dlpiGetPhysaddr order fd s.hwaddr.length).run
        (exchange 0 ⟨0, addrMessage order dlPhysAddrAck gap addr, rest⟩) s =
      (.ok addr.length, {
        hwaddr := addr ++ s.hwaddr.drop addr.length
        copied := s.copied ++ [(12 + gap.length, (addr.length : Int))] }) := by
  obtain ⟨hprim, hword, hoff, haddr⟩ :=
    addrMessage_carries order (show dlPhysAddrAck < 0x100000000 by decide) hlen rest
  have haccepted : ¬ Refused order 0 ⟨0, addrMessage order dlPhysAddrAck gap addr, rest⟩
      s.hwaddr.length := by
    rintro (h | h | h | h)
    · cases h
    · exact h rfl
    · exact h hprim
    · rw [Received.buffer, hword] at h
      omega
  obtain ⟨-, hrun⟩ := run_accepted (s := s) fd hint haccepted hword hoff
  have hinside : 12 + gap.length + addr.length ≤
      (addrMessage order dlPhysAddrAck gap addr).length := by
    rw [addrMessage, List.length_append, length_words, List.length_append]
    simp
    omega
  rw [hrun, copyOut_inside hroom (.inr hinside), haddr]

/-- `dlpi_set_physaddr` sends such a message. -/
theorem dlpiSetPhysaddr_eq {hwaddr : List Byte} (h : 12 + hwaddr.length ≤ dlpiBufSize) :
    dlpiSetPhysaddr order fd hwaddr =
      acknowledged order fd (addrMessage order dlSetPhysAddrReq [] hwaddr) :=
  if_neg (Nat.not_lt.mpr h)

end

/-! ## A message that ends before the address -/

/-- A caller with room for six bytes. -/
def sixBytes : Caller := ⟨List.replicate 6 0, []⟩

/-- An address of six bytes behind the words. -/
theorem physaddr_inside_plain :
    Safe ⟨0, words .little [0x32, 6, 12] ++ [1, 2, 3, 4, 5, 6], List.replicate 494 0xaa⟩ sixBytes
      ((dlpiGetPhysaddr .little 3 6).run (exchange 0
        ⟨0, words .little [0x32, 6, 12] ++ [1, 2, 3, 4, 5, 6], List.replicate 494 0xaa⟩)
        sixBytes) :=
  (physaddr_inside_iff .little 3 0 _ sixBytes (by decide)).mpr (.inr (.inr (by decide +kernel)))

/-- The message is the three words alone: six bytes of the stack are returned as the
address.  With a larger offset the buffer is left. -/
theorem physaddr_outside :
    (⟨0, words .little [0x32, 6, 12], List.replicate 500 0xaa⟩ : Received).Fits ∧
      (dlpiGetPhysaddr .little 3 6).run
          (exchange 0 ⟨0, words .little [0x32, 6, 12], List.replicate 500 0xaa⟩) sixBytes =
        (.ok 6, ⟨List.replicate 6 0xaa, [(12, 6)]⟩) ∧
      ¬ Safe ⟨0, words .little [0x32, 6, 12], List.replicate 500 0xaa⟩ sixBytes
        ((dlpiGetPhysaddr .little 3 6).run
          (exchange 0 ⟨0, words .little [0x32, 6, 12], List.replicate 500 0xaa⟩) sixBytes) ∧
      (dlpiGetPhysaddr .little 3 6).run
          (exchange 0 ⟨0, words .little [0x32, 6, 4096], List.replicate 500 0xaa⟩) sixBytes =
        (.error .overrun, sixBytes) := by
  have hrun : (dlpiGetPhysaddr .little 3 6).run
      (exchange 0 ⟨0, words .little [0x32, 6, 12], List.replicate 500 0xaa⟩) sixBytes =
        (.ok 6, ⟨List.replicate 6 0xaa, [(12, 6)]⟩) := by decide +kernel
  refine ⟨by decide +kernel, hrun, fun hsafe => ?_, by decide +kernel⟩
  rw [hrun] at hsafe
  rcases hsafe.cases with h | ⟨off, n, -, hcopied, hinside⟩
  · cases h
  · obtain ⟨rfl, hn⟩ := Prod.mk.inj (List.singleton_inj.mp hcopied)
    have hlast := hinside 12 (Nat.le_refl 12) (by omega)
    exact absurd hlast (by decide)

end TapCfg.Unix.Dlpi
