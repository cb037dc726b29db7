import GameRealm.Bytes.Hex

/-!
# Network addresses

The two notations in which a host may be given.

1. An IPv4 address is a number of 32 bits. It is written as one to four numbers
   with dots between them, each in decimal, in octal after a zero, or in
   hexadecimal after `0x`. The last number fills all the bytes that the others,
   one byte each, leave.
2. An IPv6 address is eight groups of 16 bits, written in hexadecimal with colons
   between them. Two colons stand for one or more groups of zeros, at one place,
   and the last two groups may be written as an IPv4 address of four decimal bytes.
-/

namespace GameRealm

/-- The number below `limit` that digits spell in a base of at most sixteen. -/
def numeral? (base limit : Nat) (digits : List Char) : Option Nat :=
  let append (n : Nat) (c : Char) : Option Nat := do
    let digit ← Bytes.digitValue? c
    if digit < base ∧ base * n + digit < limit then some (base * n + digit) else none
  if digits.isEmpty then none else digits.foldlM append 0

/-! ## IPv4 -/

structure Ipv4 where
  bits : UInt32
  deriving DecidableEq, Repr

namespace Ipv4

/-- The four bytes, most significant first. -/
def bytes (address : Ipv4) : List Nat :=
  [16777216, 65536, 256, 1].map fun unit => address.bits.toNat / unit % 256

/-- The bytes in decimal, with dots between them. -/
def toText (address : Ipv4) : String :=
  String.intercalate "." (address.bytes.map fun b => toString b)

def number? : List Char → Option Nat
  | '0' :: 'x' :: digits => numeral? 16 0x100000000 digits
  | '0' :: 'X' :: digits => numeral? 16 0x100000000 digits
  | '0' :: digits => numeral? 8 0x100000000 ('0' :: digits)
  | digits => numeral? 10 0x100000000 digits

/-- The number that bytes and a last number spell. `left` bytes are still to be
filled, and the ones before them spell `value`. -/
def fill? : Nat → Nat → List Nat → Option Nat
  | 0, _, _ => none
  | _, _, [] => none
  | left + 1, value, [last] =>
    let room := 1 <<< (8 * (left + 1))
    if last < room then some (room * value + last) else none
  | left + 1, value, n :: rest =>
    if n < 256 then fill? left (256 * value + n) rest else none

/-- The address that one to four numbers stand for. -/
def ofNumbers? (numbers : List Nat) : Option Ipv4 :=
  (fill? 4 0 numbers).map fun n => ⟨UInt32.ofNat n⟩

/-- Reads an address in any of its forms. -/
def ofString? (text : String) : Option Ipv4 := do
  ofNumbers? (← (text.splitOn ".").mapM fun part => number? part.toList)

/-- Reads an address in the one form in which addresses are printed. -/
def ofPrinted? (text : String) : Option Ipv4 :=
  (ofString? text).filter fun address => address.toText = text

end Ipv4

/-! ## IPv6 -/

/-- An IPv6 address: its eight groups. -/
structure Ipv6 where
  groups : List Nat
  deriving DecidableEq, Repr

namespace Ipv6

/-- One group of the notation: at most four digits. -/
def group? (text : String) : Option Nat :=
  if text.length ≤ 4 then numeral? 16 0x10000 text.toList else none

/-- The groups that are written between colons. Where the address ends, an IPv4
address may stand for two groups. -/
def groups? (ends : Bool) : List String → Option (List Nat)
  | [] => some []
  | [text] =>
    match group? text with
    | some group => some [group]
    | none =>
      if ends then
        (Ipv4.ofPrinted? text).map fun address =>
          [address.bits.toNat / 65536, address.bits.toNat % 65536]
      else none
  | text :: rest => do
    let group ← group? text
    return group :: (← groups? ends rest)

/-- The groups on one side of two colons. -/
def side? (ends : Bool) (text : String) : Option (List Nat) :=
  if text.isEmpty then some [] else groups? ends (text.splitOn ":")

def ofString? (text : String) : Option Ipv6 :=
  match text.splitOn "::" with
  | [whole] => do
    let groups ← side? true whole
    if groups.length = 8 then some ⟨groups⟩ else none
  | [head, tail] => do
    let head ← side? false head
    let tail ← side? true tail
    let known := head.length + tail.length
    if known < 8 then some ⟨head ++ List.replicate (8 - known) 0 ++ tail⟩ else none
  | _ => none

end Ipv6

end GameRealm
