import GameRealm.Bytes.Hex

/-!
# Prefix codes

A canonical code is given by the length of each symbol's code. Codes of one
length are consecutive in symbol order, and shorter codes come first, so it is
enough to know how many codes each length has and the symbols in that order.
-/

namespace GameRealm.Inflate

/-- The bits of a byte, least significant first. -/
def bitsOfByte (b : UInt8) : List Bool :=
  (List.range 8).map fun i => b.toNat.testBit i

def bitsOf (bytes : Bytes) : List Bool := bytes.flatMap bitsOfByte

/-- Why a read from the stream did not succeed. -/
inductive Halt where
  /-- The bytes cannot be right. -/
  | corrupt
  /-- The bytes end too early. -/
  | truncated
  /-- There is as much output as may be wanted. -/
  | full
  deriving DecidableEq, Repr

/-- Takes a number of `n` bits, least significant first. -/
def takeBits : Nat → List Bool → Except Halt (Nat × List Bool)
  | 0, bits => .ok (0, bits)
  | _ + 1, [] => .error .truncated
  | n + 1, bit :: bits =>
    (takeBits n bits).map fun (value, rest) => (2 * value + bit.toNat, rest)

/-- A canonical code. -/
structure Code where
  /-- How many codes have the length 1, 2, … up to the longest one. -/
  counts : List Nat
  /-- The symbols in the order of their codes. -/
  symbols : Array Nat
  deriving Repr

namespace Code

/-- No code is longer. -/
def maxLength : Nat := 15

def symbolsOfLength (lengths : List Nat) (length : Nat) : List Nat :=
  lengths.zipIdx.filterMap fun (l, symbol) => if l = length then some symbol else none

/-- The code with the given length for each symbol, zero for no code at all. A
code without symbols has the length 1 too, so that it takes a bit to see that
none fits. -/
def ofLengths (lengths : List Nat) : Code :=
  let longest := min maxLength (max 1 (lengths.foldl max 0))
  let byLength := (List.range longest).map fun l => symbolsOfLength lengths (l + 1)
  { counts := byLength.map List.length, symbols := byLength.flatten.toArray }

/-- How many strings as long as the longest code start with a code. -/
def coverage (code : Code) : Nat :=
  code.counts.foldl (fun total count => 2 * total + count) 0

/-- Every string starts with exactly one code. -/
def complete (code : Code) : Bool := code.coverage == 1 <<< code.counts.length

/-- A code of a block has to be complete, unless it has at most one symbol, whose
code is then a single bit. -/
def usable (code : Code) : Bool :=
  code.complete || (code.counts.length == 1 && code.symbols.size ≤ 1)

/-- Takes bits until they are a code of the current length. `value` is what the
bits so far spell, `first` the first code of the length, and `index` the place
of its symbol. Bits as long as the longest code that are none cannot be right. -/
def decodeFrom (symbols : Array Nat) :
    List Nat → Nat → Nat → Nat → List Bool → Except Halt (Nat × List Bool)
  | [], _, _, _, _ => .error .corrupt
  | _ :: _, _, _, _, [] => .error .truncated
  | count :: counts, value, first, index, bit :: bits =>
    let value := 2 * value + bit.toNat
    if value < first + count then
      match symbols[index + (value - first)]? with
      | some symbol => .ok (symbol, bits)
      | none => .error .corrupt
    else decodeFrom symbols counts value (2 * (first + count)) (index + count) bits

def decode (code : Code) (bits : List Bool) : Except Halt (Nat × List Bool) :=
  decodeFrom code.symbols code.counts 0 0 0 bits

end Code

end GameRealm.Inflate
