import GameRealm.Bytes.Hex

/-!
# UTF-8

Decoding is a machine that takes one byte at a time. `scan` turns a byte string
into the characters it spells, with a `none` for every maximal prefix of a
sequence that cannot be completed. The strict reader refuses a text with any
such gap, the forgiving one puts U+FFFD into it.
-/

namespace GameRealm.Utf8

/-- Where the machine stands: between characters, or inside a sequence that
still needs `missing + 1` bytes, the next of them between `low` and `high`. -/
inductive State where
  | between
  | inside (missing : Nat) (low high : UInt8) (value : Nat)
  deriving DecidableEq, Repr

/-- What the first byte of a character leads to. The narrowed ranges after
`E0`, `ED`, `F0` and `F4` exclude overlong forms, surrogates and values past
U+10FFFF. -/
def lead (b : UInt8) : State × List (Option Char) :=
  if b < 0x80 then (.between, [some (Char.ofNat b.toNat)])
  else if b < 0xC2 then (.between, [none])
  else if b < 0xE0 then (.inside 0 0x80 0xBF (b.toNat - 0xC0), [])
  else if b < 0xF0 then
    let low := if b = 0xE0 then 0xA0 else 0x80
    let high := if b = 0xED then 0x9F else 0xBF
    (.inside 1 low high (b.toNat - 0xE0), [])
  else if b < 0xF5 then
    let low := if b = 0xF0 then 0x90 else 0x80
    let high := if b = 0xF4 then 0x8F else 0xBF
    (.inside 2 low high (b.toNat - 0xF0), [])
  else (.between, [none])

/-- One byte: it continues the open sequence, or closes it as a gap and starts anew. -/
def step : State → UInt8 → State × List (Option Char)
  | .between, b => lead b
  | .inside missing low high value, b =>
    if low ≤ b ∧ b ≤ high then
      let value := 64 * value + (b.toNat - 0x80)
      match missing with
      | 0 => (.between, [some (Char.ofNat value)])
      | missing + 1 => (.inside missing 0x80 0xBF value, [])
    else
      let (state, out) := lead b
      (state, none :: out)

/-- The characters and gaps of a byte string, from a given state. -/
def scanFrom : State → Bytes → List (Option Char)
  | .between, [] => []
  | .inside .., [] => [none]
  | state, b :: rest => (step state b).2 ++ scanFrom (step state b).1 rest

/-- The characters and gaps of a byte string. -/
def scan (bytes : Bytes) : List (Option Char) := scanFrom .between bytes

/-- The text of a byte string, or `none` when some of it is not UTF-8. -/
def decode? (bytes : Bytes) : Option String :=
  ((scan bytes).mapM id).map String.ofList

/-- The text of a byte string with U+FFFD for every gap. -/
def decodeLossy (bytes : Bytes) : String :=
  String.ofList ((scan bytes).map fun c => c.getD (Char.ofNat 0xFFFD))

def encode (text : String) : Bytes :=
  text.toList.flatMap String.utf8EncodeChar

end GameRealm.Utf8
