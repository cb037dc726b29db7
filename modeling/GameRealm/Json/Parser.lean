import GameRealm.Json.Value
import GameRealm.Text.Utf8

/-!
# Parsing JSON

The strict grammar over bytes: four blank characters, no comments, no trailing
commas, no leading zeros, and nothing but blanks after the document. Every
reader returns what it read and the bytes behind it.
-/

namespace GameRealm.Json

/-- Blank, tab, line feed and carriage return. -/
def isBlank (b : UInt8) : Bool := b == 32 || b == 9 || b == 10 || b == 13

def skipBlanks (bytes : Bytes) : Bytes := bytes.dropWhile isBlank

def digit? (b : UInt8) : Option Nat :=
  if 48 ≤ b ∧ b ≤ 57 then some (b.toNat - 48) else none

def digitRun : Bytes → List Nat × Bytes
  | [] => ([], [])
  | b :: rest =>
    match digit? b with
    | none => ([], b :: rest)
    | some d => let (ds, rest) := digitRun rest; (d :: ds, rest)

/-- One or more digits. -/
def digits1? (bytes : Bytes) : Option (List Nat × Bytes) :=
  match digitRun bytes with
  | ([], _) => none
  | result => some result

/-- The digits before the point: a zero alone, or digits that do not start with one. -/
def whole? (bytes : Bytes) : Option (List Nat × Bytes) :=
  match digits1? bytes with
  | some (0 :: _ :: _, _) => none
  | result => result

/-- The part after a point, if there is a point. -/
def fraction? : Bytes → Option (List Nat × Bytes)
  | 46 :: rest => digits1? rest
  | bytes => some ([], bytes)

def exponent? : Bytes → Option (Option (Bool × List Nat) × Bytes)
  | b :: rest =>
    if b = 101 ∨ b = 69 then
      let (negative, rest) := match rest with
        | 45 :: rest => (true, rest)
        | 43 :: rest => (false, rest)
        | rest => (false, rest)
      (digits1? rest).map fun (ds, rest) => (some (negative, ds), rest)
    else some (none, b :: rest)
  | [] => some (none, [])

def number? (bytes : Bytes) : Option (Number × Bytes) := do
  let (negative, bytes) := match bytes with
    | 45 :: rest => (true, rest)
    | bytes => (false, bytes)
  let (whole, bytes) ← whole? bytes
  let (fraction, bytes) ← fraction? bytes
  let (exponent, bytes) ← exponent? bytes
  return (⟨negative, whole, fraction, exponent⟩, bytes)

/-! ## String literals -/

/-- A piece of a string literal: a byte that stands for itself, or a UTF-16
unit written as an escape. -/
inductive Piece where
  | byte (value : UInt8)
  | unit (value : Nat)
  deriving DecidableEq, Repr

def hexDigit? (b : UInt8) : Option Nat := Bytes.digitValue? (Char.ofNat b.toNat)

/-- The value of four hexadecimal digits. -/
def unit? (a b c d : UInt8) : Option Nat := do
  return 4096 * (← hexDigit? a) + 256 * (← hexDigit? b) + 16 * (← hexDigit? c) + (← hexDigit? d)

/-- The character that a one-letter escape stands for. -/
def letterEscape? (b : UInt8) : Option UInt8 :=
  if b = 34 ∨ b = 92 ∨ b = 47 then some b
  else if b = 98 then some 8
  else if b = 102 then some 12
  else if b = 110 then some 10
  else if b = 114 then some 13
  else if b = 116 then some 9
  else none

/-- The pieces of a literal up to its closing quote, and the bytes behind it. -/
def pieces? : Bytes → Option (List Piece × Bytes)
  | [] => none
  | 34 :: rest => some ([], rest)
  | 92 :: 117 :: a :: b :: c :: d :: rest => do
    let unit ← unit? a b c d
    let (pieces, rest) ← pieces? rest
    return (.unit unit :: pieces, rest)
  | 92 :: b :: rest => do
    let byte ← letterEscape? b
    let (pieces, rest) ← pieces? rest
    return (.byte byte :: pieces, rest)
  | b :: rest =>
    if b < 32 ∨ b = 92 then none
    else do
      let (pieces, rest) ← pieces? rest
      return (.byte b :: pieces, rest)

/-- The bytes that pieces spell. Half of a surrogate pair spells nothing unless
its other half follows. -/
def spell? : List Piece → Option Bytes
  | [] => some []
  | .byte b :: rest => (spell? rest).map (b :: ·)
  | .unit high :: .unit low :: rest =>
    if 0xD800 ≤ high ∧ high < 0xDC00 then
      if 0xDC00 ≤ low ∧ low < 0xE000 then
        let c := Char.ofNat (0x10000 + 0x400 * (high - 0xD800) + (low - 0xDC00))
        (spell? rest).map (String.utf8EncodeChar c ++ ·)
      else none
    else if 0xDC00 ≤ high ∧ high < 0xE000 then none
    else (spell? (.unit low :: rest)).map (String.utf8EncodeChar (Char.ofNat high) ++ ·)
  | .unit value :: rest =>
    if 0xD800 ≤ value ∧ value < 0xE000 then none
    else (spell? rest).map (String.utf8EncodeChar (Char.ofNat value) ++ ·)

/-- The text of a literal, if it is text. -/
def textOf (pieces : List Piece) : Option String := (spell? pieces).bind Utf8.decode?

/-- A literal behind its opening quote. -/
def literal? (bytes : Bytes) : Option (Option String × Bytes) :=
  (pieces? bytes).map fun (pieces, rest) => (textOf pieces, rest)

/-! ## Documents -/

def expect? (word : Bytes) (bytes : Bytes) : Option Bytes :=
  if word.isPrefixOf bytes then some (bytes.drop word.length) else none

mutual
/-- One value. The fuel bounds the number of values and separators in it. -/
def value? : Nat → Bytes → Option (Json × Bytes)
  | 0, _ => none
  | fuel + 1, bytes =>
    match skipBlanks bytes with
    | [] => none
    | 34 :: rest => (literal? rest).map fun (content, rest) => (.text content, rest)
    | 91 :: rest =>
      match skipBlanks rest with
      | 93 :: rest => some (.array [], rest)
      | rest => (items? fuel rest).map fun (items, rest) => (.array items, rest)
    | 123 :: rest =>
      match skipBlanks rest with
      | 125 :: rest => some (.object [], rest)
      | rest => (members? fuel rest).map fun (members, rest) => (.object members, rest)
    | 110 :: rest => (expect? [117, 108, 108] rest).map fun rest => (.null, rest)
    | 116 :: rest => (expect? [114, 117, 101] rest).map fun rest => (.bool true, rest)
    | 102 :: rest => (expect? [97, 108, 115, 101] rest).map fun rest => (.bool false, rest)
    | bytes => (number? bytes).map fun (n, rest) => (.number n, rest)

/-- One or more values parted by commas, up to the closing bracket. -/
def items? : Nat → Bytes → Option (List Json × Bytes)
  | 0, _ => none
  | fuel + 1, bytes => do
    let (item, rest) ← value? fuel bytes
    match skipBlanks rest with
    | 93 :: rest => return ([item], rest)
    | 44 :: rest => do
      let (items, rest) ← items? fuel rest
      return (item :: items, rest)
    | _ => none

/-- One or more members parted by commas, up to the closing brace. -/
def members? : Nat → Bytes → Option (List (Option String × Json) × Bytes)
  | 0, _ => none
  | fuel + 1, bytes =>
    match skipBlanks bytes with
    | 34 :: rest => do
      let (name, rest) ← literal? rest
      match skipBlanks rest with
      | 58 :: rest => do
        let (value, rest) ← value? fuel rest
        match skipBlanks rest with
        | 125 :: rest => return ([(name, value)], rest)
        | 44 :: rest => do
          let (members, rest) ← members? fuel rest
          return ((name, value) :: members, rest)
        | _ => none
      | _ => none
    | _ => none
end

/-- The document that the bytes spell, if they spell exactly one. -/
def parse? (bytes : Bytes) : Option Json :=
  match value? (2 * bytes.length + 2) bytes with
  | some (json, rest) => if skipBlanks rest = [] then some json else none
  | none => none

end GameRealm.Json
