/-!
# Bytes and their hexadecimal forms

A payload, a session key and a frame are lists of bytes. This module holds the
three written forms that the realm uses: lowercase pairs for data, uppercase
pairs for keys in logs, and the sixteen-column dump of a faulty payload.
-/

namespace GameRealm

abbrev Bytes := List UInt8

namespace Bytes

def lowerDigit (n : Nat) : Char :=
  if n < 10 then Char.ofNat (48 + n) else Char.ofNat (87 + n)

def upperDigit (n : Nat) : Char :=
  if n < 10 then Char.ofNat (48 + n) else Char.ofNat (55 + n)

/-- The two digits of one byte, high half first. -/
def pair (digit : Nat → Char) (b : UInt8) : List Char :=
  [digit (b.toNat / 16), digit (b.toNat % 16)]

/-- Lowercase hexadecimal, two digits a byte. -/
def toHex (bytes : Bytes) : String :=
  String.ofList (bytes.flatMap (pair lowerDigit))

def toUpperHex (bytes : Bytes) : String :=
  String.ofList (bytes.flatMap (pair upperDigit))

def digitValue? (c : Char) : Option Nat :=
  let n := c.toNat
  if 48 ≤ n ∧ n ≤ 57 then some (n - 48)
  else if 97 ≤ n ∧ n ≤ 102 then some (n - 87)
  else if 65 ≤ n ∧ n ≤ 70 then some (n - 55)
  else none

/-- Reads pairs of digits of either case; a lone or foreign character is refused. -/
def ofHexChars? : List Char → Option Bytes
  | [] => some []
  | [_] => none
  | a :: b :: rest =>
    match digitValue? a, digitValue? b, ofHexChars? rest with
    | some high, some low, some bytes => some (UInt8.ofNat (16 * high + low) :: bytes)
    | _, _, _ => none

def ofHex? (text : String) : Option Bytes := ofHexChars? text.toList

/-- Cuts a list into rows of `width`; the last row may be shorter. -/
def rows (width : Nat) : Nat → List α → List (List α)
  | 0, _ => []
  | _ + 1, [] => []
  | fuel + 1, x :: xs =>
    (x :: xs).take width :: rows width fuel ((x :: xs).drop width)

/-- The dump of a payload: uppercase pairs parted by blanks, sixteen to a line. -/
def hexDump (bytes : Bytes) : String :=
  String.intercalate "\n" ((rows 16 bytes.length bytes).map fun row =>
    String.intercalate " " (row.map fun b => String.ofList (pair upperDigit b)))

end Bytes

/-- Uppercase hexadecimal of a number below `16 ^ width`, padded to `width` digits. -/
def upperHexPadded : Nat → Nat → List Char
  | 0, _ => []
  | width + 1, n => upperHexPadded width (n / 16) ++ [Bytes.upperDigit (n % 16)]

end GameRealm
