import GameRealm.Json.Value
import GameRealm.Text.Utf8

/-!
# Printing JSON

The compact form: no blanks, members in order, and in strings only what must be
escaped. Printing yields characters; `encode` yields the bytes of a frame.
-/

namespace GameRealm.Json

/-- The two-character escape of a control character that has one. -/
def shortEscape? (c : Char) : Option Char :=
  if c = Char.ofNat 8 then some 'b'
  else if c = Char.ofNat 9 then some 't'
  else if c = Char.ofNat 10 then some 'n'
  else if c = Char.ofNat 12 then some 'f'
  else if c = Char.ofNat 13 then some 'r'
  else none

/-- One character of a string literal. Quote, backslash and the controls below
a blank are escaped; everything else stands for itself. -/
def escape (c : Char) : List Char :=
  if c = '"' ∨ c = '\\' then ['\\', c]
  else match shortEscape? c with
    | some letter => ['\\', letter]
    | none =>
      if c.toNat < 32 then
        '\\' :: 'u' :: '0' :: '0' :: Bytes.pair Bytes.lowerDigit (UInt8.ofNat c.toNat)
      else [c]

def quote (text : String) : List Char :=
  '"' :: text.toList.flatMap escape ++ ['"']

def digitChars (ds : List Nat) : List Char := ds.map fun d => Char.ofNat (48 + d)

def printNumber (n : Number) : List Char :=
  (if n.negative then ['-'] else []) ++ digitChars n.whole
    ++ (if n.fraction = [] then [] else '.' :: digitChars n.fraction)
    ++ match n.exponent with
      | none => []
      | some (negative, ds) => 'e' :: (if negative then ['-'] else []) ++ digitChars ds

mutual
/-- The compact form of a document. A literal that is not text prints as the
empty string. -/
def print : Json → List Char
  | .null => ['n', 'u', 'l', 'l']
  | .bool true => ['t', 'r', 'u', 'e']
  | .bool false => ['f', 'a', 'l', 's', 'e']
  | .number n => printNumber n
  | .text value => quote (value.getD "")
  | .array items => '[' :: printItems items ++ [']']
  | .object members => '{' :: printMembers members ++ ['}']

def printItems : List Json → List Char
  | [] => []
  | [item] => print item
  | item :: rest => print item ++ ',' :: printItems rest

def printMembers : List (Option String × Json) → List Char
  | [] => []
  | [(name, value)] => quote (name.getD "") ++ ':' :: print value
  | (name, value) :: rest =>
    quote (name.getD "") ++ ':' :: print value ++ ',' :: printMembers rest
end

/-- The compact form as a text. -/
def render (json : Json) : String := String.ofList json.print

/-- The compact form as the bytes of a frame. -/
def encode (json : Json) : Bytes := json.print.flatMap String.utf8EncodeChar

end GameRealm.Json
