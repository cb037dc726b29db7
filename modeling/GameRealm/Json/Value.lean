/-!
# JSON documents

The tree of a document. A number is kept as it is written, because whether it
is an integer, and which float it is near, depends on how it is asked for. A
string literal need not be text: an escape may name half of a surrogate pair,
and raw bytes may not be UTF-8. Such a literal is harmless where nobody asks
for it, so the tree holds it as a text that is absent.
-/

namespace GameRealm

/-- A number literal: sign, digits before and after the point, exponent. -/
structure Number where
  negative : Bool := false
  whole : List Nat
  fraction : List Nat := []
  /-- Whether the exponent is negative, and its digits. -/
  exponent : Option (Bool × List Nat) := none
  deriving DecidableEq, Repr, Inhabited

namespace Number

/-- The digits of a number, most significant first, given enough fuel. -/
def digitsWithin : Nat → Nat → List Nat
  | 0, n => [n % 10]
  | fuel + 1, n => if n < 10 then [n] else digitsWithin fuel (n / 10) ++ [n % 10]

def digits (n : Nat) : List Nat := digitsWithin n n

def ofDigits (ds : List Nat) : Nat := ds.foldl (fun n d => 10 * n + d) 0

def ofNat (n : Nat) : Number := { whole := digits n }

def ofInt : Int → Number
  | .ofNat n => ofNat n
  | .negSucc n => { ofNat (n + 1) with negative := true }

/-- The value of a literal without sign, point and exponent. -/
def natural? (n : Number) : Option Nat :=
  if n.negative = false ∧ n.fraction = [] ∧ n.exponent = none then some (ofDigits n.whole)
  else none

/-- The value of a literal without point and exponent. -/
def integer? (n : Number) : Option Int :=
  if n.fraction = [] ∧ n.exponent = none then
    let value : Int := ofDigits n.whole
    some (if n.negative then -value else value)
  else none

end Number

inductive Json where
  | null
  | bool (value : Bool)
  | number (value : Number)
  /-- A string literal, `none` when it is not Unicode text. -/
  | text (value : Option String)
  | array (items : List Json)
  | object (members : List (Option String × Json))
  deriving Repr, Inhabited

namespace Json

def str (value : String) : Json := .text (some value)

def nat (value : Nat) : Json := .number (.ofNat value)

def int (value : Int) : Json := .number (.ofInt value)

/-- An object with the given members, in order. -/
def obj (members : List (String × Json)) : Json :=
  .object (members.map fun (name, value) => (some name, value))

/-- The value or `null`. -/
def opt (encode : α → Json) : Option α → Json
  | none => .null
  | some value => encode value

def list (encode : α → Json) (items : List α) : Json := .array (items.map encode)

end Json

end GameRealm
