import GameRealm.Json.Value

/-!
# Doubles from decimal literals

A literal is read into a 64-bit significand and a power of ten, and the two are
then combined in double arithmetic: one multiplication or a few divisions, each
rounded. Digits that no longer fit the significand are dropped; before the point
each of them raises the power by one.
-/

namespace GameRealm.Number

def maxSignificand : Nat := 0xFFFFFFFFFFFFFFFF

/-- Appends digits while they fit; the rest come back. -/
def collect : Nat → List Nat → Nat × List Nat
  | significand, [] => (significand, [])
  | significand, d :: ds =>
    if 10 * significand + d ≤ maxSignificand then collect (10 * significand + d) ds
    else (significand, d :: ds)

/-- Ten to a power up to 308, the nearest double. -/
def tenTo (power : Nat) : Float := Float.ofScientific 1 false power

/-- Divides by a power of ten in steps of at most 308. A quotient that has
become zero stays zero. -/
def shrink : Nat → Float → Nat → Float
  | 0, x, _ => x
  | fuel + 1, x, power =>
    if power ≤ 308 then x / tenTo power
    else if x == 0 then x
    else shrink fuel (x / tenTo 308) (power - 308)

/-- Significand times a power of ten, or `none` when it is too large. -/
def scaled? (significand : Nat) (power : Int) : Option Float :=
  let x := (UInt64.ofNat significand).toFloat
  if power < 0 then some (shrink 8 x power.natAbs)
  else if power.toNat ≤ 308 then
    let y := x * tenTo power.toNat
    if y.isInf then none else some y
  else if significand = 0 then some x
  else none

/-- The size of an exponent that no longer counts as a number. -/
def maxExponent : Nat := 0x7FFFFFFF

/-- The double that a literal is read as, or `none` when it is too large. -/
def toFloat? (n : Number) : Option Float :=
  let (significand, dropped) := collect 0 n.whole
  let (significand', left) := collect significand n.fraction
  let start : Int := dropped.length - ((n.fraction.length : Int) - left.length)
  let size : Option Float :=
    match n.exponent with
    | none => scaled? significand' start
    | some (negative, ds) =>
      let e := ofDigits ds
      if maxExponent < e then
        if significand' ≠ 0 ∧ negative = false then none else some 0
      else scaled? significand' (if negative then start - e else start + e)
  size.map fun x => if n.negative then -x else x

end GameRealm.Number
