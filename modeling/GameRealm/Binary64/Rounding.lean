/-!
# Doubles as exact fractions

A finite double is a whole number times a power of two. This module takes it
apart from its bits and rounds exact multiples of it to whole numbers, so that
a duration or a decimal place is decided in exact arithmetic.
-/

namespace GameRealm.Binary64

/-- The sign, and the whole number and power of two whose product is the size. -/
structure Parts where
  negative : Bool
  significand : Nat
  /-- The exponent of two. -/
  exponent : Int
  deriving DecidableEq, Repr

/-- Takes a bit pattern apart. Infinities and NaN are not told apart from large
numbers; callers ask only about finite doubles. -/
def Parts.ofBits (bits : Nat) : Parts :=
  let field : Nat := (bits >>> 52) % 0x800
  let fraction : Nat := bits % (1 <<< 52)
  { negative := (bits >>> 63) % 2 = 1
    significand := if field = 0 then fraction else (1 <<< 52) + fraction
    exponent := (if field = 0 then 1 else (field : Int)) - 1075 }

/-- The whole number nearest to `num / den`, the even one when two are as near. -/
def divToEven (num den : Nat) : Nat :=
  let q := num / den
  let r := num % den
  if 2 * r < den then q
  else if den < 2 * r then q + 1
  else if q % 2 = 0 then q else q + 1

/-- The whole number nearest to `scale` times the size of a double. -/
def roundTimes (scale : Nat) (x : Float) : Nat :=
  let parts := Parts.ofBits x.toBits.toNat
  if 0 ≤ parts.exponent then (scale * parts.significand) <<< parts.exponent.toNat
  else divToEven (scale * parts.significand) (1 <<< (-parts.exponent).toNat)

/-- The whole number nearest to a finite double, a half going away from zero. -/
def nearest (x : Float) : Int :=
  let parts := Parts.ofBits x.toBits.toNat
  let size :=
    if 0 ≤ parts.exponent then parts.significand <<< parts.exponent.toNat
    else
      let unit := 1 <<< (-parts.exponent).toNat
      (2 * parts.significand + unit) / (2 * unit)
  if parts.negative then -size else size

def oneDecimal (x : Float) : String :=
  let tenths := roundTimes 10 x
  toString (tenths / 10) ++ "." ++ toString (tenths % 10)

end GameRealm.Binary64
