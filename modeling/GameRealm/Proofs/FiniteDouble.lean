import Mathlib.Algebra.Group.Nat.Defs
import GameRealm.Binary64.Decimal

/-!
# Integers are finite doubles

A document that is buffered before it is read must hold nothing but numbers that a
double can hold. Every integer of up to 64 bits is one: it is rounded to a double and
multiplied by ten to the power of zero, and neither step comes near the largest double.

`Within` bounds a double in the shape that arithmetic works on. Rounding raises the
bounds by no more than the size of the significand (`within_roundWithAccuracy`), the bit
pattern keeps them (`within_unpack_pack`), and `toFloat?_ofNat` puts the two together.
-/

namespace GameRealm.Binary64

open Float.Model Float.Model.UnpackedFloat

/-- Zero, or a size of at most `bits` bits times a power of two of at most `top`. -/
def Within (bits : Nat) (top : Int) : UnpackedFloat → Prop
  | .zero _ => True
  | .finite _ mantissa exponent _ => mantissa < 2 ^ bits ∧ exponent ≤ top
  | _ => False

theorem not_isInf_of_within {bits : Nat} {top : Int} {x : UnpackedFloat}
    (h : Within bits top x) : x.isInf = false := by
  cases x with
  | infinity sign => exact h.elim
  | _ => rfl

theorem within_dite {bits : Nat} {top : Int} {c : Prop} [Decidable c] {x : c → UnpackedFloat}
    {y : ¬c → UnpackedFloat} (hx : ∀ h, Within bits top (x h)) (hy : ∀ h, Within bits top (y h)) :
    Within bits top (dite c x y) := by
  by_cases h : c
  · rw [dif_pos h]
    exact hx h
  · rw [dif_neg h]
    exact hy h

/-! ## Rounding -/

theorem shiftRight_mantissa_le (em : ExtendedMantissa) (n : Nat) :
    (em >>> n).mantissa ≤ em.mantissa := by
  induction n with
  | zero => exact Nat.le_refl _
  | succ n ih => exact Nat.le_trans (Nat.div_le_self _ 2) ih

theorem roundedMantissa_le (em : ExtendedMantissa) :
    em.roundedMantissa ≤ em.mantissa + 1 := by
  obtain ⟨mantissa, roundBit, stickyBit⟩ := em
  cases roundBit <;> cases stickyBit <;>
    simp [ExtendedMantissa.roundedMantissa, ExtendedMantissa.accuracy,
      Accuracy.roundToNearestEven]
  omega

theorem ofMantissaAndAccuracy_mantissa (mantissa : Nat) (accuracy : Accuracy) :
    (ExtendedMantissa.ofMantissaAndAccuracy mantissa accuracy).mantissa = mantissa := by
  rcases accuracy with _ | (_ | _ | _) <;> rfl

theorem log2_lt_of_lt {mantissa bits : Nat} (h : mantissa < 2 ^ bits) (some : 0 < bits) :
    mantissa.log2 < bits := by
  by_cases zero : mantissa = 0
  · simpa [zero] using some
  · exact (Nat.log2_lt zero).mpr h

/-- Moving a size to the exponent that it should have does not make it longer, and
raises the exponent by at most its length. -/
theorem shiftToTargetExponent_le {bits mantissa : Nat} {top exponent : Int}
    (accuracy : Accuracy) (some : 0 < bits) (room : -1074 ≤ top)
    (size : mantissa < 2 ^ bits) (power : exponent ≤ top) :
    (shiftToTargetExponent .binary64 mantissa exponent accuracy).1.mantissa ≤ mantissa ∧
      (shiftToTargetExponent .binary64 mantissa exponent accuracy).2 ≤ top + bits := by
  have log : mantissa.log2 < bits := log2_lt_of_lt size some
  have precision : Format.binary64.mantissaBits = 53 := rfl
  refine ⟨?_, ?_⟩
  · exact Nat.le_trans (shiftRight_mantissa_le _ _)
      (Nat.le_of_eq (ofMantissaAndAccuracy_mantissa mantissa accuracy))
  · simp only [shiftToTargetExponent, shiftToExponent, Format.targetExponent, totalExponent,
      Format.minExponent]
    omega

theorem within_roundWithAccuracy {bits mantissa : Nat} {top exponent : Int} (sign : Sign)
    (accuracy : Accuracy) (some : 0 < bits) (room : -1074 ≤ top)
    (size : mantissa < 2 ^ bits) (power : exponent ≤ top) :
    Within (bits + 1) (top + (2 * bits + 1))
      (roundWithAccuracy .binary64 sign mantissa exponent accuracy) := by
  obtain ⟨short, low⟩ := shiftToTargetExponent_le accuracy some room size power
  have rounded := roundedMantissa_le (shiftToTargetExponent .binary64 mantissa exponent accuracy).1
  rw [roundWithAccuracy]
  generalize shiftToTargetExponent .binary64 mantissa exponent accuracy = first at *
  obtain ⟨em, e⟩ := first
  dsimp only at short low rounded
  have size' : em.roundedMantissa < 2 ^ (bits + 1) := by
    have : 0 < 2 ^ bits := Nat.two_pow_pos bits
    omega
  have room' : -1074 ≤ top + bits := by omega
  obtain ⟨short', low'⟩ := shiftToTargetExponent_le .exact (Nat.succ_pos bits) room' size' low
  have top' : (shiftToTargetExponent .binary64 em.roundedMantissa e .exact).2 ≤
      top + (2 * bits + 1) := by
    push_cast at low'
    omega
  exact within_dite (fun _ => trivial) fun _ => ⟨Nat.lt_of_le_of_lt short' size', top'⟩

/-! ## The bit pattern -/

theorem within_unpack {top : Int} (room : -1074 ≤ top) (b : BitVec 64)
    (finite : (@unpackExponent .binary64 b).toNat + 1 < 2 ^ 11)
    (power : ((@unpackExponent .binary64 b).toNat : Int) - 1075 ≤ top) :
    Within 53 top (UnpackedFloat.unpack .binary64 b) := by
  have full : @unpackExponent .binary64 b ≠ -1#11 := by
    intro h
    rw [h] at finite
    exact absurd finite (by decide)
  have bias : Format.binary64.exponentBias = 1023 := rfl
  delta UnpackedFloat.unpack
  dsimp only
  rw [if_neg full]
  by_cases subnormal : @unpackExponent .binary64 b = 0#11
  · have zero : (@unpackExponent .binary64 b).toNat = 0 := by
      rw [subnormal]
      rfl
    rw [if_pos subnormal]
    exact within_dite (fun _ => trivial) fun _ =>
      ⟨Nat.lt_trans (@unpackMantissa .binary64 b).isLt (by decide), by omega⟩
  · rw [if_neg subnormal]
    exact ⟨(1#1 ++ @unpackMantissa .binary64 b).isLt, by omega⟩

theorem within_unpack_components {top : Int} (room : -1074 ≤ top) (sign : Sign) (field : Nat)
    (fraction : BitVec 52) (finite : field + 1 < 2 ^ 11) (power : (field : Int) - 1075 ≤ top) :
    Within 53 top (UnpackedFloat.unpack .binary64
      (packComponents .binary64 sign (BitVec.ofNat 11 field) fraction)) := by
  have value : (BitVec.ofNat 11 field).toNat = field := by
    rw [BitVec.toNat_ofNat, Nat.mod_eq_of_lt (by omega)]
  refine within_unpack room _ ?_ ?_ <;> rw [unpackExponent_packComponents, value]
  · exact finite
  · exact power

theorem within_unpack_pack {bits : Nat} {top : Int} {x : UnpackedFloat} (room : -1074 ≤ top)
    (limit : top ≤ 971) (h : Within bits top x) :
    Within 53 top (UnpackedFloat.unpack .binary64 (UnpackedFloat.pack .binary64 x)) := by
  cases x with
  | infinity sign => exact h.elim
  | notANumber => exact h.elim
  | zero sign => exact within_unpack_components room sign 0 0 (by decide) (by omega)
  | finite sign mantissa exponent positive =>
    obtain ⟨-, power⟩ := h
    have bias : Format.binary64.exponentBias = 1023 := rfl
    delta UnpackedFloat.pack
    dsimp only
    rw [if_neg (by omega)]
    split
    · exact within_unpack_components room sign _ _ (by omega) (by omega)
    · exact within_unpack_components room sign 0 _ (by decide) (by omega)

/-! ## Integers and their products -/

theorem within_ofNat {n : Nat} (h : n < 2 ^ 64) :
    Within 117 233 (UnpackedFloat.ofNat .binary64 n) := by
  rw [UnpackedFloat.ofNat, UnpackedFloat.ofInt, UnpackedFloat.normalize]
  split
  next negative => exact absurd (Int.compare_eq_lt.mp negative) (by omega)
  next zero => trivial
  next positive =>
    rw [UnpackedFloat.round]
    simp only [decreaseExponent]
    have precision : Format.binary64.mantissaBits = 53 := rfl
    have shift : (0 - Format.binary64.targetExponent (totalExponent n 0)).toNat ≤ 52 := by
      simp only [Format.targetExponent, totalExponent, Format.minExponent]
      omega
    have size : n <<< (0 - Format.binary64.targetExponent (totalExponent n 0)).toNat < 2 ^ 116 := by
      rw [Nat.shiftLeft_eq]
      calc n * 2 ^ _ ≤ n * 2 ^ 52 := Nat.mul_le_mul_left _ (Nat.pow_le_pow_right (by decide) shift)
        _ < 2 ^ 64 * 2 ^ 52 := by omega
        _ = 2 ^ 116 := by decide
    have power :
        0 - ((0 - Format.binary64.targetExponent (totalExponent n 0)).toNat : Int) ≤ 0 := by omega
    exact within_roundWithAccuracy .positive .exact (by decide) (by decide) size power

theorem within_mul {bits bits' : Nat} {top top' : Int} {x y : UnpackedFloat}
    (some : 0 < bits + bits') (room : -1074 ≤ top + top') (hx : Within bits top x)
    (hy : Within bits' top' y) :
    Within (bits + bits' + 1) (top + top' + (2 * (bits + bits' : Nat) + 1))
      (UnpackedFloat.mul .binary64 x y) := by
  cases x with
  | infinity sign => exact hx.elim
  | notANumber => exact hx.elim
  | zero sign =>
    cases y with
    | infinity sign => exact hy.elim
    | notANumber => exact hy.elim
    | zero sign => trivial
    | finite sign mantissa exponent positive => trivial
  | finite sign mantissa exponent positive =>
    cases y with
    | infinity sign => exact hy.elim
    | notANumber => exact hy.elim
    | zero sign => trivial
    | finite sign' mantissa' exponent' positive' =>
      have size : mantissa * mantissa' < 2 ^ (bits + bits') := by
        rw [Nat.pow_add]
        exact Nat.mul_lt_mul'' hx.1 hy.1
      exact within_roundWithAccuracy _ .exact some room size (Int.add_le_add hx.2 hy.2)

theorem toFloat_isInf (n : UInt64) : (n.toFloat * Number.tenTo 0).isInf = false := by
  have left : Within 53 233 n.toFloat.toModel.unpack :=
    within_unpack_pack (by decide) (by decide) (within_ofNat n.toNat_lt)
  have right : Within 53 0 (Number.tenTo 0).toModel.unpack := ⟨by decide, by decide⟩
  have product := within_mul (by decide) (by decide) left right
  exact not_isInf_of_within (within_unpack_pack (by decide) (by decide) product)

end GameRealm.Binary64
