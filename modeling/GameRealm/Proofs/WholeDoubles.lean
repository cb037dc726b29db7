import GameRealm.Binary64.Rounding
import Mathlib

/-!
# Whole numbers as doubles

Whole numbers of up to 53 bits are doubles, and as long as no number in it gets longer,
arithmetic with them is exact. This module proves it on the model of doubles, as far as a mean of
equal numbers needs it:

1. `unpackedWhole` is the shape that a whole number takes as a double, with the significand
   filled up by zeros; `roundWithAccuracy_whole` and `normalize_whole` say that whatever stands
   for a whole number is rounded to that shape, and `unpack_pack_whole` that its bit pattern
   keeps it;
2. `whole` is the double; `ofInt_eq_whole`, `whole_add`, `whole_sub_self`, `whole_div` are exact;
3. `nearest_whole`: rounding it gives the number back.
-/

namespace GameRealm.Binary64

open Float.Model Float.Model.UnpackedFloat

/-! ## The shape of a whole number -/

/-- The number of places that a size leaves free in a significand of 53 bits. -/
def spare (size : Nat) : Nat := 52 - size.log2

/-- The sign of a whole number; zero is positive. -/
def signOf (n : Int) : Sign := if n < 0 then .negative else .positive

/-- A whole number with its significand filled up. -/
def unpackedWhole (n : Int) : UnpackedFloat :=
  if h : n = 0 then .zero .positive
  else
    .finite (signOf n) (n.natAbs * 2 ^ spare n.natAbs) (-(spare n.natAbs : Int))
      (Nat.mul_pos (Int.natAbs_pos.mpr h) (Nat.two_pow_pos _))

section
variable {size : Nat}

theorem log2_mul_two_pow (positive : 0 < size) (places : Nat) :
    (size * 2 ^ places).log2 = size.log2 + places := by
  have nonzero : size ≠ 0 := Nat.ne_of_gt positive
  have some : 0 < 2 ^ places := Nat.two_pow_pos places
  rw [Nat.log2_eq_iff (Nat.ne_of_gt (Nat.mul_pos positive some)), Nat.pow_add, Nat.add_right_comm,
    Nat.pow_add]
  exact ⟨Nat.mul_le_mul_right _ (Nat.log2_self_le nonzero),
    Nat.mul_lt_mul_of_pos_right Nat.lt_log2_self some⟩

theorem log2_le (positive : 0 < size) (short : size < 2 ^ 53) : size.log2 ≤ 52 :=
  Nat.le_of_lt_succ ((Nat.log2_lt (Nat.ne_of_gt positive)).mpr short)

theorem log2_filled (positive : 0 < size) (short : size < 2 ^ 53) :
    (size * 2 ^ spare size).log2 = 52 := by
  rw [log2_mul_two_pow positive, spare]
  exact Nat.add_sub_cancel' (log2_le positive short)

/-- A significand has 53 bits, or fewer at the least exponent. -/
theorem targetExponent_eq (total : Int) :
    Format.binary64.targetExponent total = max (total - 53) (-1074) := rfl

/-- Whatever the places by which it was moved, a size has one exponent to go to. -/
theorem targetExponent_whole (positive : 0 < size) (short : size < 2 ^ 53) (places : Nat) :
    Format.binary64.targetExponent (totalExponent (size * 2 ^ places) (-(places : Int))) =
      -(spare size : Int) := by
  have log := log2_le positive short
  rw [targetExponent_eq, totalExponent, log2_mul_two_pow positive, spare]
  omega

/-! ## Rounding -/

/-- Zeros that are shifted out leave no trace. -/
theorem shiftRight_exact (size places : Nat) :
    (⟨size * 2 ^ places, false, false⟩ : ExtendedMantissa) >>> places = ⟨size, false, false⟩ := by
  change Nat.repeat ExtendedMantissa.shiftRightOne places _ = _
  induction places generalizing size with
  | zero => rw [Nat.pow_zero, Nat.mul_one, Nat.repeat]
  | succ places ih =>
    have moved : size * 2 ^ (places + 1) = size * 2 * 2 ^ places := by ring
    rw [Nat.repeat, moved, ih, ExtendedMantissa.shiftRightOne]
    simp

theorem shiftToTargetExponent_whole (positive : 0 < size) (short : size < 2 ^ 53) {places : Nat}
    (enough : spare size ≤ places) :
    shiftToTargetExponent .binary64 (size * 2 ^ places) (-(places : Int)) .exact =
      (⟨size * 2 ^ spare size, false, false⟩, -(spare size : Int)) := by
  have amount : (-(spare size : Int) - -(places : Int)).toNat = places - spare size := by omega
  have split : size * 2 ^ places = size * 2 ^ spare size * 2 ^ (places - spare size) := by
    rw [Nat.mul_assoc, ← Nat.pow_add, Nat.add_sub_cancel' enough]
  rw [shiftToTargetExponent, targetExponent_whole positive short, shiftToExponent]
  rw [amount, ExtendedMantissa.ofMantissaAndAccuracy, split, shiftRight_exact]
  exact Prod.ext rfl (by dsimp only; omega)

/-- A size with places enough is rounded to its shape. -/
theorem roundWithAccuracy_whole (sign : Sign) (positive : 0 < size) (short : size < 2 ^ 53)
    {places : Nat} (enough : spare size ≤ places) :
    roundWithAccuracy .binary64 sign (size * 2 ^ places) (-(places : Int)) .exact =
      .finite sign (size * 2 ^ spare size) (-(spare size : Int))
        (Nat.mul_pos positive (Nat.two_pow_pos _)) := by
  have filled : size * 2 ^ spare size ≠ 0 :=
    Nat.ne_of_gt (Nat.mul_pos positive (Nat.two_pow_pos _))
  have first := shiftToTargetExponent_whole positive short enough
  have second := shiftToTargetExponent_whole positive short (Nat.le_refl (spare size))
  rw [roundWithAccuracy, first]
  dsimp only [ExtendedMantissa.roundedMantissa, ExtendedMantissa.accuracy,
    Accuracy.roundToNearestEven]
  rw [second]
  exact dif_neg filled

theorem round_whole (sign : Sign) (positive : 0 < size) (short : size < 2 ^ 53) (places : Nat) :
    UnpackedFloat.round .binary64 sign (size * 2 ^ places) (-(places : Int)) =
      .finite sign (size * 2 ^ spare size) (-(spare size : Int))
        (Nat.mul_pos positive (Nat.two_pow_pos _)) := by
  let missing := spare size - places
  have amount : (-(places : Int) - -(spare size : Int)).toNat = missing := by omega
  have moved : (size * 2 ^ places) <<< missing = size * 2 ^ (places + missing) := by
    rw [Nat.shiftLeft_eq, Nat.mul_assoc, ← Nat.pow_add]
  have exponent : -(places : Int) - (missing : Int) = -((places + missing : Nat) : Int) := by omega
  rw [UnpackedFloat.round, targetExponent_whole positive short]
  simp only [decreaseExponent]
  rw [amount, moved, exponent]
  exact roundWithAccuracy_whole sign positive short (by omega)

end

theorem normalize_whole {n : Int} (short : n.natAbs < 2 ^ 53) (places : Nat) :
    UnpackedFloat.normalize .binary64 (n * 2 ^ places) (-(places : Int)) .positive =
      unpackedWhole n := by
  have power : (0 : Int) < 2 ^ places := Int.pow_pos (by decide)
  have size : (n * 2 ^ places).natAbs = n.natAbs * 2 ^ places := by
    rw [Int.natAbs_mul, Int.natAbs_pow]
    rfl
  -- The sign splits off, and the size is rounded by itself.
  rw [UnpackedFloat.normalize, unpackedWhole]
  split
  next negative =>
    have less : n * 2 ^ places < 0 := Int.compare_eq_lt.mp negative
    have below : n < 0 := by
      by_contra above
      have product := Int.mul_nonneg (Int.not_lt.mp above) (Int.le_of_lt power)
      omega
    have positive : 0 < n.natAbs := by omega
    have magnitude : (-(n * 2 ^ places)).toNat = n.natAbs * 2 ^ places := by
      rw [← size]
      omega
    rw [dif_neg (Int.ne_of_lt below), signOf, if_pos below, magnitude]
    exact round_whole .negative positive short places
  next zero =>
    have none : n = 0 :=
      (Int.mul_eq_zero.mp (Int.compare_eq_eq.mp zero)).resolve_right (Int.ne_of_gt power)
    rw [dif_pos none]
  next positive =>
    have more : 0 < n * 2 ^ places := Int.compare_eq_gt.mp positive
    have above : 0 < n := by
      by_contra below
      have product := Int.mul_le_mul_of_nonneg_right (Int.not_lt.mp below) (Int.le_of_lt power)
      omega
    have positive : 0 < n.natAbs := by omega
    have magnitude : (n * 2 ^ places).toNat = n.natAbs * 2 ^ places := by
      rw [← size]
      omega
    rw [dif_neg (Int.ne_of_gt above), signOf, if_neg (by omega), magnitude]
    exact round_whole .positive positive short places

/-! ## The bit pattern -/

theorem unpackSign_packComponents {spec : Format} {sign : Sign} {exponent mantissa} :
    unpackSign (packComponents spec sign exponent mantissa) = sign.toBitVec := by
  ext i bound
  obtain rfl : i = 0 := Nat.lt_one_iff.mp bound
  simp [unpackSign, packComponents, BitVec.getLsbD_append, BitVec.getElem_append]

theorem ofBitVec_toBitVec (sign : Sign) : Sign.ofBitVec sign.toBitVec = sign := by
  cases sign <;> rfl

theorem unpack_normal (b : BitVec 64) (some : 0 < (@unpackExponent .binary64 b).toNat)
    (finite : (@unpackExponent .binary64 b).toNat < 2047) :
    UnpackedFloat.unpack .binary64 b =
      .finite (Sign.ofBitVec (@unpackSign .binary64 b))
        (2 ^ 52 + (@unpackMantissa .binary64 b).toNat)
        ((@unpackExponent .binary64 b).toNat - 1075) (by omega) := by
  have full : @unpackExponent .binary64 b ≠ -1#11 := by
    intro h
    rw [h] at finite
    exact absurd finite (by decide)
  have empty : @unpackExponent .binary64 b ≠ 0#11 := by
    intro h
    rw [h] at some
    exact absurd some (by decide)
  have leading : (1#1 ++ @unpackMantissa .binary64 b).toNat =
      2 ^ 52 + (@unpackMantissa .binary64 b).toNat := by
    change 2 ^ 52 ||| (@unpackMantissa .binary64 b).toNat = _
    rw [Nat.or_comm, Nat.or_two_pow_eq_add_of_lt (@unpackMantissa .binary64 b).isLt, Nat.add_comm]
  delta UnpackedFloat.unpack
  dsimp only
  rw [if_neg full, if_neg empty, UnpackedFloat.finite.injEq]
  exact ⟨rfl, leading, rfl⟩

theorem pack_normal (sign : Sign) {mantissa : Nat} {exponent : Int} (positive : 0 < mantissa)
    (full : mantissa.log2 = 52) (high : exponent < 971) :
    UnpackedFloat.pack .binary64 (.finite sign mantissa exponent positive) =
      packComponents .binary64 sign (BitVec.ofNat 11 (exponent + 1075).toNat)
        (BitVec.ofNat 52 mantissa) := by
  have bias : Format.binary64.exponentBias = 1023 := rfl
  have precision : Format.binary64.mantissaBits = 53 := rfl
  have field : exponent + (1023 : Nat) + (52 : Nat) = exponent + 1075 := by omega
  delta UnpackedFloat.pack
  dsimp only
  rw [bias, precision, full, field, if_neg (by omega), if_pos rfl]

/-- A significand of 53 bits is all that is packed, and all that is unpacked. -/
theorem unpack_pack_normal (sign : Sign) {mantissa : Nat} {exponent : Int} (positive : 0 < mantissa)
    (full : mantissa.log2 = 52) (low : -1075 < exponent) (high : exponent < 971) :
    UnpackedFloat.unpack .binary64
        (UnpackedFloat.pack .binary64 (.finite sign mantissa exponent positive)) =
      .finite sign mantissa exponent positive := by
  obtain ⟨filled, short⟩ := (Nat.log2_eq_iff (Nat.ne_of_gt positive)).mp full
  have value : (BitVec.ofNat 11 (exponent + 1075).toNat).toNat = (exponent + 1075).toNat := by
    rw [BitVec.toNat_ofNat, Nat.mod_eq_of_lt (by omega)]
  have size : (BitVec.ofNat 52 mantissa).toNat = mantissa % 2 ^ 52 := BitVec.toNat_ofNat ..
  rw [pack_normal sign positive full high]
  have field : (@unpackExponent .binary64 (packComponents .binary64 sign
      (BitVec.ofNat 11 (exponent + 1075).toNat) (BitVec.ofNat 52 mantissa))).toNat =
        (exponent + 1075).toNat := by
    rw [unpackExponent_packComponents, value]
  rw [unpack_normal _ (by omega) (by omega), UnpackedFloat.finite.injEq, field,
    unpackMantissa_packComponents, unpackSign_packComponents, size, ofBitVec_toBitVec]
  exact ⟨rfl, by omega, by omega⟩

theorem unpack_pack_whole {n : Int} (short : n.natAbs < 2 ^ 53) :
    UnpackedFloat.unpack .binary64 (UnpackedFloat.pack .binary64 (unpackedWhole n)) =
      unpackedWhole n := by
  unfold unpackedWhole
  split
  · rfl
  · next nonzero =>
    have positive : 0 < n.natAbs := Int.natAbs_pos.mpr nonzero
    have few : spare n.natAbs ≤ 52 := Nat.sub_le _ _
    exact unpack_pack_normal _ _ (log2_filled positive short) (by omega) (by omega)

/-! ## Exact arithmetic -/

/-- A whole number as a double. -/
def whole (n : Int) : Float := .ofModel (.pack (unpackedWhole n))

theorem unpack_whole {n : Int} (short : n.natAbs < 2 ^ 53) :
    (whole n).toModel.unpack = unpackedWhole n :=
  unpack_pack_whole short

section
variable {n : Int}

theorem unpackedWhole_of_ne_zero (nonzero : n ≠ 0) :
    unpackedWhole n =
      .finite (signOf n) (n.natAbs * 2 ^ spare n.natAbs) (-(spare n.natAbs : Int))
        (Nat.mul_pos (Int.natAbs_pos.mpr nonzero) (Nat.two_pow_pos _)) :=
  dif_neg nonzero

theorem apply_signOf (n : Int) (places : Nat) :
    (signOf n).apply (n.natAbs * 2 ^ places : Nat) = n * 2 ^ places := by
  rw [Int.natCast_mul, Int.natCast_pow]
  unfold signOf
  split
  · next below =>
    rw [Sign.apply, Int.ofNat_natAbs_of_nonpos (Int.le_of_lt below), Int.neg_mul, Int.neg_neg]
    rfl
  · next above =>
    rw [Sign.apply, Int.natAbs_of_nonneg (Int.not_lt.mp above)]
    rfl

theorem decreaseExponent_whole (size : Nat) {moved places : Nat} (fewer : moved ≤ places) :
    decreaseExponent (size * 2 ^ moved) (-(moved : Int)) (-(places : Int)) =
      (size * 2 ^ places, -(places : Int)) := by
  have amount : (-(moved : Int) - -(places : Int)).toNat = places - moved := by omega
  rw [decreaseExponent, amount, Nat.shiftLeft_eq, Nat.mul_assoc, ← Nat.pow_add,
    Nat.add_sub_cancel' fewer]
  exact Prod.ext rfl (by dsimp only; omega)

theorem ofInt_whole (short : n.natAbs < 2 ^ 53) :
    UnpackedFloat.ofInt .binary64 n = unpackedWhole n := by
  have rounded := normalize_whole short 0
  rwa [Int.pow_zero, Int.mul_one] at rounded

theorem add_whole {a b : Int} (short : (a + b).natAbs < 2 ^ 53) :
    UnpackedFloat.add .binary64 (unpackedWhole a) (unpackedWhole b) = unpackedWhole (a + b) := by
  by_cases left : a = 0
  · subst left
    rw [Int.zero_add]
    by_cases right : b = 0
    · subst right
      rfl
    · rw [unpackedWhole_of_ne_zero right]
      rfl
  by_cases right : b = 0
  · subst right
    rw [Int.add_zero, unpackedWhole_of_ne_zero left]
    rfl
  -- Both are moved to the lower one of their exponents, where they add up.
  obtain ⟨places, both⟩ : ∃ places, places = max (spare a.natAbs) (spare b.natAbs) := ⟨_, rfl⟩
  have lower : min (-(spare a.natAbs : Int)) (-(spare b.natAbs : Int)) = -(places : Int) := by
    omega
  have first : spare a.natAbs ≤ places := by omega
  have second : spare b.natAbs ≤ places := by omega
  rw [unpackedWhole_of_ne_zero left, unpackedWhole_of_ne_zero right, UnpackedFloat.add]
  simp only [lower, decreaseExponent_whole _ first, decreaseExponent_whole _ second]
  rw [apply_signOf, apply_signOf, ← Int.add_mul]
  exact normalize_whole short places

theorem sub_self_whole (n : Int) :
    UnpackedFloat.sub .binary64 (unpackedWhole n) (unpackedWhole n) = unpackedWhole 0 := by
  by_cases zero : n = 0
  · subst zero
    rfl
  · rw [unpackedWhole_of_ne_zero zero, UnpackedFloat.sub]
    simp only [Int.sub_self]
    rfl

theorem neg_whole (nonzero : n ≠ 0) : (unpackedWhole n).neg = unpackedWhole (-n) := by
  have sign : -signOf n = signOf (-n) := by
    unfold signOf
    by_cases below : n < 0
    · rw [if_pos below, if_neg (by omega)]
      rfl
    · rw [if_neg below, if_pos (by omega)]
      rfl
  rw [unpackedWhole_of_ne_zero nonzero, unpackedWhole_of_ne_zero (by omega), UnpackedFloat.neg,
    UnpackedFloat.finite.injEq, Int.natAbs_neg]
  exact ⟨sign, rfl, rfl⟩

theorem log2_mul {a b : Nat} (left : 0 < a) (right : 0 < b) :
    a.log2 + b.log2 ≤ (a * b).log2 ∧ (a * b).log2 ≤ a.log2 + b.log2 + 1 := by
  have nonzero : a * b ≠ 0 := Nat.ne_of_gt (Nat.mul_pos left right)
  constructor
  · rw [Nat.le_log2 nonzero, Nat.pow_add]
    exact Nat.mul_le_mul (Nat.log2_self_le (Nat.ne_of_gt left))
      (Nat.log2_self_le (Nat.ne_of_gt right))
  · refine Nat.le_of_lt_succ ((Nat.log2_lt nonzero).mpr ?_)
    have split : a.log2 + b.log2 + 1 + 1 = (a.log2 + 1) + (b.log2 + 1) := by omega
    rw [Nat.succ_eq_add_one, split, Nat.pow_add]
    exact Nat.mul_lt_mul'' Nat.lt_log2_self Nat.lt_log2_self

theorem unpackedWhole_natCast {size : Nat} (positive : 0 < size) :
    unpackedWhole size =
      .finite .positive (size * 2 ^ spare size) (-(spare size : Int))
        (Nat.mul_pos positive (Nat.two_pow_pos _)) :=
  dif_neg (Int.ofNat_ne_zero.mpr (Nat.ne_of_gt positive))

theorem mul_whole {a b : Nat} (short : a * b < 2 ^ 53) :
    UnpackedFloat.mul .binary64 (unpackedWhole a) (unpackedWhole b) =
      unpackedWhole (a * b : Nat) := by
  rcases Nat.eq_zero_or_pos a with rfl | left
  · rw [Nat.zero_mul]
    rcases Nat.eq_zero_or_pos b with rfl | right
    · rfl
    · rw [unpackedWhole_natCast right]
      rfl
  rcases Nat.eq_zero_or_pos b with rfl | right
  · rw [Nat.mul_zero, unpackedWhole_natCast left]
    rfl
  have positive : 0 < a * b := Nat.mul_pos left right
  have product : a * 2 ^ spare a * (b * 2 ^ spare b) = a * b * 2 ^ (spare a + spare b) := by ring
  have exponent : -(spare a : Int) + -(spare b : Int) = -((spare a + spare b : Nat) : Int) := by
    omega
  have longer := (log2_mul left right).1
  rw [unpackedWhole_natCast left, unpackedWhole_natCast right, unpackedWhole_natCast positive,
    UnpackedFloat.mul, product, exponent]
  exact roundWithAccuracy_whole _ positive short (by unfold spare; omega)

/-- The quotient of shapes is divided out with places enough to spare. -/
theorem divCore_whole {size count : Nat} (positive : 0 < size) (some : 0 < count)
    (short : count * size < 2 ^ 53) :
    ∃ places, spare size ≤ places ∧
      divCore .binary64 (count * size * 2 ^ spare (count * size)) (-(spare (count * size) : Int))
        (count * 2 ^ spare count) (-(spare count : Int)) =
          (size * 2 ^ places, -(places : Int), .exact) := by
  have product : 0 < count * size := Nat.mul_pos some positive
  have divisor : count < 2 ^ 53 := Nat.lt_of_le_of_lt (Nat.le_mul_of_pos_right count positive) short
  obtain ⟨-, longer⟩ := log2_mul some positive
  have log := log2_le some divisor
  have log' := log2_le product short
  have few : spare count ≤ 52 := Nat.sub_le _ _
  have few' : spare (count * size) ≤ 52 := Nat.sub_le _ _
  let places := 53 + spare (count * size) - spare count
  refine ⟨places, by unfold places spare; omega, ?_⟩
  -- The exponent of the quotient is brought down by 53 places, which is where the size goes.
  have target : min (-(spare (count * size) : Int) - -(spare count : Int))
      (Format.binary64.targetExponent
        (totalExponent (count * size * 2 ^ spare (count * size)) (-(spare (count * size) : Int)) -
          totalExponent (count * 2 ^ spare count) (-(spare count : Int)))) = -(places : Int) := by
    rw [targetExponent_eq, totalExponent, totalExponent, log2_filled product short,
      log2_filled some divisor]
    omega
  have amount : (-(spare (count * size) : Int) - -(spare count : Int) - -(places : Int)).toNat =
      53 := by omega
  have moved : (count * size * 2 ^ spare (count * size)) <<< 53 =
      size * 2 ^ places * (count * 2 ^ spare count) := by
    have powers : 2 ^ spare (count * size) * 2 ^ 53 = 2 ^ places * 2 ^ spare count := by
      rw [← Nat.pow_add, ← Nat.pow_add]
      congr 1
      omega
    rw [Nat.shiftLeft_eq, Nat.mul_assoc, powers]
    ring
  have divisorPositive : 0 < count * 2 ^ spare count := Nat.mul_pos some (Nat.two_pow_pos _)
  rw [divCore, target, amount, moved]
  rw [Nat.mul_div_cancel _ divisorPositive, Nat.mul_mod_left]
  rfl

theorem div_whole {x : Int} {count : Nat} (some : 0 < count)
    (short : (count * x).natAbs < 2 ^ 53) :
    UnpackedFloat.div .binary64 (unpackedWhole (count * x)) (unpackedWhole count) =
      unpackedWhole x := by
  by_cases zero : x = 0
  · subst zero
    rw [Int.mul_zero, unpackedWhole_natCast some]
    rfl
  have positive : 0 < x.natAbs := Int.natAbs_pos.mpr zero
  have size : (count * x).natAbs = count * x.natAbs := Int.natAbs_mul ..
  have nonzero : (count * x : Int) ≠ 0 :=
    Int.mul_ne_zero (Int.ofNat_ne_zero.mpr (Nat.ne_of_gt some)) zero
  have sign : signOf (count * x) / .positive = signOf x := by
    have above : (0 : Int) < count := Int.natCast_pos.mpr some
    have same : count * x < 0 ↔ x < 0 :=
      ⟨fun below => Int.not_le.mp fun up => Int.not_le.mpr below (Int.mul_nonneg above.le up),
        Int.mul_neg_of_pos_of_neg above⟩
    unfold signOf
    by_cases below : x < 0
    · rw [if_pos below, if_pos (same.mpr below)]
      rfl
    · rw [if_neg below, if_neg (mt same.mp below)]
      rfl
  rw [size] at short
  -- The quotient comes with zeros behind it, which rounding takes off again.
  obtain ⟨places, enough, divided⟩ := divCore_whole positive some short
  have shorter : x.natAbs < 2 ^ 53 :=
    Nat.lt_of_le_of_lt (Nat.le_mul_of_pos_left _ some) short
  rw [unpackedWhole_of_ne_zero nonzero, unpackedWhole_natCast some, unpackedWhole_of_ne_zero zero,
    UnpackedFloat.div]
  simp only [size, divided, sign]
  exact roundWithAccuracy_whole _ positive shorter enough

/-! ## Doubles -/

theorem one_eq_whole : Float.exactlyRepresentablePowersOfTen[0] = whole 1 := by decide +kernel

theorem toFloat_eq_whole {m : UInt64} (short : m.toNat < 2 ^ 53) : m.toFloat = whole m.toNat :=
  congrArg (fun x => Float.ofModel (.pack x)) (ofInt_whole short)

theorem whole_mul {a b : Nat} (first : a < 2 ^ 53) (second : b < 2 ^ 53) (short : a * b < 2 ^ 53) :
    whole a * whole b = whole (a * b : Nat) := by
  have left : (whole a).toModel.unpack = unpackedWhole a := unpack_whole first
  have right : (whole b).toModel.unpack = unpackedWhole b := unpack_whole second
  change Float.ofModel (.pack (UnpackedFloat.mul _ _ _)) = _
  rw [left, right, mul_whole short]
  rfl

theorem ofNat_eq_whole {size : Nat} (short : size < 2 ^ 53) : Float.ofNat size = whole size := by
  have word : size.toUInt64.toNat = size :=
    UInt64.toNat_ofNat_of_lt (Nat.lt_trans short (by decide))
  have literal : Float.ofNat size =
      size.toUInt64.toFloat * Float.exactlyRepresentablePowersOfTen[0] :=
    dif_pos ⟨short, by decide⟩
  have factor : whole size * whole 1 = whole (size * 1 : Nat) :=
    whole_mul short (by decide) (by rwa [Nat.mul_one])
  rw [literal, one_eq_whole, toFloat_eq_whole (by rwa [word]), word, factor, Nat.mul_one]

theorem ofInt_eq_whole (short : n.natAbs < 2 ^ 53) : Float.ofInt n = whole n := by
  cases n with
  | ofNat size => exact ofNat_eq_whole short
  | negSucc size =>
    have magnitude : size.succ < 2 ^ 53 := short
    have positive : (whole (size.succ : Nat)).toModel.unpack = unpackedWhole (size.succ : Nat) :=
      unpack_whole short
    have nonzero : ((size.succ : Nat) : Int) ≠ 0 := Int.ofNat_ne_zero.mpr (Nat.succ_ne_zero size)
    change Float.neg (Float.ofNat size.succ) = _
    rw [ofNat_eq_whole magnitude]
    change Float.ofModel (.pack (UnpackedFloat.neg _)) = _
    rw [positive, neg_whole nonzero]
    rfl

theorem whole_add {a b : Int} (first : a.natAbs < 2 ^ 53) (second : b.natAbs < 2 ^ 53)
    (short : (a + b).natAbs < 2 ^ 53) : whole a + whole b = whole (a + b) := by
  change Float.ofModel (.pack (UnpackedFloat.add _ _ _)) = _
  rw [unpack_whole first, unpack_whole second, add_whole short]
  rfl

theorem whole_sub_self (short : n.natAbs < 2 ^ 53) : whole n - whole n = whole 0 := by
  change Float.ofModel (.pack (UnpackedFloat.sub _ _ _)) = _
  rw [unpack_whole short, sub_self_whole]
  rfl

theorem whole_div {count : Nat} (some : 0 < count) (few : count < 2 ^ 53)
    (short : (count * n).natAbs < 2 ^ 53) : whole (count * n) / whole count = whole n := by
  have divisor : (whole count).toModel.unpack = unpackedWhole count := unpack_whole few
  change Float.ofModel (.pack (UnpackedFloat.div _ _ _)) = _
  rw [unpack_whole short, divisor, div_whole some short]
  rfl

/-! ## Rounding to a whole number -/

theorem toNat_packComponents (sign : Sign) (exponent : BitVec 11) (mantissa : BitVec 52) :
    (packComponents .binary64 sign exponent mantissa).toNat =
      sign.toBitVec.toNat * 2 ^ 63 + exponent.toNat * 2 ^ 52 + mantissa.toNat := by
  have head : (sign.toBitVec ++ exponent).toNat =
      sign.toBitVec.toNat * 2 ^ 11 + exponent.toNat := by
    rw [BitVec.toNat_append, ← Nat.shiftLeft_add_eq_or_of_lt exponent.isLt, Nat.shiftLeft_eq]
  have all : (packComponents .binary64 sign exponent mantissa).toNat =
      (sign.toBitVec ++ exponent).toNat * 2 ^ 52 + mantissa.toNat := by
    change (sign.toBitVec ++ exponent ++ mantissa).toNat = _
    rw [BitVec.toNat_append, ← Nat.shiftLeft_add_eq_or_of_lt mantissa.isLt, Nat.shiftLeft_eq]
  rw [all, head]
  ring

theorem ofBits_packed {sign field fraction : Nat} (bit : sign < 2) (normal : 0 < field)
    (finite : field < 2048) (short : fraction < 2 ^ 52) :
    Parts.ofBits (sign * 2 ^ 63 + field * 2 ^ 52 + fraction) =
      { negative := sign = 1, significand := 2 ^ 52 + fraction, exponent := field - 1075 } := by
  have first : (sign * 2 ^ 63 + field * 2 ^ 52 + fraction) >>> 63 % 2 = sign := by
    rw [Nat.shiftRight_eq_div_pow]
    omega
  have middle : (sign * 2 ^ 63 + field * 2 ^ 52 + fraction) >>> 52 % 0x800 = field := by
    rw [Nat.shiftRight_eq_div_pow]
    omega
  have last : (sign * 2 ^ 63 + field * 2 ^ 52 + fraction) % (1 <<< 52) = fraction := by
    rw [Nat.shiftLeft_eq]
    omega
  rw [Parts.ofBits]
  simp only [first, middle, last, if_neg (Nat.ne_of_gt normal)]
  rfl

theorem ofBits_pack_normal (sign : Sign) {mantissa : Nat} {exponent : Int}
    (positive : 0 < mantissa) (full : mantissa.log2 = 52) (low : -1075 < exponent)
    (high : exponent < 971) :
    Parts.ofBits (UnpackedFloat.pack .binary64 (.finite sign mantissa exponent positive)).toNat =
      { negative := sign.toBitVec.toNat = 1, significand := mantissa, exponent } := by
  obtain ⟨filled, bounded⟩ := (Nat.log2_eq_iff (Nat.ne_of_gt positive)).mp full
  rw [pack_normal sign positive full high, toNat_packComponents, BitVec.toNat_ofNat,
    BitVec.toNat_ofNat, ofBits_packed sign.toBitVec.isLt (by omega) (by omega) (by omega),
    Parts.mk.injEq]
  exact ⟨rfl, by omega, by omega⟩

theorem ofBits_whole (nonzero : n ≠ 0) (short : n.natAbs < 2 ^ 53) :
    Parts.ofBits (whole n).toBits.toNat =
      { negative := n < 0
        significand := n.natAbs * 2 ^ spare n.natAbs
        exponent := -(spare n.natAbs : Int) } := by
  have positive : 0 < n.natAbs := Int.natAbs_pos.mpr nonzero
  have few : spare n.natAbs ≤ 52 := Nat.sub_le _ _
  have sign : decide ((signOf n).toBitVec.toNat = 1) = decide (n < 0) := by
    unfold signOf
    by_cases below : n < 0
    · rw [if_pos below, decide_eq_true below]
      rfl
    · rw [if_neg below, decide_eq_false below]
      rfl
  have bits : (whole n).toBits.toNat = (UnpackedFloat.pack .binary64 (unpackedWhole n)).toNat := rfl
  rw [bits, unpackedWhole_of_ne_zero nonzero,
    ofBits_pack_normal _ _ (log2_filled positive short) (by omega) (by omega), sign]

/-- A size without a fraction stays as it is; the half that is added for rounding is lost. -/
theorem nearest_size (size places : Nat) :
    (if 0 ≤ -(places : Int) then (size * 2 ^ places) <<< (-(places : Int)).toNat
      else (2 * (size * 2 ^ places) + 1 <<< (- -(places : Int)).toNat) /
        (2 * 1 <<< (- -(places : Int)).toNat)) = size := by
  rcases Nat.eq_zero_or_pos places with rfl | some
  · simp
  · have unit : 0 < 2 ^ places := Nat.two_pow_pos places
    have half : 2 * (size * 2 ^ places) + 2 ^ places = 2 ^ places + 2 * 2 ^ places * size := by ring
    rw [if_neg (by omega), Int.neg_neg, Int.toNat_natCast, Nat.shiftLeft_eq, Nat.one_mul, half,
      Nat.add_mul_div_left _ _ (by omega), Nat.div_eq_of_lt (by omega), Nat.zero_add]

theorem nearest_whole (short : n.natAbs < 2 ^ 53) : nearest (whole n) = n := by
  by_cases zero : n = 0
  · subst zero
    decide +kernel
  rw [nearest, ofBits_whole zero short]
  simp only [nearest_size, decide_eq_true_eq]
  split <;> omega

end

end GameRealm.Binary64
