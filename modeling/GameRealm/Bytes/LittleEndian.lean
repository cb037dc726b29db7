import GameRealm.Bytes.Hex

/-!
# Little-endian words

The fixed-width fields of a payload: `encode` writes a number as a given count
of bytes, least significant first, and `decode` reads it back. The word types
are thin wrappers over the two.
-/

namespace GameRealm.LittleEndian

/-- The low `width` bytes of `n`, least significant first. -/
def encode : Nat → Nat → Bytes
  | 0, _ => []
  | width + 1, n => UInt8.ofNat (n % 256) :: encode width (n / 256)

def decode : Bytes → Nat
  | [] => 0
  | b :: rest => b.toNat + 256 * decode rest

theorem length_encode (width n : Nat) : (encode width n).length = width := by
  induction width generalizing n with
  | zero => rfl
  | succ width ih => simp [encode, ih]

theorem decode_encode (width n : Nat) (h : n < Nat.pow 256 width) :
    decode (encode width n) = n := by
  induction width generalizing n with
  | zero =>
    have : n = 0 := Nat.lt_one_iff.mp h
    simp [encode, decode, this]
  | succ width ih =>
    have hq : n / 256 < Nat.pow 256 width :=
      Nat.div_lt_of_lt_mul (by rw [Nat.mul_comm]; exact h)
    have hlow : (UInt8.ofNat (n % 256)).toNat = n % 256 := by
      simp only [UInt8.toNat_ofNat']; omega
    simp only [encode, decode, ih _ hq, hlow]
    omega

end GameRealm.LittleEndian
