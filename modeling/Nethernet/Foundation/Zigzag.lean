import Mathlib.Algebra.Group.Nat.Defs

/-! Zigzag numbers: signed integers as unsigned ones with the sign in the lowest bit. -/

set_option autoImplicit false

namespace Nethernet.Foundation

variable {w : Nat}

def zigzag (value : BitVec w) : BitVec w := (value <<< 1) ^^^ value.sshiftRight (w - 1)

def unzigzag (code : BitVec w) : BitVec w := (code >>> 1) ^^^ -(code &&& 1#w)

variable (value : BitVec w)

/-- Shifted all the way, a number is its sign in every bit. -/
theorem sshiftRight_sign : value.sshiftRight (w - 1) = if value.msb then BitVec.allOnes w else 0#w := by
  apply BitVec.eq_of_getLsbD_eq
  intro index bound
  have sign : (if w - 1 + index < w then value.getLsbD (w - 1 + index) else value.msb) = value.msb := by
    split
    · have first : index = 0 := by omega
      rw [first, Nat.add_zero, BitVec.msb_eq_getLsbD_last]
    · rfl
  rw [BitVec.getLsbD_sshiftRight, sign]
  cases value.msb <;> simp [bound]

theorem zigzag_of_nonneg {value : BitVec w} (sign : value.msb = false) : zigzag value = value <<< 1 := by
  rw [zigzag, sshiftRight_sign, sign]
  simp

theorem zigzag_of_neg {value : BitVec w} (sign : value.msb = true) : zigzag value = ~~~(value <<< 1) := by
  rw [zigzag, sshiftRight_sign, sign, if_pos rfl, BitVec.xor_allOnes]

theorem shiftLeft_one_and_one : value <<< 1 &&& 1#w = 0#w := by
  apply BitVec.eq_of_getLsbD_eq
  intro index bound
  simp
  omega

theorem not_shiftLeft_one_and_one : ~~~(value <<< 1) &&& 1#w = 1#w := by
  apply BitVec.eq_of_getLsbD_eq
  intro index bound
  simp
  omega

theorem unzigzag_zigzag : unzigzag (zigzag value) = value := by
  have bound := value.isLt
  cases sign : value.msb with
  | false =>
    have small := BitVec.msb_eq_false_iff_two_mul_lt.mp sign
    rw [zigzag_of_nonneg sign, unzigzag, shiftLeft_one_and_one, BitVec.neg_zero, BitVec.xor_zero]
    apply BitVec.eq_of_toNat_eq
    rw [BitVec.toNat_ushiftRight, BitVec.toNat_shiftLeft, Nat.shiftLeft_eq, Nat.shiftRight_eq_div_pow,
      Nat.mod_eq_of_lt (by omega)]
    omega
  | true =>
    have large := BitVec.msb_eq_true_iff_two_mul_ge.mp sign
    have doubled : value.toNat * 2 % 2 ^ w = value.toNat * 2 - 2 ^ w := by
      rw [Nat.mod_eq_sub_mod (by omega), Nat.mod_eq_of_lt (by omega)]
    rw [zigzag_of_neg sign, unzigzag, not_shiftLeft_one_and_one, BitVec.neg_one_eq_allOnes, BitVec.xor_allOnes]
    apply BitVec.eq_of_toNat_eq
    rw [BitVec.toNat_not, BitVec.toNat_ushiftRight, BitVec.toNat_not, BitVec.toNat_shiftLeft,
      Nat.shiftLeft_eq, Nat.pow_one, doubled, Nat.shiftRight_eq_div_pow]
    omega

end Nethernet.Foundation
