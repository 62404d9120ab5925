import Mathlib.Data.BitVec
import Mathlib.Tactic.Common

namespace Machine

variable {w : Nat}

def lowMask (w n : Nat) : BitVec w := BitVec.ofNat w (2 ^ n - 1)

theorem clear_low (x : BitVec w) (n : Nat) : x &&& ~~~lowMask w n = (x >>> n) <<< n := by
  apply BitVec.eq_of_getLsbD_eq
  intro i small
  rw [BitVec.getLsbD_and, BitVec.getLsbD_not, lowMask, BitVec.getLsbD_ofNat, Nat.testBit_two_pow_sub_one,
    BitVec.getLsbD_shiftLeft, BitVec.getLsbD_ushiftRight]
  by_cases low : i < n
  · simp [low, small]
  · have back : n + (i - n) = i := by omega
    simp [low, small, back]

theorem clear_low_toNat (x : BitVec w) (n : Nat) : (x &&& ~~~lowMask w n).toNat = x.toNat / 2 ^ n * 2 ^ n := by
  have below : x.toNat / 2 ^ n * 2 ^ n ≤ x.toNat := Nat.div_mul_le_self ..
  have bound := x.isLt
  rw [clear_low, BitVec.toNat_shiftLeft, BitVec.toNat_ushiftRight, Nat.shiftRight_eq_div_pow,
    Nat.shiftLeft_eq, Nat.mod_eq_of_lt (by omega)]

/-- Flags put into the low bits of an aligned address come off again. -/
theorem strip_tag {p tag : BitVec w} {n : Nat} (aligned : p.toNat % 2 ^ n = 0) (small : tag.toNat < 2 ^ n) :
    (p ||| tag) &&& ~~~lowMask w n = p := by
  have address : 2 ^ n * (p.toNat / 2 ^ n) = p.toNat := Nat.mul_div_cancel' (Nat.dvd_of_mod_eq_zero aligned)
  have sum : (p ||| tag).toNat = 2 ^ n * (p.toNat / 2 ^ n) + tag.toNat := by
    rw [BitVec.toNat_or, Nat.two_pow_add_eq_or_of_lt small, address]
  apply BitVec.eq_of_toNat_eq
  rw [clear_low_toNat, sum, Nat.mul_add_div (Nat.two_pow_pos n), Nat.div_eq_of_lt small, Nat.add_zero,
    Nat.mul_comm, address]

theorem xor_tag {p tag : BitVec w} {n : Nat} (aligned : p.toNat % 2 ^ n = 0) (small : tag.toNat < 2 ^ n) :
    (p ||| tag) ^^^ p = tag := by
  apply BitVec.eq_of_getLsbD_eq
  intro i _
  rw [BitVec.getLsbD_xor, BitVec.getLsbD_or]
  by_cases low : i < n
  · have clear : p.getLsbD i = false := by
      have bit := Nat.testBit_mod_two_pow p.toNat n i
      rw [aligned, Nat.zero_testBit, decide_eq_true low, Bool.true_and] at bit
      exact bit.symm
    rw [clear, Bool.false_or, Bool.xor_false]
  · have above : tag.getLsbD i = false :=
      Nat.testBit_lt_two_pow (Nat.lt_of_lt_of_le small (Nat.pow_le_pow_right (by decide) (by omega)))
    rw [above, Bool.or_false, Bool.xor_self]

end Machine
