import RequestQuery.Decimal.Binary64

namespace RequestQuery.Decimal.Binary64

theorem shift_le (x : Binary64) : 53 + x.shift ≤ 1074 + 1024 := by
  have hf := x.finite
  unfold shift
  omega

theorem significand_lt (x : Binary64) : x.significand < 1 <<< 53 := by
  have hf := x.finite
  unfold significand shift
  omega

theorem magnitude_lt_of_shift_le {x : Binary64} {bits : Nat} (h : 53 + x.shift ≤ bits) :
    x.significand <<< x.shift < 1 <<< bits := by
  calc x.significand <<< x.shift
    _ = x.significand * 2 ^ x.shift := Nat.shiftLeft_eq ..
    _ < 2 ^ 53 * 2 ^ x.shift := Nat.mul_lt_mul_of_pos_right x.significand_lt (Nat.two_pow_pos _)
    _ = 2 ^ (53 + x.shift) := (Nat.pow_add ..).symm
    _ ≤ 2 ^ bits := Nat.pow_le_pow_right Nat.two_pos h
    _ = 1 <<< bits := (Nat.one_shiftLeft _).symm

-- The magnitude counts multiples of `2 ^ -1074`.
theorem magnitude_lt (x : Binary64) : x.significand <<< x.shift < 1 <<< (1074 + 1024) :=
  magnitude_lt_of_shift_le x.shift_le

theorem ordinal_eq (x : Binary64) : x.shift <<< 52 + x.significand = x.ordinal := by
  unfold significand shift
  omega

-- Only the least exponent goes with a significand that is not full.
theorem shift_eq_zero_or (x : Binary64) : x.shift = 0 ∨ 1 <<< 52 ≤ x.significand := by
  unfold significand shift
  omega

theorem significand_ne_zero {x : Binary64} (h : x.ordinal ≠ 0) : x.significand ≠ 0 := by
  have ho := x.ordinal_eq
  rcases x.shift_eq_zero_or with hs | hs <;> omega

theorem magnitude_ne_zero {x : Binary64} (h : x.ordinal ≠ 0) : x.significand <<< x.shift ≠ 0 := by
  rw [Nat.shiftLeft_eq]
  exact Nat.mul_ne_zero (significand_ne_zero h) (Nat.ne_of_gt (Nat.two_pow_pos _))

theorem log2_magnitude {x : Binary64} (h : x.ordinal ≠ 0) :
    (x.significand <<< x.shift).log2 - 52 = x.shift := by
  rcases x.shift_eq_zero_or with hs | hs
  · have hl : x.significand.log2 < 53 :=
      (Nat.log2_lt (significand_ne_zero h)).mpr (Nat.one_shiftLeft 53 ▸ x.significand_lt)
    rw [hs, Nat.shiftLeft_zero]
    omega
  · have hl : (x.significand <<< x.shift).log2 = 52 + x.shift := by
      rw [Nat.log2_eq_iff (magnitude_ne_zero h)]
      constructor
      · rw [Nat.shiftLeft_eq, Nat.pow_add]
        exact Nat.mul_le_mul_right _ (Nat.one_shiftLeft 52 ▸ hs)
      · have hm := magnitude_lt_of_shift_le (Nat.le_refl (53 + x.shift))
        rw [Nat.add_right_comm]
        rwa [Nat.one_shiftLeft] at hm
    omega

theorem divideToEven_mul (n : Nat) {d : Nat} (h : 0 < d) : divideToEven (n * d) d = n := by
  simp [divideToEven, Nat.mul_div_cancel _ h, h]

-- Nothing is rounded where the quotient is a magnitude already.
theorem nearestOrdinal_eq {x : Binary64} {num den : Nat} (hx : x.ordinal ≠ 0) (hd : 0 < den)
    (h : num <<< 1074 = x.significand <<< x.shift * den) : nearestOrdinal num den = x.ordinal := by
  have hq : num <<< 1074 / den = x.significand <<< x.shift := by rw [h, Nat.mul_div_cancel _ hd]
  have hs : x.significand <<< x.shift * den = x.significand * den <<< x.shift := by
    rw [Nat.shiftLeft_eq, Nat.shiftLeft_eq, Nat.mul_assoc, Nat.mul_comm (2 ^ _) den]
  have hp : 0 < den <<< x.shift := by
    rw [Nat.shiftLeft_eq]
    exact Nat.mul_pos hd (Nat.two_pow_pos _)
  simp only [nearestOrdinal]
  rw [hq, log2_magnitude hx, h, hs, divideToEven_mul _ hp, ordinal_eq]

end RequestQuery.Decimal.Binary64
