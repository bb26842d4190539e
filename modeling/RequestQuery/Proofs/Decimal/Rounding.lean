import Mathlib.Algebra.Order.Floor.Semifield
import Mathlib.Data.Rat.Floor
import Mathlib.Tactic.FieldSimp
import Mathlib.Tactic.Ring
import RequestQuery.Proofs.Decimal.Binary64

namespace RequestQuery.Decimal

-- Rounding to the nearest natural number, a tie to the even one.
structure Rounds (r : ℚ) (m : ℕ) : Prop where
  near : |r - m| ≤ 1 / 2
  even : |r - m| = 1 / 2 → Even m

namespace Rounds

variable {r : ℚ} {m n k : ℕ}

theorem one_le_abs_sub_add_abs_sub (r : ℚ) (h : k ≠ m) : 1 ≤ |r - m| + |r - k| := by
  have hz : (m : ℤ) - k ≠ 0 := by omega
  calc (1 : ℚ)
    _ ≤ |(m : ℚ) - k| := by exact_mod_cast Int.one_le_abs hz
    _ ≤ |(m : ℚ) - r| + |r - k| := abs_sub_le ..
    _ = |r - m| + |r - k| := by rw [abs_sub_comm r m]

theorem le_abs_sub (h : Rounds r m) (k : ℕ) : |r - m| ≤ |r - k| := by
  by_cases hk : k = m
  case pos => rw [hk]
  case neg => linarith [h.near, one_le_abs_sub_add_abs_sub r hk]

theorem eq_or_even (h : Rounds r m) (hk : |r - k| = |r - m|) : k = m ∨ Even m := by
  by_cases hm : k = m
  case pos => exact .inl hm
  case neg => exact .inr <| h.even <| by linarith [h.near, one_le_abs_sub_add_abs_sub r hm]

theorem down (h0 : 0 ≤ r) (h : r < 1 / 2 ∨ r = 1 / 2 ∧ Even m) : Rounds (m + r) m := by
  have hr : |(m : ℚ) + r - m| = r := by rw [add_sub_cancel_left, abs_of_nonneg h0]
  rcases h with h | ⟨h, hm⟩
  · exact ⟨by linarith, fun he => by linarith⟩
  · exact ⟨by linarith, fun _ => hm⟩

theorem up (h1 : r < 1) (h : 1 / 2 < r ∨ r = 1 / 2 ∧ Even (m + 1)) : Rounds (m + r) (m + 1) := by
  have hr : |(m : ℚ) + r - (m + 1 : ℕ)| = 1 - r := by
    rw [Nat.cast_succ, add_sub_add_left_eq_sub, abs_sub_comm, abs_of_pos (by linarith)]
  rcases h with h | ⟨h, hm⟩
  · exact ⟨by linarith, fun he => by linarith⟩
  · exact ⟨by linarith, fun _ => hm⟩

theorem le_of_le (h : Rounds r m) (hn : n ≤ r) : n ≤ m := by
  by_contra! hlt
  have hm : (m : ℚ) + 1 ≤ n := by exact_mod_cast hlt
  linarith [abs_le.mp h.near]

theorem le_of_lt (h : Rounds r m) (hn : r < n) : m ≤ n := by
  by_contra! hlt
  have hm : (n : ℚ) + 1 ≤ m := by exact_mod_cast hlt
  linarith [abs_le.mp h.near]

-- What is halfway to an even number is rounded to that number already.
theorem lt_iff (h : Rounds r m) (hn : Even n) : m < n ↔ r < n - 1 / 2 where
  mp hlt := by
    have hm : (m : ℚ) + 1 ≤ n := by exact_mod_cast hlt
    refine lt_of_le_of_ne (by linarith [abs_le.mp h.near]) fun he => ?_
    have hd : |r - m| = 1 / 2 := by
      rw [abs_of_nonneg (by linarith)]
      linarith [abs_le.mp h.near]
    have hnm : n = m + 1 := by
      have : (n : ℚ) = m + 1 := by linarith [abs_le.mp h.near]
      exact_mod_cast this
    exact Nat.not_even_iff_odd.mpr (h.even hd).add_one (hnm ▸ hn)
  mpr hr := by
    by_contra! hle
    have hm : (n : ℚ) ≤ m := by exact_mod_cast hle
    linarith [abs_le.mp h.near]

end Rounds

namespace Binary64

variable {a : ℚ} {den ordinal : ℕ}

theorem rounds_divideToEven (num : ℕ) (hd : 0 < den) : Rounds (num / den) (divideToEven num den) := by
  have hd : (0 : ℚ) < den := by exact_mod_cast hd
  have hlt : ((num % den : ℕ) : ℚ) < den := by exact_mod_cast Nat.mod_lt num (by exact_mod_cast hd)
  have hq : (num : ℚ) / den = (num / den : ℕ) + (num % den : ℕ) / den := by
    have hn : ((den * (num / den) + num % den : ℕ) : ℚ) = num := by rw [Nat.div_add_mod]
    push_cast at hn
    field_simp
    linarith
  rw [hq]
  simp only [divideToEven]
  generalize num / den = q, num % den = r at hlt
  have hl : (r : ℚ) / den < 1 / 2 ↔ 2 * r < den := by
    rw [div_lt_div_iff₀ hd two_pos, one_mul, mul_comm]
    norm_cast
  have hg : 1 / 2 < (r : ℚ) / den ↔ den < 2 * r := by
    rw [div_lt_div_iff₀ two_pos hd, one_mul, mul_comm]
    norm_cast
  have he : (r : ℚ) / den = 1 / 2 ↔ 2 * r = den := by
    rw [div_eq_div_iff hd.ne' two_ne_zero, one_mul, mul_comm]
    norm_cast
  split
  case isTrue h =>
    refine .down (by positivity) ?_
    rwa [hl, he, Nat.even_iff]
  case isFalse h =>
    refine .up ((div_lt_one hd).mpr hlt) ?_
    rw [hg, he, Nat.even_iff]
    omega

-- Rounding to the magnitude of a number, as if there were no greatest one. The unit is `2 ^ -1074`, and the
-- magnitudes near by are `2 ^ s` apart.
inductive RoundsTo : ℚ → ℕ → Prop
  | intro {r : ℚ} {s m : ℕ} (nonneg : 0 ≤ r) (full : s = 0 ∨ 2 ^ 52 ≤ r) (fits : r < 2 ^ 53)
      (h : Rounds r m) : RoundsTo (r * 2 ^ s) (s <<< 52 + m)

theorem log2_bounds (n : ℕ) : n < 2 ^ (53 + (n.log2 - 52)) ∧
    (n.log2 - 52 = 0 ∨ 2 ^ (52 + (n.log2 - 52)) ≤ n) := by
  have hu : n < 2 ^ (n.log2 + 1) := Nat.lt_log2_self
  constructor
  · exact hu.trans_le (Nat.pow_le_pow_right Nat.two_pos (by omega))
  · by_cases hs : n.log2 ≤ 52
    case pos => exact .inl (by omega)
    case neg =>
      have hn : n ≠ 0 := by rintro rfl; exact hs (by decide)
      right
      rw [show 52 + (n.log2 - 52) = n.log2 by omega]
      exact Nat.log2_self_le hn

theorem roundsTo_nearestOrdinal (num : ℕ) (hd : 0 < den) :
    RoundsTo ((num <<< 1074 : ℕ) / den) (nearestOrdinal num den) := by
  simp only [nearestOrdinal]
  generalize num <<< 1074 = n
  obtain ⟨hu, hl⟩ := log2_bounds (n / den)
  generalize (n / den).log2 - 52 = s at hu hl
  have hp : (0 : ℚ) < 2 ^ s := by positivity
  have hden : den <<< s = den * 2 ^ s := Nat.shiftLeft_eq ..
  have hr : ((n : ℚ) / (den <<< s : ℕ)) * 2 ^ s = n / den := by
    rw [hden]
    push_cast
    field_simp
  have hdp : 0 < den <<< s := hden ▸ Nat.mul_pos hd (Nat.two_pow_pos s)
  rw [← hr]
  refine .intro (by positivity) ?_ ?_ (rounds_divideToEven n hdp)
  · refine hl.imp_right fun hl => ?_
    rw [← mul_le_mul_iff_left₀ hp, hr, ← pow_add]
    rw [← Nat.floor_div_eq_div (K := ℚ), Nat.le_floor_iff (by positivity)] at hl
    exact_mod_cast hl
  · rw [← mul_lt_mul_iff_left₀ hp, hr, ← pow_add]
    rw [← Nat.floor_div_eq_div (K := ℚ), Nat.floor_lt (by positivity)] at hu
    exact_mod_cast hu

namespace RoundsTo

theorem nonneg (h : RoundsTo a ordinal) : 0 ≤ a := by
  obtain ⟨h0⟩ := h
  positivity

-- Below `2 ^ (k + 53)` is what is nearer to the greatest magnitude below it.
theorem lt_iff (h : RoundsTo a ordinal) (k : ℕ) :
    ordinal < (k + 2) <<< 52 ↔ a < (2 ^ 53 - 1 / 2) * 2 ^ k := by
  obtain @⟨r, s, m, _, hs, hr, h⟩ := h
  have hm : m ≤ 2 ^ 53 := h.le_of_lt (by exact_mod_cast hr)
  have hp : (0 : ℚ) < 2 ^ s := by positivity
  rcases Nat.lt_trichotomy s k with hlt | rfl | hgt
  · refine iff_of_true (by omega) ?_
    have ha : r * 2 ^ s < 2 ^ 53 * 2 ^ s := mul_lt_mul_of_pos_right hr hp
    have hk : (2 : ℚ) ^ s * 2 ≤ 2 ^ k := by
      rw [← pow_succ]
      exact pow_le_pow_right₀ (by norm_num) hlt
    linarith
  · have hl := h.lt_iff (show Even (2 ^ 53) by decide)
    rw [mul_lt_mul_iff_left₀ hp, show (2 : ℚ) ^ 53 = (2 ^ 53 : ℕ) by norm_num, ← hl]
    omega
  · have hl : 2 ^ 52 ≤ r := hs.resolve_left (by omega)
    have hm : 2 ^ 52 ≤ m := h.le_of_le (by exact_mod_cast hl)
    refine iff_of_false (by omega) (not_lt.mpr ?_)
    have ha : 2 ^ 52 * 2 ^ s ≤ r * 2 ^ s := mul_le_mul_of_nonneg_right hl hp.le
    have hk : (2 : ℚ) ^ k * 2 ≤ 2 ^ s := by
      rw [← pow_succ]
      exact pow_le_pow_right₀ (by norm_num) hgt
    linarith

end RoundsTo

end Binary64

end RequestQuery.Decimal
