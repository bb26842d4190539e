import RequestQuery.Proofs.Decimal.Numeral
import RequestQuery.Proofs.Decimal.Rounding

namespace RequestQuery.Decimal.Binary64

variable {x y : Binary64} {a v : ℚ} {ordinal s m : ℕ} {l : Literal}

def magnitude (x : Binary64) : ℚ :=
  x.significand * 2 ^ x.shift

def value (x : Binary64) : ℚ :=
  signed x.negative (x.significand * 2 ^ ((x.shift : ℤ) - 1074))

-- No number is nearer, and at a tie the significand is even.
structure IsNearest (x : Binary64) (v : ℚ) : Prop where
  nearest : ∀ y : Binary64, |v - x.value| ≤ |v - y.value|
  even    : ∀ y : Binary64, |v - y.value| = |v - x.value| → y.value = x.value ∨ Even x.significand

-- The significand that is rounded up to a power of two belongs to the next exponent.
theorem magnitude_eq (hx : x.ordinal = s <<< 52 + m) (hs : s = 0 ∨ 2 ^ 52 ≤ m) (hm : m ≤ 2 ^ 53) :
    x.magnitude = m * 2 ^ s ∧ (Even m → Even x.significand) := by
  have h : x.shift = s ∧ x.significand = m ∨ x.shift = s + 1 ∧ x.significand = 2 ^ 52 ∧ m = 2 ^ 53 := by
    unfold significand shift
    omega
  rw [magnitude]
  rcases h with ⟨rfl, rfl⟩ | ⟨h1, h2, rfl⟩
  · exact ⟨rfl, id⟩
  · rw [h1, h2]
    refine ⟨?_, fun _ => by decide⟩
    push_cast
    ring

theorem magnitude_cases (y : Binary64) (s : ℕ) :
    (∃ k : ℕ, y.magnitude = k * 2 ^ s) ∨ s ≠ 0 ∧ y.magnitude < 2 ^ 52 * 2 ^ s := by
  rcases Nat.lt_or_ge y.shift s with h | h
  · refine .inr ⟨by omega, ?_⟩
    have hy : (y.significand : ℚ) < 2 ^ 53 := by exact_mod_cast y.significand_lt
    have hp : (2 : ℚ) ^ y.shift * 2 ≤ 2 ^ s := by
      rw [← pow_succ]
      exact pow_le_pow_right₀ (by norm_num) h
    calc (y.significand : ℚ) * 2 ^ y.shift
      _ < 2 ^ 53 * 2 ^ y.shift := mul_lt_mul_of_pos_right hy (by positivity)
      _ = 2 ^ 52 * (2 ^ y.shift * 2) := by ring
      _ ≤ 2 ^ 52 * 2 ^ s := mul_le_mul_of_nonneg_left hp (by positivity)
  · refine .inl ⟨y.significand * 2 ^ (y.shift - s), ?_⟩
    rw [magnitude, Nat.cast_mul, mul_assoc, Nat.cast_pow, Nat.cast_ofNat, ← pow_add, Nat.sub_add_cancel h]

namespace RoundsTo

theorem near (h : RoundsTo a x.ordinal) (y : Binary64) :
    |a - x.magnitude| ≤ |a - y.magnitude| ∧
      (|a - y.magnitude| = |a - x.magnitude| → y.magnitude = x.magnitude ∨ Even x.significand) := by
  generalize ho : x.ordinal = ordinal at h
  obtain @⟨r, s, m, _, hs, hr, h⟩ := h
  have hp : (0 : ℚ) < 2 ^ s := by positivity
  have scaled (t : ℚ) : |r * 2 ^ s - t * 2 ^ s| = |r - t| * 2 ^ s := by
    rw [← sub_mul, abs_mul, abs_of_pos hp]
  have ⟨hx, he⟩ := magnitude_eq ho (hs.imp_right fun hs => h.le_of_le (by exact_mod_cast hs))
    (h.le_of_lt (by exact_mod_cast hr))
  rw [hx, scaled]
  rcases y.magnitude_cases s with ⟨k, hy⟩ | ⟨h0, hy⟩
  · rw [hy, scaled]
    refine ⟨mul_le_mul_of_nonneg_right (h.le_abs_sub k) hp.le, fun hk => ?_⟩
    exact (h.eq_or_even (mul_right_cancel₀ hp.ne' hk)).imp (fun hk => by rw [hk]) he
  · have hl : 2 ^ 52 ≤ r := hs.resolve_left h0
    have hr : 2 ^ 52 * 2 ^ s ≤ r * 2 ^ s := mul_le_mul_of_nonneg_right hl hp.le
    have hm : |r - m| * 2 ^ s ≤ r * 2 ^ s - 2 ^ 52 * 2 ^ s := by
      have hm := mul_le_mul_of_nonneg_right (h.le_abs_sub (2 ^ 52)) hp.le
      rw [← scaled (2 ^ 52 : ℕ), Nat.cast_pow, Nat.cast_ofNat] at hm
      rwa [abs_of_nonneg (sub_nonneg.mpr hr)] at hm
    have hd : |r * 2 ^ s - y.magnitude| = r * 2 ^ s - y.magnitude := abs_of_pos (by linarith)
    rw [hd]
    exact ⟨by linarith, fun he => by linarith⟩

end RoundsTo

theorem magnitude_nonneg (x : Binary64) : 0 ≤ x.magnitude := by
  rw [magnitude]
  positivity

theorem exists_magnitude_eq_zero : ∃ z : Binary64, z.magnitude = 0 := by
  have hf : 0 < 2047 <<< 52 := by decide
  have hs : significand ⟨false, 0, hf⟩ = 0 := Nat.zero_sub _
  refine ⟨⟨false, 0, hf⟩, ?_⟩
  rw [magnitude, hs, Nat.cast_zero, zero_mul]

theorem value_eq (x : Binary64) : x.value = signed x.negative x.magnitude / 2 ^ 1074 := by
  rw [value, zpow_sub₀ two_ne_zero, zpow_natCast, ← mul_div_assoc, signed_div, magnitude]
  rfl

-- The distance in units.
theorem abs_signed_sub_value (negative : Bool) (a : ℚ) (y : Binary64) :
    |signed negative (a / 2 ^ 1074) - y.value| =
      |signed negative a - signed y.negative y.magnitude| / 2 ^ 1074 := by
  rw [value_eq, signed_div, ← sub_div, abs_div, abs_of_pos (show (0 : ℚ) < 2 ^ 1074 by positivity)]

theorem RoundsTo.near_signed (h : RoundsTo a x.ordinal) (y : Binary64) :
    |a - x.magnitude| ≤ |signed x.negative a - signed y.negative y.magnitude| ∧
      (|signed x.negative a - signed y.negative y.magnitude| = |a - x.magnitude| →
        signed y.negative y.magnitude = signed x.negative x.magnitude ∨ Even x.significand) := by
  have ⟨hle, he⟩ := h.near y
  by_cases hn : x.negative = y.negative
  case pos =>
    rw [← hn, abs_signed_sub_signed]
    exact ⟨hle, fun heq => (he heq).imp_left fun hy => by rw [hy]⟩
  case neg =>
    have ha := h.nonneg
    have hy := y.magnitude_nonneg
    have hs : |a - y.magnitude| ≤ a + y.magnitude := by
      rw [abs_le]
      constructor <;> linarith
    rw [abs_signed_sub_signed_of_ne hn ha hy]
    refine ⟨hle.trans hs, fun heq => (he (le_antisymm (hs.trans heq.le) hle)).imp_left fun hyx => ?_⟩
    -- a tie between `x` and `-x` is one between zeros
    obtain ⟨z, hz⟩ := exists_magnitude_eq_zero
    have h0 := (h.near z).1
    rw [hz, sub_zero, abs_of_nonneg ha] at h0
    have hy0 : y.magnitude = 0 := by linarith
    rw [← hyx, hy0]
    simp [signed]

theorem RoundsTo.isNearest (h : RoundsTo a x.ordinal) : x.IsNearest (signed x.negative (a / 2 ^ 1074)) := by
  constructor
  all_goals
    intro y
    have ⟨hle, he⟩ := h.near_signed y
    rw [abs_signed_sub_value, abs_signed_sub_value, abs_signed_sub_signed]
  case nearest => exact div_le_div_of_nonneg_right hle (by positivity)
  case even =>
    intro heq
    rw [value_eq, value_eq]
    exact (he ((div_left_inj' (by positivity)).mp heq)).imp_left fun hy => by rw [hy]

theorem magnitude_lt_of_ordinal_lt (h : x.ordinal < y.ordinal) : x.magnitude < y.magnitude := by
  have hs : x.shift ≤ y.shift := by
    unfold shift
    omega
  rcases Nat.lt_or_eq_of_le hs with hlt | heq
  · have hx : (x.significand : ℚ) < 2 ^ 53 := by exact_mod_cast x.significand_lt
    have hy : (2 : ℚ) ^ 52 ≤ y.significand := by
      exact_mod_cast y.shift_eq_zero_or.resolve_left (by omega)
    have hp : (2 : ℚ) ^ x.shift * 2 ≤ 2 ^ y.shift := by
      rw [← pow_succ]
      exact pow_le_pow_right₀ (by norm_num) hlt
    calc (x.significand : ℚ) * 2 ^ x.shift
      _ < 2 ^ 53 * 2 ^ x.shift := mul_lt_mul_of_pos_right hx (by positivity)
      _ = 2 ^ 52 * (2 ^ x.shift * 2) := by ring
      _ ≤ 2 ^ 52 * 2 ^ y.shift := mul_le_mul_of_nonneg_left hp (by positivity)
      _ ≤ y.significand * 2 ^ y.shift := mul_le_mul_of_nonneg_right hy (by positivity)
  · have hlt : x.significand < y.significand := by
      have hx := x.ordinal_eq
      have hy := y.ordinal_eq
      omega
    rw [magnitude, magnitude, heq]
    exact mul_lt_mul_of_pos_right (by exact_mod_cast hlt) (by positivity)

theorem even_significand_iff (x : Binary64) : Even x.significand ↔ Even x.ordinal := by
  rw [← x.ordinal_eq, Nat.even_iff, Nat.even_iff]
  omega

-- Between two numbers of even significand there is another one.
theorem IsNearest.ordinal_le (hx : x.IsNearest v) (hy : y.IsNearest v) (hn : x.negative = y.negative) :
    y.ordinal ≤ x.ordinal := by
  by_contra! hlt
  obtain ⟨a, ha⟩ : ∃ a, v = signed x.negative (a / 2 ^ 1074) := by
    refine ⟨signed x.negative v * 2 ^ 1074, ?_⟩
    rw [mul_div_cancel_right₀ _ (by positivity), signed_signed]
  have distance (z : Binary64) (hz : z.negative = x.negative) :
      |v - z.value| = |a - z.magnitude| / 2 ^ 1074 := by
    rw [ha, abs_signed_sub_value, hz, abs_signed_sub_signed]
  have hu : (0 : ℚ) < 2 ^ 1074 := by positivity
  have hxy := magnitude_lt_of_ordinal_lt hlt
  have hd : |v - x.value| = |v - y.value| := le_antisymm (hx.nearest y) (hy.nearest x)
  have hne : x.value ≠ y.value := by
    intro he
    rw [value_eq, value_eq, ← hn, div_left_inj' hu.ne', signed_inj] at he
    exact hxy.ne he
  have hex : Even x.ordinal := x.even_significand_iff.mp ((hx.even y hd.symm).resolve_left hne.symm)
  have hey : Even y.ordinal := y.even_significand_iff.mp ((hy.even x hd).resolve_left hne)
  have hlt : x.ordinal + 1 < y.ordinal := by grind
  let z : Binary64 := ⟨x.negative, x.ordinal + 1, hlt.trans y.finite⟩
  have hxz : x.magnitude < z.magnitude := magnitude_lt_of_ordinal_lt (Nat.lt_succ_self _)
  have hzy : z.magnitude < y.magnitude := magnitude_lt_of_ordinal_lt hlt
  have hz := hx.nearest z
  rw [distance x rfl, distance z rfl, div_le_div_iff_of_pos_right hu] at hz
  rw [distance x rfl, distance y hn.symm, div_left_inj' hu.ne', abs_eq_abs] at hd
  have hmid : a - x.magnitude = -(a - y.magnitude) := hd.resolve_left (by linarith)
  rw [abs_of_pos (by linarith)] at hz
  exact absurd hz (not_le.mpr (abs_lt.mpr ⟨by linarith, by linarith⟩))

theorem IsNearest.unique (hx : x.IsNearest v) (hy : y.IsNearest v) (hn : x.negative = y.negative) : x = y := by
  have ho := Nat.le_antisymm (hy.ordinal_le hx hn.symm) (hx.ordinal_le hy hn)
  cases x
  cases y
  cases hn
  cases ho
  rfl

theorem roundsTo_zero (h0 : 0 ≤ a) (h : a < 1 / 2) : RoundsTo a 0 := by
  have hr : Rounds a 0 := by simpa using Rounds.down (m := 0) h0 (.inl h)
  have h1 := RoundsTo.intro h0 (.inl rfl) (by linarith) hr
  simpa using h1

theorem zpow_eq_div (scale : ℤ) : (10 : ℚ) ^ scale = 10 ^ scale.toNat / 10 ^ (-scale).toNat := by
  obtain ⟨k, rfl | rfl⟩ := scale.eq_nat_or_neg
  case inl => simp
  case inr => simp

theorem mul_zpow_lt_half {mantissa : ℕ} {scale : ℤ} {bits : ℕ}
    (h : mantissa = 0 ∨ (mantissa.log2 : ℤ) + 1 + 3 * scale ≤ -(bits + 1)) :
    (mantissa : ℚ) * 10 ^ scale * 2 ^ bits < 1 / 2 := by
  rcases h with rfl | h
  · simp
  · obtain ⟨k, rfl⟩ : ∃ k : ℕ, scale = -k := ⟨(-scale).toNat, by omega⟩
    have hm : mantissa * 2 ^ bits * 2 < 10 ^ k := by
      calc mantissa * 2 ^ bits * 2
        _ = mantissa * 2 ^ (bits + 1) := by rw [pow_succ, mul_assoc]
        _ < 2 ^ (mantissa.log2 + 1) * 2 ^ (bits + 1) :=
          Nat.mul_lt_mul_of_pos_right Nat.lt_log2_self (Nat.two_pow_pos _)
        _ = 2 ^ (mantissa.log2 + 1 + (bits + 1)) := (pow_add ..).symm
        _ ≤ 2 ^ (3 * k) := Nat.pow_le_pow_right Nat.two_pos (by omega)
        _ = (2 ^ 3) ^ k := pow_mul ..
        _ ≤ 10 ^ k := Nat.pow_le_pow_left (by decide) k
    have hp : (0 : ℚ) < 10 ^ k := by positivity
    have hm : (mantissa : ℚ) * 2 ^ bits * 2 < 10 ^ k := by exact_mod_cast hm
    rw [zpow_neg, zpow_natCast, mul_right_comm, ← div_eq_mul_inv, div_lt_iff₀ hp]
    linarith

theorem le_mul_zpow {mantissa : ℕ} {scale : ℤ} (hm : mantissa ≠ 0) (h : 308 < scale) :
    (2 ^ 53 - 1 / 2) * 2 ^ 2045 ≤ (mantissa : ℚ) * 10 ^ scale * 2 ^ 1074 := by
  have hm : (1 : ℚ) ≤ mantissa := by exact_mod_cast Nat.one_le_iff_ne_zero.mpr hm
  have ht : (2 ^ 1024 : ℚ) ≤ 10 ^ 309 := by
    have : 2 ^ 1024 ≤ 10 ^ 309 := by decide +kernel
    exact_mod_cast this
  calc (2 ^ 53 - 1 / 2 : ℚ) * 2 ^ 2045
    _ ≤ 2 ^ 53 * 2 ^ 2045 := mul_le_mul_of_nonneg_right (by norm_num) (by positivity)
    _ = 2 ^ 1024 * 2 ^ 1074 := by rw [← pow_add, ← pow_add]
    _ ≤ 10 ^ 309 * 2 ^ 1074 := mul_le_mul_of_nonneg_right ht (by positivity)
    _ ≤ 10 ^ scale * 2 ^ 1074 := by
      refine mul_le_mul_of_nonneg_right ?_ (by positivity)
      exact (zpow_natCast 10 309).symm.trans_le (zpow_le_zpow_right₀ (by norm_num) h)
    _ ≤ mantissa * 10 ^ scale * 2 ^ 1074 := by
      refine mul_le_mul_of_nonneg_right ?_ (by positivity)
      exact le_mul_of_one_le_left (by positivity) hm

-- The conditions in front of the rounding leave its result as it is.
theorem exists_nearest?_eq (mantissa : ℕ) (scale : ℤ) :
    ∃ ordinal, RoundsTo (mantissa * 10 ^ scale * 2 ^ 1074) ordinal ∧ ∀ negative,
      nearest? negative mantissa scale =
        if h : ordinal < 2047 <<< 52 then some ⟨negative, ordinal, h⟩ else none := by
  by_cases hs : mantissa = 0 ∨ (mantissa.log2 : ℤ) + 1 + 3 * scale ≤ -1075
  case pos =>
    refine ⟨0, roundsTo_zero (by positivity) (mul_zpow_lt_half hs), fun negative => ?_⟩
    rw [nearest?, if_pos hs, dif_pos (by decide)]
  case neg =>
    obtain ⟨hm, hs⟩ := not_or.mp hs
    have hd : 0 < Nat.pow 10 (-scale).toNat := Nat.pow_pos (by decide)
    have hr := roundsTo_nearestOrdinal (mantissa * Nat.pow 10 scale.toNat) hd
    have ha : ((mantissa * Nat.pow 10 scale.toNat) <<< 1074 : ℕ) / (Nat.pow 10 (-scale).toNat : ℕ) =
        (mantissa : ℚ) * 10 ^ scale * 2 ^ 1074 := by
      rw [Nat.shiftLeft_eq, zpow_eq_div]
      generalize 1074 = bits
      have hp (k : ℕ) : ((Nat.pow 10 k : ℕ) : ℚ) = 10 ^ k := by exact Nat.cast_pow 10 k
      push_cast [hp]
      ring
    rw [ha] at hr
    refine ⟨_, hr, fun negative => ?_⟩
    rw [nearest?, if_neg (not_or.mpr ⟨hm, hs⟩)]
    split
    case isFalse => rfl
    case isTrue hscale =>
      have ho : ¬_ < 2047 <<< 52 := (hr.lt_iff 2045).not.mpr (not_lt.mpr (le_mul_zpow hm hscale))
      rw [dif_neg ho]

theorem lt_limit_iff (a : ℚ) :
    a * 2 ^ 1074 < (2 ^ 53 - 1 / 2) * 2 ^ 2045 ↔ a < 2 ^ 1024 - 2 ^ 970 := by
  have hu : (0 : ℚ) < 2 ^ 1074 := by positivity
  have hl : ((2 : ℚ) ^ 53 - 1 / 2) * 2 ^ 2045 = (2 ^ 1024 - 2 ^ 970) * 2 ^ 1074 := by
    have h1 : (2 : ℚ) ^ 53 * 2 ^ 2045 = 2 ^ 1024 * 2 ^ 1074 := by rw [← pow_add, ← pow_add]
    have h2 : (2 : ℚ) ^ 2045 = 2 * (2 ^ 970 * 2 ^ 1074) := by rw [← pow_add, ← pow_succ']
    rw [sub_mul, sub_mul, h1, h2, one_div, inv_mul_cancel_left₀ two_ne_zero]
  rw [hl, mul_lt_mul_iff_left₀ hu]

theorem abs_literal_value (l : Literal) : |l.value| = l.mantissa * 10 ^ l.scale := by
  have h : (0 : ℚ) ≤ l.mantissa * 10 ^ l.scale := by positivity
  rw [Literal.value, abs_signed, abs_of_nonneg h]

theorem exists_ofLiteral?_eq (l : Literal) :
    ∃ ordinal, RoundsTo (|l.value| * 2 ^ 1074) ordinal ∧
      ofLiteral? l = if h : ordinal < 2047 <<< 52 then some ⟨l.negative, ordinal, h⟩ else none := by
  have ⟨ordinal, hr, hl⟩ := exists_nearest?_eq l.mantissa l.scale
  exact ⟨ordinal, (abs_literal_value l).symm ▸ hr, hl l.negative⟩

theorem isSome_ofLiteral?_iff : (ofLiteral? l).isSome ↔ |l.value| < 2 ^ 1024 - 2 ^ 970 := by
  have ⟨ordinal, hr, hl⟩ := exists_ofLiteral?_eq l
  rw [hl, ← lt_limit_iff, ← hr.lt_iff 2045]
  split
  case isTrue h  => exact iff_of_true rfl h
  case isFalse h => exact iff_of_false nofun h

theorem isNearest_of_ofLiteral? {x : Binary64} (h : ofLiteral? l = some x) :
    x.negative = l.negative ∧ x.IsNearest l.value := by
  have ⟨ordinal, hr, hl⟩ := exists_ofLiteral?_eq l
  rw [hl] at h
  split at h
  case isFalse => cases h
  case isTrue hf =>
    cases h
    have hn := RoundsTo.isNearest (x := ⟨l.negative, ordinal, hf⟩) hr
    rw [mul_div_cancel_right₀ _ (by positivity), abs_literal_value l] at hn
    exact ⟨rfl, hn⟩

-- A literal within the range is rounded to the nearest number with its sign.
theorem ofLiteral?_eq_some_iff {x : Binary64} (h : |l.value| < 2 ^ 1024 - 2 ^ 970) :
    ofLiteral? l = some x ↔ x.negative = l.negative ∧ x.IsNearest l.value where
  mp := isNearest_of_ofLiteral?
  mpr hx := by
    obtain ⟨y, hy⟩ := Option.isSome_iff_exists.mp (isSome_ofLiteral?_iff.mpr h)
    have ⟨hn, hv⟩ := isNearest_of_ofLiteral? hy
    rw [hy, hv.unique hx.2 (hn.trans hx.1.symm)]

end RequestQuery.Decimal.Binary64
