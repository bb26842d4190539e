import RequestQuery.Decimal.Shortest
import RequestQuery.Proofs.Decimal.Binary64
import RequestQuery.Proofs.Decimal.Literal

namespace RequestQuery.Decimal

theorem sign_beq_minus (negative : Bool) :
    ((if negative then some Sign.minus else none) == some Sign.minus) = negative := by
  cases negative <;> rfl

namespace Layout

variable {layout : Layout} {negative : Bool} {digits : List Digit} {power : Int}

theorem complete_literal (h : digits ≠ []) : (layout.literal negative digits power).Complete := by
  rw [literal]
  split
  case isTrue =>
    split
    case isTrue => exact ⟨.inl (by simp [h]), by simp⟩
    case isFalse =>
      split
      case isTrue => exact ⟨.inl (by simp [h]; omega), by simp⟩
      case isFalse => exact ⟨.inl (by simp), by simp⟩
  case isFalse => exact ⟨.inl (by simp [h]), by simp [Digit.ofNat_ne_nil]⟩

-- A literal in either layout has a point or an exponent.
theorem integer?_literal : (layout.literal negative digits power).integer? = none := by
  rw [literal]
  split
  case isTrue =>
    split
    case isTrue => rfl
    case isFalse => split <;> rfl
  case isFalse => simp [Literal.integer?]

theorem negative_literal : (layout.literal negative digits power).negative = negative := by
  rw [literal]
  split
  case isTrue =>
    split
    case isTrue => exact sign_beq_minus negative
    case isFalse => split <;> exact sign_beq_minus negative
  case isFalse => exact sign_beq_minus negative

theorem mantissa_literal_zero : (layout.literal negative [0] power).mantissa = 0 := by
  apply Digit.value_eq_zero
  intro d hd
  rw [literal] at hd
  split at hd
  case isTrue =>
    split at hd
    case isTrue =>
      simp only [Option.getD_some, List.mem_append, List.mem_singleton, List.mem_replicate] at hd
      rcases hd with (hd | ⟨_, hd⟩) | hd <;> exact hd
    case isFalse =>
      split at hd
      case isTrue => simp at hd; omega
      case isFalse =>
        simp only [Option.getD_some, List.mem_append, List.mem_singleton, List.mem_replicate] at hd
        rcases hd with hd | ⟨_, hd⟩ | hd <;> exact hd
  case isFalse => simpa using hd

end Layout

namespace Binary64

variable {x : Binary64} {l : Literal} {power : Int}

theorem onGrid?_eq_some (h : x.onGrid? power = some l) :
    ofLiteral? l = some x ∧ ∃ n, l = layout.literal x.negative (Digit.ofNat n) power := by
  have hf := List.find?_some h
  have ⟨n, _, hn⟩ := List.mem_map.mp (List.mem_of_find?_eq_some h)
  exact ⟨by simpa using hf, n, hn.symm⟩

-- A digit in base five is worth more than two bits.
theorem three_mul_lt {m : Nat} (h : m ≠ 0) (k : Nat) (hk : k < 1076) :
    3 * k < (m * Nat.pow 5 k).log2 + 1076 := by
  have hp : 0 < Nat.pow 5 k := Nat.pow_pos (by decide)
  have hl : 2 * k ≤ (m * Nat.pow 5 k).log2 := by
    rw [Nat.le_log2 (Nat.mul_ne_zero h (Nat.ne_of_gt hp))]
    calc 2 ^ (2 * k)
      _ = (2 ^ 2) ^ k := Nat.pow_mul ..
      _ ≤ 5 ^ k := Nat.pow_le_pow_left (by decide) k
      _ ≤ m * 5 ^ k := Nat.le_mul_of_pos_left _ (Nat.pos_of_ne_zero h)
  omega

theorem mul_pow_shiftLeft (m k : Nat) : (m * Nat.pow 5 k) <<< k = m * Nat.pow 10 k := by
  rw [Nat.shiftLeft_eq, Nat.mul_assoc]
  exact congrArg (m * ·) (Nat.mul_pow 5 2 k).symm

-- What has all digits of a number is rounded to that number.
theorem nearest?_mul_pow (h : x.ordinal ≠ 0) (k : Nat) (hk : k = 1074) :
    nearest? x.negative (x.significand <<< x.shift * Nat.pow 5 k) (-(k : Int)) = some x := by
  have hm : x.significand <<< x.shift * Nat.pow 5 k ≠ 0 :=
    Nat.mul_ne_zero (magnitude_ne_zero h) (Nat.ne_of_gt (Nat.pow_pos (by decide)))
  have hl := three_mul_lt (magnitude_ne_zero h) k (by omega)
  have hn : (-(k : Int)).toNat = 0 := by omega
  have hp : (- -(k : Int)).toNat = k := by omega
  have ho : nearestOrdinal (x.significand <<< x.shift * Nat.pow 5 k * Nat.pow 10 0) (Nat.pow 10 k) =
      x.ordinal := by
    apply nearestOrdinal_eq h (Nat.pow_pos (by decide))
    rw [← hk]
    exact (congrArg (· <<< k) (Nat.mul_one _)).trans (mul_pow_shiftLeft _ k)
  rw [nearest?, if_neg (by omega), if_neg (by omega)]
  simp only [hn, hp, ho]
  rw [dif_pos x.finite]

theorem ofLiteral?_exact (h : x.ordinal ≠ 0) : ofLiteral? x.exact = some x := by
  rw [exact]
  -- as a variable the exponent is not computed with
  generalize hk : 1074 = k
  rw [ofLiteral?, Literal.negative, sign_beq_minus, Literal.mantissa, Literal.scale]
  simp only [Option.getD_none, List.append_nil, Digit.value_ofNat]
  have hs : Sign.apply (some .minus) k - ([] : List Digit).length = -(k : Int) := by simp [Sign.apply]
  rw [hs, nearest?_mul_pow h k hk.symm]

theorem nearest?_zero (negative : Bool) (scale : Int) :
    nearest? negative 0 scale = some ⟨negative, 0, by decide⟩ := by
  rw [nearest?, if_pos (.inl rfl)]

theorem ofLiteral?_literal_zero (layout : Layout) (negative : Bool) (power : Int) :
    ofLiteral? (layout.literal negative [0] power) = some ⟨negative, 0, by decide⟩ := by
  rw [ofLiteral?, Layout.mantissa_literal_zero, Layout.negative_literal, nearest?_zero]

-- The first grid on which the number is told from its neighbours.
theorem shortest_of_ne_zero (h : x.ordinal ≠ 0) :
    (∃ power, x.onGrid? power = some x.shortest) ∨ x.shortest = x.exact := by
  rw [shortest, if_neg h]
  generalize hp : List.map _ _ = powers
  cases hf : powers.findSome? x.onGrid?
  case none => exact .inr rfl
  case some l =>
    have ⟨power, _, hl⟩ := List.exists_of_findSome?_eq_some hf
    exact .inl ⟨power, hl⟩

theorem ofLiteral?_shortest (x : Binary64) : ofLiteral? x.shortest = some x := by
  by_cases h : x.ordinal = 0
  case pos =>
    rw [shortest, if_pos h, ofLiteral?_literal_zero]
    cases x
    cases h
    rfl
  case neg =>
    rcases shortest_of_ne_zero h with ⟨power, hg⟩ | he
    · exact (onGrid?_eq_some hg).1
    · rw [he, ofLiteral?_exact h]

-- How a number is written: with the digits that it has on some grid, or with all of its digits.
theorem shortest_eq (x : Binary64) :
    (∃ n power, x.shortest = layout.literal x.negative (Digit.ofNat n) power ∧ (n = 0 → power = 0)) ∨
      x.shortest = x.exact := by
  by_cases h : x.ordinal = 0
  case pos =>
    exact .inl ⟨0, 0, by rw [shortest, if_pos h, Digit.ofNat_zero], fun _ => rfl⟩
  case neg =>
    refine (shortest_of_ne_zero h).imp_left fun ⟨power, hg⟩ => ?_
    have ⟨hx, n, hl⟩ := onGrid?_eq_some hg
    refine ⟨n, power, hl, ?_⟩
    rintro rfl
    rw [hl, Digit.ofNat_zero, ofLiteral?_literal_zero] at hx
    exact absurd (congrArg Binary64.ordinal (Option.some.inj hx)).symm h

theorem complete_shortest (x : Binary64) : x.shortest.Complete := by
  rcases x.shortest_eq with ⟨n, power, hl, _⟩ | he
  · exact hl ▸ Layout.complete_literal (Digit.ofNat_ne_nil n)
  · rw [he]
    exact ⟨.inl (Digit.ofNat_ne_nil _), by rintro _ ⟨⟩; exact Digit.ofNat_ne_nil _⟩

-- What is written for a number of binary64 is never taken for an integer.
theorem integer?_shortest (x : Binary64) : x.shortest.integer? = none := by
  rcases x.shortest_eq with ⟨n, power, hl, _⟩ | he
  · rw [hl, Layout.integer?_literal]
  · rw [he]
    rfl

end Binary64

end RequestQuery.Decimal
