import RequestQuery.Proofs.Decimal.Nearest
import RequestQuery.Proofs.PageNumber.Strict

namespace RequestQuery

open Decimal

namespace PageNumber

variable {l : Literal} {n : PageNumber} {x : Binary64} {i : Int}

-- What is not an integer of 64 bits is rounded.
theorem ofLiteral?_eq_map
    (h : ∀ i, l.integer? = some i → ¬(-0x8000000000000000 ≤ i ∧ i ≤ 0xFFFFFFFFFFFFFFFF)) :
    ofLiteral? l = (Binary64.ofLiteral? l).map real := by
  rw [ofLiteral?]
  cases hi : l.integer?
  case none   => rfl
  case some i => exact dif_neg (h i hi)

theorem abs_lt_of_fits (h : -0x8000000000000000 ≤ i ∧ i ≤ 0xFFFFFFFFFFFFFFFF) :
    |(i : ℚ)| < 2 ^ 1024 - 2 ^ 970 := by
  have hi : |(i : ℚ)| < 2 ^ 64 := by
    have hn : |i| < 2 ^ 64 := by
      rw [abs_lt]
      omega
    exact_mod_cast hn
  have h1 : (2 : ℚ) ^ 970 * 2 ≤ 2 ^ 1024 := by
    rw [← pow_succ]
    exact pow_le_pow_right₀ (by norm_num) (by decide)
  have h2 : (2 : ℚ) ^ 64 ≤ 2 ^ 970 := pow_le_pow_right₀ (by norm_num) (by decide)
  calc |(i : ℚ)|
    _ < 2 ^ 64 := hi
    _ ≤ 2 ^ 970 := h2
    _ ≤ 2 ^ 1024 - 2 ^ 970 := by
      rw [le_sub_iff_add_le, ← mul_two]
      exact h1

-- The integers of 64 bits are within the range of binary64.
theorem isSome_ofLiteral?_iff : (ofLiteral? l).isSome ↔ |l.value| < 2 ^ 1024 - 2 ^ 970 := by
  by_cases h : ∃ i, l.integer? = some i ∧ -0x8000000000000000 ≤ i ∧ i ≤ 0xFFFFFFFFFFFFFFFF
  case pos =>
    obtain ⟨i, hi, fits⟩ := h
    rw [ofLiteral?_of_integer? hi fits, Literal.value_of_integer? hi]
    exact iff_of_true rfl (abs_lt_of_fits fits)
  case neg =>
    have hl := ofLiteral?_eq_map fun i hi fits => h ⟨i, hi, fits⟩
    rw [hl, Option.isSome_map, Binary64.isSome_ofLiteral?_iff]

-- Which texts are read at all, which are read as integers, and what the other ones are rounded to.
theorem ofText?_of_numeral (text : String) :
    ((ofText? text).isSome ↔
      ∃ negative v, Numeral (Text.trim text.toList) negative v ∧ |v| < 2 ^ 1024 - 2 ^ 970) ∧
    (∀ i fits, IntegerForm (Text.trim text.toList) i → ofText? text = some (integer i fits)) ∧
    ∀ negative v, Numeral (Text.trim text.toList) negative v → |v| < 2 ^ 1024 - 2 ^ 970 →
      (∀ i, IntegerForm (Text.trim text.toList) i →
        ¬(-0x8000000000000000 ≤ i ∧ i ≤ 0xFFFFFFFFFFFFFFFF)) →
      ∃ x, ofText? text = some (real x) ∧ ∀ y, y = x ↔ y.negative = negative ∧ y.IsNearest v := by
  simp only [numeral_iff, integerForm_iff]
  rw [ofText?]
  cases hl : Literal.ofChars? (Text.trim text.toList)
  case none => simp
  case some l =>
    simp only [Option.bind_eq_bind, Option.bind_some, Option.some.injEq, exists_eq_left']
    refine ⟨?_, ?_, ?_⟩
    · rw [isSome_ofLiteral?_iff]
      simp
    · exact fun i fits hi => ofLiteral?_of_integer? hi fits
    · rintro _ _ ⟨rfl, rfl⟩ hv hi
      obtain ⟨x, hx⟩ := Option.isSome_iff_exists.mp (Binary64.isSome_ofLiteral?_iff.mpr hv)
      refine ⟨x, by rw [ofLiteral?_eq_map hi, hx, Option.map_some], fun y => ?_⟩
      rw [← Binary64.ofLiteral?_eq_some_iff hv, hx, Option.some.injEq, eq_comm]

-- A point is enough to keep a zero from being an integer.
example : ofText? " -0. " = some (real ⟨true, 0, by decide⟩) := by
  decide +kernel

end PageNumber

end RequestQuery
