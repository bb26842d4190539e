import RequestQuery.Proofs.Decimal.Literal

namespace RequestQuery.Decimal

-- How a natural number may be written in decimal digits, zeros in front included. A minus is only for zero.
inductive NaturalForm : List Char → Nat → Prop
  | plain {ds : List Digit} (h : ds ≠ []) : NaturalForm (ds.map Digit.char) (Digit.value ds)
  | plus {ds : List Digit} (h : ds ≠ []) : NaturalForm ('+' :: ds.map Digit.char) (Digit.value ds)
  | minus (n : Nat) : NaturalForm ('-' :: .replicate (n + 1) '0') 0

-- They are the literals without point and exponent that denote the number.
theorem naturalForm_iff {cs : List Char} {n : Nat} :
    NaturalForm cs n ↔ ∃ l, Literal.ofChars? cs = some l ∧ l.integer? = some (n : Int) where
  mp h := by
    cases h
    case plain h => exact ⟨_, Literal.ofChars?_whole none h, rfl⟩
    case plus h  => exact ⟨_, Literal.ofChars?_whole (some .plus) h, rfl⟩
    case minus n =>
      have hz : Digit.value (.replicate (n + 1) 0) = 0 :=
        Digit.value_eq_zero fun _ => List.eq_of_mem_replicate
      refine ⟨{ sign := some .minus, whole := .replicate (n + 1) 0 }, ?_, ?_⟩
      · rw [← Literal.ofChars?_whole _ (by simp), List.map_replicate]
        rfl
      · rw [Literal.integer?_eq_some_iff, hz]
        exact ⟨rfl, rfl, rfl⟩
  mpr h := by
    obtain ⟨⟨sign, whole, fraction, exponent⟩, hl, hn⟩ := h
    obtain ⟨rfl, rfl, ha⟩ := Literal.integer?_eq_some_iff.mp hn
    have ⟨hc, mark, _, hm⟩ := Literal.ofChars?_eq_some_iff.mp hl
    have hw : whole ≠ [] := by simpa using hc.mantissa
    have hcs : cs = (sign.map Sign.char).toList ++ whole.map Digit.char := by
      simp [← hm, Literal.charsWith, Literal.fractionChars, Literal.exponentChars]
    cases sign
    case none =>
      have hv : Digit.value whole = n := Int.ofNat_inj.mp ha
      exact hcs ▸ hv ▸ .plain hw
    case some sign =>
      cases sign
      case plus =>
        have hv : Digit.value whole = n := Int.ofNat_inj.mp ha
        exact hcs ▸ hv ▸ .plus hw
      case minus =>
        have hv : -(Digit.value whole : Int) = n := by simpa [Sign.apply] using ha
        have hn : n = 0 := by omega
        obtain ⟨zeros, hz⟩ := Digit.eq_replicate_of_value_eq_zero (by omega) hw
        rw [hcs, hn, hz, List.map_replicate]
        exact .minus zeros

end RequestQuery.Decimal
