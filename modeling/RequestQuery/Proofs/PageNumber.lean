import RequestQuery.PageNumber
import RequestQuery.Proofs.Bag
import RequestQuery.Proofs.Decimal.Binary64
import RequestQuery.Proofs.Traversal

namespace RequestQuery

namespace PageNumber

variable {n : PageNumber} {parameter : Parameter} {strict : Bool} {given : Given}

-- An integer of 64 bits or a finite number; under strict bounds a natural number of 64 bits.
def Bounded (strict : Bool) : PageNumber → Prop
  | integer value _ =>
    (if strict then 0 else -0x8000000000000000) ≤ value ∧ value ≤ 0xFFFFFFFFFFFFFFFF
  | real x          => strict = false ∧ x.significand <<< x.shift < 1 <<< (1074 + 1024)

-- The bounds of 64 bits come with the number itself.
theorem bounded_iff : n.Bounded strict ↔ (strict → n.isNatural) := by
  cases n
  case integer value fits => cases strict <;> simp [Bounded, isNatural, fits]
  case real x =>
    rw [Bounded, and_iff_left x.magnitude_lt]
    cases strict <;> simp [isNatural]

theorem bounded_of_ofGiven (h : ofGiven parameter strict given = .ok n) : n.Bounded strict := by
  have ⟨text, _, ht⟩ := bind_eq_ok_iff.mp h
  refine bounded_iff.mpr fun hs => ?_
  split at ht
  case h_1 => cases ht
  case h_2 n' hn =>
    split at ht
    case isTrue => cases ht
    case isFalse hb =>
      cases ht
      simpa [hs] using hb

end PageNumber

end RequestQuery
