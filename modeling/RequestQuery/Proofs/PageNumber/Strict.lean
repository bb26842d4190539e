import RequestQuery.Proofs.Refusal
import RequestQuery.Proofs.Decimal.Natural

namespace RequestQuery

open Decimal

namespace PageNumber

variable {l : Literal} {n : PageNumber} {k : Parameter} {given : Given} {text : String} {value : Nat}

-- A natural number of 64 bits that is given just as it is.
inductive Verbatim : PageNumber → Given → Prop
  | intro {text : String} {value : Nat} (h : NaturalForm (Text.trim text.toList) value)
      (fits : -0x8000000000000000 ≤ (value : Int) ∧ (value : Int) ≤ 0xFFFFFFFFFFFFFFFF) :
      Verbatim (integer value fits) (.once text)

-- A text in which a natural number of 64 bits is written.
def Natural (text : String) : Prop :=
  ∃ value ≤ 0xFFFFFFFFFFFFFFFF, NaturalForm (Text.trim text.toList) value

theorem ofText?_eq_some_iff :
    ofText? text = some n ↔
      ∃ l, Literal.ofChars? (Text.trim text.toList) = some l ∧ ofLiteral? l = some n := by
  rw [ofText?, Option.bind_eq_bind, Option.bind_eq_some_iff]

theorem ofLiteral?_natural (h : ofLiteral? l = some n) (hn : n.isNatural) :
    ∃ (value : Nat) (fits : _), n = integer value fits ∧ l.integer? = some (value : Int) := by
  have not_real (h : (Binary64.ofLiteral? l).map real = some n) : False := by
    obtain ⟨x, _, rfl⟩ := Option.map_eq_some_iff.mp h
    cases hn
  rw [ofLiteral?] at h
  split at h
  case h_2 => exact (not_real h).elim
  case h_1 i hi =>
    split at h
    case isFalse => exact (not_real h).elim
    case isTrue fits =>
      cases h
      obtain ⟨value, rfl⟩ := Int.eq_ofNat_of_zero_le (of_decide_eq_true hn)
      exact ⟨value, fits, rfl, hi⟩

theorem ofLiteral?_of_integer? {i : Int} (h : l.integer? = some i)
    (fits : -0x8000000000000000 ≤ i ∧ i ≤ 0xFFFFFFFFFFFFFFFF) : ofLiteral? l = some (integer i fits) := by
  rw [ofLiteral?, h]
  exact dif_pos fits

theorem verbatim_of_isNatural (h : ofText? text = some n) (hn : n.isNatural) :
    n.Verbatim (.once text) := by
  obtain ⟨l, hl, h⟩ := ofText?_eq_some_iff.mp h
  obtain ⟨value, fits, rfl, hi⟩ := ofLiteral?_natural h hn
  exact .intro (naturalForm_iff.mpr ⟨l, hl, hi⟩) fits

theorem isNatural_of_natural (h : ofText? text = some n) (ht : Natural text) : n.isNatural := by
  obtain ⟨value, hv, hf⟩ := ht
  obtain ⟨l, hl, hi⟩ := naturalForm_iff.mp hf
  have ht : ofText? text = some (integer value (by omega)) :=
    ofText?_eq_some_iff.mpr ⟨l, hl, ofLiteral?_of_integer? hi _⟩
  cases h.symm.trans ht
  exact decide_eq_true (Int.natCast_nonneg value)

theorem Verbatim.natural (h : n.Verbatim (.once text)) : Natural text := by
  cases h
  case intro value fits h => exact ⟨value, by omega, h⟩

-- A number that is given, under strict bounds and without them.
inductive Bounding (k : Parameter) (given : Given) :
    Except Rejection PageNumber → Except Rejection PageNumber → Prop
  | refused {r : Rejection} (h : r.kind ≠ .outOfRange) : Bounding k given (.error r) (.error r)
  | kept {n : PageNumber} (h : n.Verbatim given) : Bounding k given (.ok n) (.ok n)
  | dropped {text : String} {n : PageNumber} (once : given = .once text) (h : ¬Natural text) :
      Bounding k given (.error (Cause.outOfRange k.name text).rejection) (.ok n)

theorem ofGiven_eq_bind (k : Parameter) (strict : Bool) (given : Given) :
    ofGiven k strict given = given.sole k.name >>= ofText k strict := by
  unfold ofGiven ofText
  rfl

theorem ofText_eq_ok {strict : Bool} (h : ofText? text = some n) (hn : strict → n.isNatural) :
    ofText k strict text = .ok n := by
  cases strict
  case false => simp [ofText, h]
  case true  => simp [ofText, h, hn rfl]

theorem ofText_eq_error (h : ofText? text = some n) (hn : n.isNatural = false) :
    ofText k true text = .error (Cause.outOfRange k.name text).rejection := by
  simp [ofText, h, hn]

theorem bounding (k : Parameter) (given : Given) :
    Bounding k given (ofGiven k true given) (ofGiven k false given) := by
  rw [ofGiven_eq_bind, ofGiven_eq_bind]
  cases hs : given.sole k.name
  case error r =>
    have hr : r.kind = .missingParameter ∨ r.kind = .duplicateParameter := Given.kind_of_sole hs
    exact .refused (by rcases hr with hr | hr <;> simp [hr])
  case ok text =>
    obtain ⟨rfl, _⟩ := Given.sole_eq_ok_iff.mp hs
    simp only [bind, Except.bind]
    cases ht : ofText? text
    case none =>
      simp only [ofText, ht]
      exact .refused (by simp [Rejection.within, Cause.rejection_kind, Cause.kind])
    case some n =>
      have hl : ofText k false text = .ok n := ofText_eq_ok ht (absurd · Bool.false_ne_true)
      rw [hl]
      cases hn : n.isNatural
      case true =>
        rw [ofText_eq_ok ht fun _ => hn]
        exact .kept (verbatim_of_isNatural ht hn)
      case false =>
        rw [ofText_eq_error ht hn]
        refine .dropped rfl fun h => ?_
        cases hn.symm.trans (isNatural_of_natural ht h)

theorem verbatim_of_ofGiven (h : ofGiven k true given = .ok n) : n.Verbatim given := by
  have hb := h ▸ bounding k given
  generalize ofGiven k false given = lenient at hb
  cases hb
  case kept h => exact h

-- A minus is left before zeros only.
example : ofGiven .offset true (.once "-00") = .ok (.integer 0 (by decide)) := by
  decide +kernel

-- Out of range is what only strict bounds refuse.
theorem outOfRange_iff :
    (∃ r, ofGiven k true given = .error r ∧ r.kind = .outOfRange) ↔
      ∃ text, given = .once text ∧ (∃ n, ofGiven k false given = .ok n) ∧ ¬Natural text := by
  have hb := bounding k given
  generalize ofGiven k true given = strict, ofGiven k false given = lenient at hb
  cases hb
  case refused hr => simp [hr]
  case kept n hv  =>
    simp only [reduceCtorEq, false_and, exists_false, false_iff]
    rintro ⟨text, rfl, _, ht⟩
    exact ht hv.natural
  case dropped text n hg ht =>
    exact iff_of_true ⟨_, rfl, rfl⟩ ⟨text, hg, ⟨n, rfl⟩, ht⟩

-- One more than 64 bits can hold is read, but only rounded.
example : ofGiven .limit true (.once " 18446744073709551616") =
    .error (Cause.outOfRange "limit" " 18446744073709551616").rejection := by
  decide +kernel

end PageNumber

end RequestQuery
