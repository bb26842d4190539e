import Mathlib.Control.Monad.Basic
import RequestQuery.PublicReport
import RequestQuery.Query
import RequestQuery.Proofs.Bag
import RequestQuery.Proofs.Traversal

namespace RequestQuery

-- Why the value of a parameter can be refused.
def Parameter.kinds : Parameter → List Cause.Kind
  | filter         => [.malformedClause, .unknownField]
  | order          => [.malformedClause, .unknownField, .unsupportedArgument]
  | limit | offset => [.notANumber, .outOfRange]

variable {entity : Entity} {given : Given} {text : String} {cs : List Char} {k : Parameter}
  {r : Rejection}

-- What is told when the value of a parameter cannot be read.
structure Rejection.OfValue (r : Rejection) (k : Parameter) : Prop where
  parameter : r.parameter = some k.name
  kind      : r.kind ∈ k.kinds

theorem Rejection.OfValue.kind_ne (h : r.OfValue k) :
    r.kind ≠ .missingParameter ∧ r.kind ≠ .duplicateParameter := by
  have hk : ∀ kind ∈ k.kinds, kind ≠ .missingParameter ∧ kind ≠ .duplicateParameter := by
    cases k <;> decide
  exact hk r.kind h.kind

theorem Clause.rejection_ofValue (h : Clause.ofText entity cs = .error r) : r.OfValue .filter := by
  rw [Clause.ofText] at h
  split at h
  case h_1 => cases h; exact ⟨rfl, .head _⟩
  case h_2 =>
    split at h
    case isTrue => cases h
    case isFalse =>
      split at h
      case isTrue  => cases h
      case isFalse => cases h; exact ⟨rfl, .tail _ (.head _)⟩

theorem Filter.rejection_ofValue (h : Filter.ofText entity text = .error r) : r.OfValue .filter := by
  have hm := mapM_eq_error_iff.mp (map_eq_error_iff.mp h)
  have ⟨piece, _, hp⟩ := List.exists_of_findSome?_eq_some hm
  exact Clause.rejection_ofValue (refused?_eq_some_iff.mp hp)

namespace SortKey

variable {field word keyword : String} {key : SortKey}

theorem unsupported_ofValue (word : String) : (unsupported word).OfValue .order :=
  ⟨rfl, .tail _ (.tail _ (.head _))⟩

theorem ofField_rejection (h : ofField entity field = .error r) : r.OfValue .order := by
  rw [ofField] at h
  split at h
  case isTrue  => cases h
  case isFalse => cases h; exact ⟨rfl, .tail _ (.head _)⟩

theorem readDirection_rejection (h : readDirection word key = .error r) : r.OfValue .order := by
  rw [readDirection] at h
  split at h
  case h_1 => cases h
  case h_2 => cases h; exact unsupported_ofValue word

theorem readNulls_rejection (h : readNulls keyword word key = .error r) : r.OfValue .order := by
  rw [readNulls] at h
  split at h
  case isTrue =>
    split at h
    case h_1 => cases h
    case h_2 => cases h; exact unsupported_ofValue word
  case isFalse => cases h; exact unsupported_ofValue keyword

theorem rejection_ofValue (h : ofText entity text = .error r) : r.OfValue .order := by
  rw [ofText] at h
  split at h
  case h_1 => exact ofField_rejection h
  case h_2 =>
    rcases bind_eq_error_iff.mp h with h | ⟨_, _, h⟩
    · exact ofField_rejection h
    · exact readDirection_rejection h
  case h_3 =>
    rcases bind_eq_error_iff.mp h with h | ⟨_, _, h⟩
    · rcases bind_eq_error_iff.mp h with h | ⟨_, _, h⟩
      · exact ofField_rejection h
      · exact readDirection_rejection h
    · exact readNulls_rejection h
  case h_4 => cases h; exact ⟨rfl, .head _⟩

end SortKey

namespace PageNumber

variable {strict : Bool}

-- The number that a text stands for; under strict bounds it has to be natural.
def ofText (k : Parameter) (strict : Bool) (text : String) : Except Rejection PageNumber :=
  match ofText? text with
  | none => .error ((Cause.notANumber text).rejection.within k.name)
  | some n => if strict && !n.isNatural then .error (Cause.outOfRange k.name text).rejection else .ok n

theorem rejection_ofValue (bound : PageBound)
    (h : ofText bound.parameter strict text = .error r) : r.OfValue bound.parameter := by
  have hk : bound.parameter.kinds = [.notANumber, .outOfRange] := by cases bound <;> rfl
  rw [ofText] at h
  split at h
  case h_1 => cases h; exact ⟨rfl, hk ▸ .head _⟩
  case h_2 =>
    split at h
    case isTrue  => cases h; exact ⟨rfl, hk ▸ .tail _ (.head _)⟩
    case isFalse => cases h

end PageNumber

namespace Rejection

-- What is told about a parameter that is given so and so.
structure Fits (r : Rejection) (k : Parameter) (given : Given) : Prop where
  parameter : r.parameter = some k.name
  repeated  : r.kind = .duplicateParameter ↔ ∃ values, given = .repeated values
  missing   : r.kind = .missingParameter ↔ given = .missing ∨ given = .once ""
  kind      : r.kind = .duplicateParameter ∨ r.kind = .missingParameter ∨ r.kind ∈ k.kinds

theorem OfValue.fits (h : r.OfValue k) (ht : text ≠ "") : r.Fits k (.once text) := by
  have ⟨hm, hd⟩ := h.kind_ne
  refine ⟨h.parameter, ?_, ?_, .inr (.inr h.kind)⟩
  · simp [hd]
  · simp [hm, ht]

theorem fits_missing (k : Parameter) (h : given = .missing ∨ given = .once "") :
    (Cause.missing k.name).rejection.Fits k given := by
  refine ⟨rfl, ?_, iff_of_true rfl h, .inr (.inl rfl)⟩
  rcases h with rfl | rfl <;> simp [Cause.rejection_kind, Cause.kind]

theorem fits_repeated (k : Parameter) (values : List String) :
    (Cause.repeated k.name).rejection.Fits k (.repeated values) := by
  refine ⟨rfl, iff_of_true rfl ⟨values, rfl⟩, ?_, .inl rfl⟩
  simp [Cause.rejection_kind, Cause.kind]

-- A value is only read if it is the only one and not empty.
theorem fits_of_sole {α : Type} {read : String → Except Rejection α}
    (hv : ∀ {text r}, read text = .error r → r.OfValue k)
    (h : given.sole k.name >>= read = .error r) : r.Fits k given := by
  cases given
  case missing         => cases h; exact fits_missing k (.inl rfl)
  case repeated values => cases h; exact fits_repeated k values
  case once text =>
    by_cases ht : text = ""
    case pos => cases ht; cases h; exact fits_missing k (.inr rfl)
    case neg =>
      rw [Given.sole_once ht] at h
      exact (hv h).fits ht

end Rejection

end RequestQuery
