import RequestQuery.Proofs.Entity
import RequestQuery.Proofs.Query

namespace RequestQuery

-- The refusal of a field that only the larger entity has.
inductive Rejection.OfNewField (larger entity : Entity) : Rejection → Prop
  | intro {field : String} (k : Parameter) (known : larger.hasField field)
      (new : entity.hasField field = false) :
      OfNewField larger entity ((Cause.unknownField field entity.name).rejection.within k.name)

open Rejection (OfNewField)

variable {larger entity : Entity}

-- The name of the entity is told if no entity has the field.
theorem Clause.sameUnless_ofText (h : larger.Extends entity) (cs : List Char) :
    SameUnless (OfNewField larger entity) (ofText entity cs) (ofText larger cs) := by
  rw [ofText, ofText]
  split
  case h_1 => exact .same _
  case h_2 comparison hc =>
    split
    case isTrue => exact .same _
    case isFalse =>
      cases he : entity.hasField (.ofList (field cs))
      case true  => rw [h.fields _ he]; exact .same _
      case false =>
        cases hl : larger.hasField (.ofList (field cs))
        case true  => exact .excused (.intro .filter hl he) _
        case false => rw [h.name]; exact .same _

theorem Filter.sameUnless_ofGiven (h : larger.Extends entity) (given : Given) :
    SameUnless (OfNewField larger entity) (ofGiven entity given) (ofGiven larger given) :=
  (SameUnless.same _).bind fun _ => (SameUnless.mapM (Clause.sameUnless_ofText h) _).map _

namespace SortKey

theorem sameUnless_ofField (h : larger.Extends entity) (field : String) :
    SameUnless (OfNewField larger entity) (ofField entity field) (ofField larger field) := by
  rw [ofField, ofField]
  cases he : entity.hasField field
  case true  => rw [h.fields _ he]; exact .same _
  case false =>
    cases hl : larger.hasField field
    case true  => exact .excused (.intro .order hl he) _
    case false => rw [h.name]; exact .same _

-- The words are counted before the field is looked up, and those behind it are read after that.
theorem sameUnless_ofText (h : larger.Extends entity) (text : String) :
    SameUnless (OfNewField larger entity) (ofText entity text) (ofText larger text) := by
  have hf := sameUnless_ofField h
  rw [ofText, ofText]
  split
  case h_1 => exact hf _
  case h_2 => exact (hf _).bind fun _ => .same _
  case h_3 => exact ((hf _).bind fun _ => .same _).bind fun _ => .same _
  case h_4 => exact .same _

theorem sameUnless_ofGiven (h : larger.Extends entity) (given : Given) :
    SameUnless (OfNewField larger entity) (ofGiven entity given) (ofGiven larger given) :=
  (SameUnless.same _).bind (sameUnless_ofText h)

end SortKey

namespace Query

-- The bounds are read without regard to the entity.
theorem sameUnless_ofBag (h : larger.Extends entity) (options : ReadingOptions) (bag : Bag) :
    SameUnless (OfNewField larger entity) (ofBag entity options bag) (ofBag larger options bag) := by
  have hf := sameUnless_readIfGiven (Filter.sameUnless_ofGiven h) bag .filter
  have hk := sameUnless_readIfGiven (SortKey.sameUnless_ofGiven h) bag .order
  exact hf.bind fun _ => hk.bind fun _ => .same _

theorem ofBag_eq_of_extends (h : larger.Extends entity) (options : ReadingOptions) (bag : Bag) :
    (ofBag larger options bag = ofBag entity options bag ∨
      ∃ r, ofBag entity options bag = .error r ∧ r.OfNewField larger entity) ∧
    ∀ q, ofBag entity options bag = .ok q → ofBag larger options bag = .ok q := by
  have hs := sameUnless_ofBag h options bag
  refine ⟨?_, fun q => hs.eq_ok⟩
  rcases hs.eq_or with h | ⟨r, hr, h⟩
  · exact .inl h
  · exact .inr ⟨r, h, hr⟩

-- The second request sorts by a field that the smaller entity does not have.
theorem ofBag_eq_of_extends_name :
    let entity := Entity.ofNames "User" ["age", "status"]
    let larger := Entity.ofNames "User" ["age", "name", "status"]
    let known := Bag.ofQuery "filter=status%3Din(a,b)%26name%3D+%3Db%3D1&orderBy=age+desc&offset=-3"
    let unknown := Bag.ofQuery "filter=age%3C3&orderBy=name&limit=x"
    larger.Extends entity ∧
      (∃ q, ofBag entity {} known = .ok q ∧ ofBag larger {} known = .ok q) ∧
      ∃ r, ofBag entity {} unknown = .error r ∧ r.OfNewField larger entity := by
  intro entity larger known unknown
  have h : larger.Extends entity := Entity.extends_ofNames (by decide)
  refine ⟨h, ?_, ?_⟩
  · have hk : (ofBag entity {} known).toOption.isSome := by decide +kernel
    cases hq : ofBag entity {} known
    case error r => rw [hq] at hk; cases hk
    case ok q    => exact ⟨q, rfl, (ofBag_eq_of_extends h {} known).2 q hq⟩
  · have hu : ofBag larger {} unknown ≠ ofBag entity {} unknown := by decide +kernel
    exact (ofBag_eq_of_extends h {} unknown).1.resolve_left hu

end Query

end RequestQuery
