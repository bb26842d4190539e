import RequestQuery.Schema.Entity
import RequestQuery.Proofs.SortedMap

namespace RequestQuery.Entity

variable {name field : String} {fields fields' : List String}

theorem hasField_ofNames : (ofNames name fields).hasField field ↔ field ∈ fields := by
  rw [hasField, SortedMap.contains_eq, ofNames, FieldSet.ofList, SortedMap.get?_ofList,
    List.lookup_isSome_iff]
  simp

-- An entity of the same name that has all fields of the other one.
structure Extends (larger entity : Entity) : Prop where
  name   : larger.name = entity.name
  fields : ∀ field, entity.hasField field → larger.hasField field

theorem extends_ofNames (h : fields ⊆ fields') :
    (ofNames name fields').Extends (ofNames name fields) where
  name   := rfl
  fields _ hf := hasField_ofNames.mpr (h (hasField_ofNames.mp hf))

end RequestQuery.Entity
