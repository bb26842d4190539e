import RequestQuery.Data.Members
import RequestQuery.SortedMap

namespace RequestQuery

-- A set of names in ascending order.
abbrev FieldSet := SortedMap Unit

namespace FieldSet

def ofList (names : List String) : FieldSet :=
  SortedMap.ofList (names.map (·, ()))

def names (fields : FieldSet) : List String :=
  fields.keys

end FieldSet

structure Entity where
  name   : String
  fields : FieldSet
  deriving DecidableEq

namespace Entity

def ofNames (name : String) (fields : List String) : Entity :=
  ⟨name, .ofList fields⟩

def hasField (e : Entity) (field : String) : Bool :=
  e.fields.contains field

def toData (e : Entity) : Data :=
  .record [("name", .text e.name), ("fields", .list (e.fields.names.map .text))]

def ofData? (surplus : Surplus) (d : Data) : Option Entity := do
  let member ← d.members? surplus ["name", "fields"] 2
  return .ofNames (← member "name" >>= Data.text?) (← member "fields" >>= Data.texts?)

end Entity

end RequestQuery
