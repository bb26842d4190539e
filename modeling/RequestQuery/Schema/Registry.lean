import RequestQuery.Failure
import RequestQuery.Schema.Entity
import RequestQuery.Text.Blank

namespace RequestQuery

-- Entities in the order of their registration, each under a name of its own.
structure Registry where
  entities : List Entity := []
  deriving DecidableEq

namespace Registry

-- Why an entity is not registered.
inductive Fault
  | blankName
  | repeatedName (entity : String)
  | blankField (entity : String)
  deriving DecidableEq

def Fault.message : Fault → String
  | blankName           => "entity name cannot be empty"
  | repeatedName entity => s!"entity '{entity}' is defined more than once"
  | blankField entity   => s!"entity '{entity}' contains an empty field name"

def Fault.failure (fault : Fault) : Failure :=
  .schema fault.message

def isEmpty (r : Registry) : Bool :=
  r.entities.isEmpty

def names (r : Registry) : List String :=
  r.entities.map (·.name)

def get? (r : Registry) (name : String) : Option Entity :=
  r.entities.find? (·.name == name)

-- Takes an entity in behind those that are there.
def register (e : Entity) : ExceptT Fault (StateM Registry) Unit := do
  let r ← get
  if Text.isBlankText e.name then
    throw .blankName
  if (r.get? e.name).isSome then
    throw (.repeatedName e.name)
  if e.fields.names.any Text.isBlankText then
    throw (.blankField e.name)
  set ({ r with entities := r.entities ++ [e] } : Registry)

-- Registers the entities in order; the first one that is refused decides.
def ofEntities (entities : List Entity) : Except Fault Registry :=
  let (registered, r) := (forM entities register).run.run {}
  registered.map fun _ => r

def toData (r : Registry) : Data :=
  .record [("entity", .list (r.entities.map Entity.toData))]

-- The entities that are listed, without regard to what may be registered.
def listed? (surplus : Surplus) (d : Data) : Option (List Entity) := do
  let member ← d.members? surplus ["entity"] 0
  Data.orElse (fun d => d.list? >>= List.mapM (Entity.ofData? surplus)) [] (member "entity")

end Registry

end RequestQuery
