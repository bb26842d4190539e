import RequestQuery.Bag
import RequestQuery.Filter
import RequestQuery.SortKey
import RequestQuery.PageNumber

namespace RequestQuery

inductive PageBound
  | limit
  | offset
  deriving DecidableEq

def PageBound.parameter : PageBound → Parameter
  | limit  => .limit
  | offset => .offset

structure ReadingOptions where
  -- `limit` and `offset` have to be natural numbers
  strictBounds : Bool := false
  deriving DecidableEq

structure Query where
  filter : Filter := ∅
  order  : Option String := none
  limit  : Option PageNumber := none
  offset : Option PageNumber := none
  deriving DecidableEq

namespace Query

-- Adds conditions, in place of those on the same fields.
def withFilter (q : Query) (filter : Filter) : Query :=
  { q with filter := q.filter.override filter }

def withOrder (q : Query) (key : SortKey) : Query :=
  { q with order := some key.text }

def withBound (q : Query) (bound : PageBound) (n : PageNumber) : Query :=
  match bound with
  | .limit  => { q with limit := some n }
  | .offset => { q with offset := some n }

def isEmpty (q : Query) : Bool :=
  q.filter.isEmpty && q.order.isNone && q.limit.isNone && q.offset.isNone

-- Reads a parameter if it is given at all.
def readIfGiven {α : Type} (bag : Bag) (parameter : Parameter)
    (read : Given → Except Rejection α) : Except Rejection (Option α) :=
  if bag.contains parameter.name then
    some <$> read (bag.get parameter.name)
  else
    .ok none

def ofBag (entity : Entity) (options : ReadingOptions) (bag : Bag) : Except Rejection Query := do
  let filter ← readIfGiven bag .filter (Filter.ofGiven entity)
  let key    ← readIfGiven bag .order (SortKey.ofGiven entity)
  let limit  ← readIfGiven bag .limit (PageNumber.ofGiven .limit options.strictBounds)
  let offset ← readIfGiven bag .offset (PageNumber.ofGiven .offset options.strictBounds)
  return { filter := filter.getD ∅, order := key.map SortKey.text, limit, offset }

-- What is not asked for is left out, but for the filter.
def toData (q : Query) : Data :=
  .record <| ("where", q.filter.toData)
    :: (q.order.map fun order => ("order", Data.text order)).toList
    ++ (q.limit.map fun n => ("limit", n.toData)).toList
    ++ (q.offset.map fun n => ("offset", n.toData)).toList

end Query

end RequestQuery
