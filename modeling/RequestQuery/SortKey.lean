import RequestQuery.Text.Blank
import RequestQuery.Given
import RequestQuery.Schema.Entity

namespace RequestQuery

-- The same text up to the case of ASCII letters.
def sameWord (a b : String) : Bool :=
  a.toList.map Char.toLower == b.toList.map Char.toLower

inductive Direction
  | ascending
  | descending
  deriving DecidableEq

namespace Direction

def all : List Direction :=
  [ascending, descending]

def name : Direction → String
  | ascending  => "Asc"
  | descending => "Desc"

def ofWord? (word : String) : Option Direction :=
  all.find? (sameWord word ·.name)

end Direction

-- Where the rows without a value come.
inductive NullsPlacement
  | first
  | last
  deriving DecidableEq

namespace NullsPlacement

def all : List NullsPlacement :=
  [first, last]

def name : NullsPlacement → String
  | first => "First"
  | last  => "Last"

def ofWord? (word : String) : Option NullsPlacement :=
  all.find? (sameWord word ·.name)

end NullsPlacement

-- Given as `field [asc|desc [nulls first|last]]`.
structure SortKey where
  field     : String
  direction : Option Direction := none
  nulls     : Option NullsPlacement := none
  -- the words behind the field, as given
  words     : List String := []
  deriving DecidableEq

namespace SortKey

def directed (key : SortKey) (direction : Direction) (word : String) : SortKey :=
  { key with direction := some direction, words := key.words ++ [word] }

def placing (key : SortKey) (nulls : NullsPlacement) (keyword word : String) : SortKey :=
  { key with nulls := some nulls, words := key.words ++ [keyword, word] }

-- The field in double quotes, then each word after one space.
def text (key : SortKey) : String :=
  .ofList <| '"' :: key.field.toList ++ '"' :: key.words.flatMap fun word => ' ' :: word.toList

def unsupported (word : String) : Rejection :=
  (Cause.unsupported word Parameter.order.name).rejection

def readDirection (word : String) (key : SortKey) : Except Rejection SortKey :=
  match Direction.ofWord? word with
  | some direction => .ok (key.directed direction word)
  | none           => .error (unsupported word)

def readNulls (keyword word : String) (key : SortKey) : Except Rejection SortKey :=
  if sameWord keyword "nulls" then
    match NullsPlacement.ofWord? word with
    | some nulls => .ok (key.placing nulls keyword word)
    | none       => .error (unsupported word)
  else
    .error (unsupported keyword)

def ofField (entity : Entity) (field : String) : Except Rejection SortKey :=
  if entity.hasField field then
    .ok { field }
  else
    .error ((Cause.unknownField field entity.name).rejection.within Parameter.order.name)

def ofText (entity : Entity) (text : String) : Except Rejection SortKey :=
  match (Text.words text.toList).map String.ofList with
  | [field] => ofField entity field
  | [field, direction] => ofField entity field >>= readDirection direction
  | [field, direction, keyword, nulls] =>
    ofField entity field >>= readDirection direction >>= readNulls keyword nulls
  | _ => .error ((Cause.malformedOrder text).rejection.within Parameter.order.name)

def ofGiven (entity : Entity) (given : Given) : Except Rejection SortKey :=
  given.sole Parameter.order.name >>= ofText entity

end SortKey

end RequestQuery
