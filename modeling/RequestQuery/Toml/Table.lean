import RequestQuery.Data.Basic

namespace RequestQuery.Toml

-- How a table came to be decides what may still be added to it.
inductive Origin
  | header
  -- on the way of a header to a deeper table
  | implied
  | dotted
  deriving DecidableEq

inductive Node
  -- closed: a scalar, a list or an inline table
  | leaf (d : Data)
  | table (origin : Origin) (members : List (String × Node))
  -- the rows that headers in double brackets made, the latest first
  | rows (rows : List (List (String × Node)))

abbrev Table := List (String × Node)

namespace Node

mutual

def data : Node → Data
  | leaf d          => d
  | table _ members => .record (membersData members)
  | rows rs         => .list (rowsData rs).reverse

def membersData : List (String × Node) → List (String × Data)
  | []                   => []
  | (name, n) :: members => (name, data n) :: membersData members

def rowsData : List (List (String × Node)) → List Data
  | []      => []
  | r :: rs => .record (membersData r) :: rowsData rs

end

end Node

namespace Table

def data (t : Table) : Data :=
  .record (Node.membersData t)

-- Replaces what stands under a name, or adds it.
def alter (name : String) (f : Option Node → Option Node) : Table → Option Table
  | [] => do
    return [(name, ← f none)]
  | (n, node) :: rest =>
    if n = name then do
      return (n, ← f (some node)) :: rest
    else do
      return (n, node) :: (← alter name f rest)

-- Changes the table that a header leads to. Tables missing on the way are implied; of rows the latest
-- one is meant.
def within (f : Table → Option Table) : List String → Table → Option Table
  | [] => f
  | name :: path => alter name fun
    | none                       => .table .implied <$> within f path []
    | some (.table origin t)     => .table origin <$> within f path t
    | some (.rows (row :: rows)) => do
      return .rows ((← within f path row) :: rows)
    | _ => none

def declare (name : String) : Table → Option Table :=
  alter name fun
    | none                     => some (.table .header [])
    | some (.table .implied t) => some (.table .header t)
    | _ => none

def addRow (name : String) : Table → Option Table :=
  alter name fun
    | none              => some (.rows [[]])
    | some (.rows rows) => some (.rows ([] :: rows))
    | _ => none

-- Whether dotted keys may go on in a table; `last` tells that the assigned key stands right in it.
def admitsDotted (origin : Origin) (last : Bool) : Bool :=
  origin == .dotted || (origin == .implied && !last)

-- Assigns a value to a dotted key that has none.
def assign (d : Data) : List String → Table → Option Table
  | [] => fun _ => none
  | [name] => alter name fun
    | none   => some (.leaf d)
    | some _ => none
  | name :: path => alter name fun
    | none => .table .dotted <$> assign d path []
    | some (.table origin t) =>
      if admitsDotted origin (path.length == 1) then .table origin <$> assign d path t else none
    | some (.rows (row :: rows)) =>
      if path.length = 1 then
        none
      else do
        return .rows ((← assign d path row) :: rows)
    | _ => none

end Table

end RequestQuery.Toml
