import RequestQuery.Filter.Clause

namespace RequestQuery

abbrev Filter := SortedMap Predicate

namespace Filter

-- Of two clauses on one field the later one holds.
def ofClauses (clauses : List Clause) : Filter :=
  .ofList (clauses.filterMap Clause.condition?)

def ofText (entity : Entity) (text : String) : Except Rejection Filter :=
  ofClauses <$> (text.toList.splitOn '&').mapM (Clause.ofText entity)

def ofGiven (entity : Entity) (given : Given) : Except Rejection Filter :=
  given.sole Parameter.filter.name >>= ofText entity

-- The clauses that ask for the same, in the order of the fields.
def clauses (filter : Filter) : List String :=
  filter.entries.map fun (field, predicate) => predicate.clause field

def text (filter : Filter) : String :=
  "&".intercalate filter.clauses

def toData (filter : Filter) : Data :=
  .record (filter.entries.map fun (field, predicate) => (field, predicate.toData))

end Filter

end RequestQuery
