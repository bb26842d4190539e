import RequestQuery.Decimal.Literal

namespace RequestQuery

inductive Data
  | null
  | boolean (b : Bool)
  | integer (n : Int)
  -- any other decimal number, as written
  | decimal (literal : Decimal.Literal)
  | text (s : String)
  | list (items : List Data)
  -- a name may occur more than once
  | record (members : List (String × Data))
  -- a well-formed value that nothing here is read from
  | foreign

namespace Data

-- The integer or decimal that a literal denotes. A minus before zero is kept by staying a decimal.
def ofLiteral (l : Decimal.Literal) : Data :=
  match l.integer? with
  | some n => if n = 0 ∧ l.negative then decimal l else integer n
  | none   => decimal l

end Data

end RequestQuery
