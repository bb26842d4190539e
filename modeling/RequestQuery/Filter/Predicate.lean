import RequestQuery.Data.Basic

namespace RequestQuery

-- The comparison a clause is written with.
inductive Comparison
  | equal
  | less
  | greater
  deriving DecidableEq

namespace Comparison

def symbol : Comparison → Char
  | equal   => '='
  | less    => '<'
  | greater => '>'

def ofSymbol? : Char → Option Comparison
  | '=' => some equal
  | '<' => some less
  | '>' => some greater
  | _   => none

@[simp]
theorem ofSymbol?_symbol (c : Comparison) : ofSymbol? c.symbol = some c := by
  cases c <;> rfl

theorem ofSymbol?_eq_some_iff {x : Char} {c : Comparison} :
    ofSymbol? x = some c ↔ x = c.symbol where
  mp h := by
    unfold ofSymbol? at h
    split at h <;> cases h <;> rfl
  mpr h := h ▸ ofSymbol?_symbol c

def isSymbol (x : Char) : Bool :=
  (ofSymbol? x).isSome

end Comparison

inductive Predicate
  | equals (value : String)
  | oneOf (values : List String)
  | lessThan (bound : String)
  | greaterThan (bound : String)
  deriving DecidableEq

namespace Predicate

-- A list is written behind the symbol of equality.
def comparison : Predicate → Comparison
  | equals _ | oneOf _ => .equal
  | lessThan _         => .less
  | greaterThan _      => .greater

-- The value or the list as it stands behind the symbol. Single quotes keep a value that looks like a
-- list apart from a list.
def operand : Predicate → List Char
  | equals value => quoted value
  | oneOf values => "in(".toList ++ [','].intercalate (values.map quoted) ++ [')']
  | lessThan bound | greaterThan bound => bound.toList
where
  quoted (value : String) : List Char :=
    '\'' :: value.toList ++ ['\'']

def clause (field : String) (p : Predicate) : String :=
  .ofList (field.toList ++ p.comparison.symbol :: p.operand)

def toData : Predicate → Data
  | equals value      => .text value
  | oneOf values      => .list (values.map .text)
  | lessThan bound    => .record [("lt", .text bound)]
  | greaterThan bound => .record [("gt", .text bound)]

end Predicate

end RequestQuery
