import RequestQuery.Text.Blank
import RequestQuery.Text.Shape
import RequestQuery.Given
import RequestQuery.Schema.Entity
import RequestQuery.Filter.Predicate

namespace RequestQuery

namespace Clause

def isWordChar (c : Char) : Bool :=
  c.isAlphanum || c == '_'

def isValueChar (c : Char) : Bool :=
  isWordChar c || c == '(' || c == ')' || c == ',' || c == '\''

-- A word, a symbol and value characters one behind the other.
def joint : Text.Shape :=
  [{ kind := isWordChar }, { kind := isWordChar, repeated := true },
   { kind := Comparison.isSymbol, kept := true },
   { kind := isValueChar }, { kind := isValueChar, repeated := true }]

-- Whatever stands around the leftmost joint makes no difference.
def comparison? (cs : List Char) : Option Comparison :=
  match joint.find? cs with
  | some [symbol] => Comparison.ofSymbol? symbol
  | _ => none

def field (cs : List Char) : List Char :=
  Text.trim <| (cs.splitOnP Comparison.isSymbol)[0]?.getD []

def value (cs : List Char) : List Char :=
  Text.trim <| (cs.splitOnP Comparison.isSymbol)[1]?.getD []

def unquoted (cs : List Char) : List Char :=
  cs.filter (· != '\'')

-- A list `in (…)`, of which what stands between the parentheses is kept. It ends at the last closing
-- parenthesis of its first line; what follows is not looked at.
def list : Text.Shape :=
  [{ kind := (· == 'i') }, { kind := (· == 'n') }, { kind := Text.isBlank, repeated := true },
   { kind := (· == '(') }, { kind := (· != '\n'), repeated := true, kept := true }, { kind := (· == ')') }]

def items? (cs : List Char) : Option (List (List Char)) :=
  (list.fit? cs).map fun body => (body.splitOn ',').map (Text.trim ∘ unquoted)

-- The bounds of `<` and `>` keep their quotes.
def predicate (comparison : Comparison) (value : List Char) : Predicate :=
  match comparison with
  | .equal =>
    match items? value with
    | some items => .oneOf (items.map .ofList)
    | none       => .equals (.ofList (unquoted value))
  | .less    => .lessThan (.ofList value)
  | .greater => .greaterThan (.ofList value)

end Clause

-- What a clause says: nothing if its value is blank, else a condition on a field.
inductive Clause
  | vacuous
  | condition (field : String) (predicate : Predicate)
  deriving DecidableEq

namespace Clause

def ofText (entity : Entity) (cs : List Char) : Except Rejection Clause :=
  match comparison? cs with
  | none => .error ((Cause.malformedClause (.ofList cs)).rejection.within Parameter.filter.name)
  | some comparison =>
    if (value cs).isEmpty then
      .ok vacuous
    else if entity.hasField (.ofList (field cs)) then
      .ok (condition (.ofList (field cs)) (predicate comparison (value cs)))
    else
      .error ((Cause.unknownField (.ofList (field cs)) entity.name).rejection.within Parameter.filter.name)

def condition? : Clause → Option (String × Predicate)
  | vacuous => none
  | condition field predicate => some (field, predicate)

end Clause

end RequestQuery
