import RequestQuery.Data.Members

namespace RequestQuery

inductive Cause
  | missing (parameter : String)
  | repeated (parameter : String)
  | unknownField (field entity : String)
  | malformedClause (clause : String)
  | malformedOrder (text : String)
  | unsupported (token parameter : String)
  | notANumber (text : String)
  | outOfRange (parameter text : String)
  deriving DecidableEq

-- The kinds of causes; the two malformed ones are of one kind.
inductive Cause.Kind
  | missingParameter
  | duplicateParameter
  | unknownField
  | malformedClause
  | unsupportedArgument
  | notANumber
  | outOfRange
  deriving DecidableEq

namespace Cause

def Kind.all : List Kind :=
  [missingParameter, duplicateParameter, unknownField, malformedClause, unsupportedArgument,
   notANumber, outOfRange]

def Kind.name : Kind → String
  | missingParameter    => "MissingParameter"
  | duplicateParameter  => "DuplicateParameter"
  | unknownField        => "UnknownField"
  | malformedClause     => "MalformedClause"
  | unsupportedArgument => "UnsupportedArgument"
  | notANumber          => "NotANumber"
  | outOfRange          => "OutOfRange"

def Kind.description : Kind → String
  | missingParameter    => "missing parameter"
  | duplicateParameter  => "duplicate parameter"
  | unknownField        => "unknown field"
  | malformedClause     => "malformed clause"
  | unsupportedArgument => "unsupported argument"
  | notANumber          => "not a number"
  | outOfRange          => "out of range"

def kind : Cause → Kind
  | missing _        => .missingParameter
  | repeated _       => .duplicateParameter
  | unknownField _ _ => .unknownField
  | malformedClause _ | malformedOrder _ => .malformedClause
  | unsupported _ _  => .unsupportedArgument
  | notANumber _     => .notANumber
  | outOfRange _ _   => .outOfRange

def message : Cause → String
  | missing parameter => s!"The value of {parameter} parameter is empty"
  | repeated parameter =>
    s!"Multiple {parameter} parameters are provided, only one {parameter} is supported"
  | unknownField field entity => s!"The {field} is not a valid field in the {entity}"
  | malformedClause clause => s!"The {clause} is not a valid filter"
  | malformedOrder text => s!"Invalid orderBy parameter: {text}"
  | unsupported token parameter => s!"The {token} is not supported in {parameter} parameter"
  | notANumber text => s!"The {text} is not a valid number"
  | outOfRange parameter text =>
    s!"The {text} is not a valid {parameter}, a non-negative integer is required"

-- The parameter a cause speaks of itself.
def parameter? : Cause → Option String
  | missing parameter | repeated parameter | unsupported _ parameter | outOfRange parameter _ =>
    some parameter
  | _ => none

end Cause

structure Rejection where
  message   : String
  kind      : Cause.Kind
  parameter : Option String := none
  deriving DecidableEq

namespace Rejection

def within (r : Rejection) (parameter : String) : Rejection :=
  { r with parameter := some parameter }

def text (r : Rejection) : String :=
  s!"{r.kind.description}: {r.message}"

def toData (r : Rejection) : Data :=
  .record [("message", .text r.message), ("error_type", .text r.kind.name),
    ("context", r.parameter.elim .null .text)]

def ofData? (surplus : Surplus) (d : Data) : Option Rejection := do
  let member ← d.members? surplus ["message", "error_type", "context"] 3
  return {
    message   := ← member "message" >>= Data.text?
    kind      := ← member "error_type" >>= Data.case? Cause.Kind.all Cause.Kind.name
    parameter := ← Data.orElse Data.optionalText? none (member "context")
  }

end Rejection

def Cause.rejection (c : Cause) : Rejection where
  message   := c.message
  kind      := c.kind
  parameter := c.parameter?

theorem Cause.rejection_kind (c : Cause) : c.rejection.kind = c.kind :=
  rfl

end RequestQuery
