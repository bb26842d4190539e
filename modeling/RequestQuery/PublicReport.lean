import RequestQuery.Rejection

namespace RequestQuery

inductive PublicCode
  | parseError
  | missingParameter
  | validationError
  | typeError
  | invalidInput
  | constraintViolation
  | internalError
  deriving DecidableEq

namespace PublicCode

inductive Category
  | grammar
  | validation
  | system
  deriving DecidableEq

def Category.all : List Category :=
  [grammar, validation, system]

def Category.name : Category → String
  | grammar    => "Syntax"
  | validation => "Validation"
  | system     => "System"

def all : List PublicCode :=
  [parseError, missingParameter, validationError, typeError, invalidInput, constraintViolation,
   internalError]

def name : PublicCode → String
  | parseError          => "ParseError"
  | missingParameter    => "MissingParameter"
  | validationError     => "ValidationError"
  | typeError           => "TypeError"
  | invalidInput        => "InvalidInput"
  | constraintViolation => "ConstraintViolation"
  | internalError       => "InternalError"

def number : PublicCode → Nat
  | parseError          => 101
  | missingParameter    => 103
  | validationError     => 300
  | typeError           => 301
  | invalidInput        => 302
  | constraintViolation => 303
  | internalError       => 900

def category (code : PublicCode) : Category :=
  if 100 ≤ code.number ∧ code.number < 200 then .grammar
  else if 300 ≤ code.number ∧ code.number < 400 then .validation
  else .system

-- Whatever is wrong with the request itself is the client's to mend.
def httpStatus (code : PublicCode) : Nat :=
  match code.category with
  | .grammar | .validation => 400
  | .system => 500

end PublicCode

def Cause.Kind.publicCode : Cause.Kind → PublicCode
  | missingParameter    => .missingParameter
  | duplicateParameter  => .invalidInput
  | unknownField        => .validationError
  | malformedClause     => .parseError
  | unsupportedArgument => .invalidInput
  | notANumber          => .typeError
  | outOfRange          => .constraintViolation

theorem Cause.Kind.publicCode_httpStatus (k : Kind) : k.publicCode.httpStatus = 400 := by
  cases k <;> rfl

structure PublicReport where
  code    : PublicCode
  message : String
  deriving DecidableEq

namespace PublicReport

def httpStatus (r : PublicReport) : Nat :=
  r.code.httpStatus

def toData (r : PublicReport) : Data :=
  .record [("code", .text r.code.name), ("message", .text r.message)]

def ofData? (surplus : Surplus) (d : Data) : Option PublicReport := do
  let member ← d.members? surplus ["code", "message"] 2
  return {
    code    := ← member "code" >>= Data.case? PublicCode.all PublicCode.name
    message := ← member "message" >>= Data.text?
  }

end PublicReport

def Rejection.publicReport (r : Rejection) : PublicReport where
  code    := r.kind.publicCode
  message := r.message

end RequestQuery
