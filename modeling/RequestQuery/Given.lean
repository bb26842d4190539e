import RequestQuery.Rejection

namespace RequestQuery

inductive Parameter
  | filter
  | order
  | limit
  | offset
  deriving DecidableEq

def Parameter.name : Parameter → String
  | filter => "filter"
  | order  => "orderBy"
  | limit  => "limit"
  | offset => "offset"

inductive Given
  | missing
  | once (value : String)
  | repeated (values : List String)
  deriving DecidableEq

namespace Given

def ofList : List String → Given
  | []    => missing
  | [v]   => once v
  | v₁ :: v₂ :: vs => repeated (v₁ :: v₂ :: vs)

-- The one value of the parameter; an empty one counts as none.
def sole (given : Given) (parameter : String) : Except Rejection String :=
  match given with
  | missing    => .error (Cause.missing parameter).rejection
  | repeated _ => .error (Cause.repeated parameter).rejection
  | once value =>
    if value.isEmpty then .error (Cause.missing parameter).rejection else .ok value

end Given

end RequestQuery
