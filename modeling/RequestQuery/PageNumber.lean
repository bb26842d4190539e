import RequestQuery.Text.Blank
import RequestQuery.Given
import RequestQuery.Decimal.Shortest

namespace RequestQuery

open Decimal

-- An integer of 64 bits, signed or not, is kept as it is. Any other number is rounded.
inductive PageNumber
  | integer (value : Int) (fits : -0x8000000000000000 ≤ value ∧ value ≤ 0xFFFFFFFFFFFFFFFF)
  | real (value : Binary64)
  deriving DecidableEq

namespace PageNumber

def ofLiteral? (l : Literal) : Option PageNumber :=
  let real? := (Binary64.ofLiteral? l).map real
  match l.integer? with
  | some n => if h : -0x8000000000000000 ≤ n ∧ n ≤ 0xFFFFFFFFFFFFFFFF then some (integer n h) else real?
  | none   => real?

def ofText? (text : String) : Option PageNumber :=
  Literal.ofChars? (Text.trim text.toList) >>= ofLiteral?

-- An integer that is not negative.
def isNatural : PageNumber → Bool
  | integer n _ => 0 ≤ n
  | real _      => false

def literal : PageNumber → Literal
  | integer n _ =>
    { sign := if n < 0 then some .minus else none, whole := Digit.ofNat n.natAbs }
  | real x => x.shortest

def text (n : PageNumber) : String :=
  .ofList n.literal.chars

def toData : PageNumber → Data
  | integer n _ => .integer n
  | real x      => .decimal x.shortest

-- The number given; under strict bounds it has to be natural.
def ofGiven (parameter : Parameter) (strict : Bool) (given : Given) :
    Except Rejection PageNumber := do
  let text ← given.sole parameter.name
  match ofText? text with
  | none => .error ((Cause.notANumber text).rejection.within parameter.name)
  | some n =>
    if strict && !n.isNatural then
      .error (Cause.outOfRange parameter.name text).rejection
    else
      .ok n

end PageNumber

end RequestQuery
