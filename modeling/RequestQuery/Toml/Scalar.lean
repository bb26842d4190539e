import RequestQuery.Data.Basic
import RequestQuery.Decimal.Binary64
import RequestQuery.Text.Hex

namespace RequestQuery.Toml.Scalar

open Decimal

-- Digits in groups that single underscores join.
def ungrouped? (isDigit : Char → Bool) (cs : List Char) : Option (List Char) :=
  let groups := cs.splitOn '_'
  if groups.all fun group => !group.isEmpty && group.all isDigit then some groups.flatten else none

def digits? (cs : List Char) : Option (List Digit) := do
  (← ungrouped? Char.isDigit cs).mapM Digit.ofChar?

-- Digits without a zero in front of others.
def wholeDigits? (cs : List Char) : Option (List Digit) := do
  let ds ← digits? cs
  if ds.length = 1 ∨ ds.head?.map Fin.val ≠ some 0 then some ds else none

def withinRange (n : Int) : Bool :=
  -0x80000000000000000000000000000000 ≤ n && n ≤ 0xFFFFFFFFFFFFFFFFFFFFFFFFFFFFFFFF

def inBase? (base : Nat) (cs : List Char) : Option Data := do
  let isDigit c := (Text.Hex.digit? c).any (·.val < base)
  let n := ((← ungrouped? isDigit cs).filterMap Text.Hex.digit?).foldl (fun n d => base * n + d.val) 0
  if withinRange n then some (.integer n) else none

def integer? : List Char → Option Data
  | '0' :: 'x' :: cs => inBase? 16 cs
  | '0' :: 'o' :: cs => inBase? 8 cs
  | '0' :: 'b' :: cs => inBase? 2 cs
  | cs => do
    let (sign, cs) := Sign.scan cs
    let n := Sign.apply sign (Digit.value (← wholeDigits? cs))
    if withinRange n then some (.integer n) else none

def isExponentMark (c : Char) : Bool :=
  c == 'e' || c == 'E'

-- Digits alone, however many, are an integer.
def isFloatMark (c : Char) : Bool :=
  c == '.' || isExponentMark c

def fraction? : List Char → Option (Option (List Digit))
  | []      => some none
  | _ :: cs => some <$> digits? cs

def exponent? : List Char → Option (Option Exponent)
  | []      => some none
  | _ :: cs => do
    let (sign, cs) := Sign.scan cs
    return some ⟨sign, ← digits? cs⟩

def float? (cs : List Char) : Option Data := do
  let (sign, cs) := Sign.scan cs
  if cs = "inf".toList ∨ cs = "nan".toList then
    return .foreign
  guard (cs.any isFloatMark)
  let mantissa := cs.takeWhile (!isExponentMark ·)
  let literal : Literal := {
    sign
    whole    := ← wholeDigits? (mantissa.takeWhile (· != '.'))
    fraction := ← fraction? (mantissa.dropWhile (· != '.'))
    exponent := ← exponent? (cs.dropWhile (!isExponentMark ·))
  }
  if (Binary64.ofLiteral? literal).isSome then some (.decimal literal) else none

-- A number of so many digits, in the range given, and what follows it.
def field? (width first last : Nat) (cs : List Char) : Option (Nat × List Char) := do
  let ds ← (cs.take width).mapM Digit.ofChar?
  let n := Digit.value ds
  if ds.length = width ∧ first ≤ n ∧ n ≤ last then some (n, cs.drop width) else none

def mark? (c : Char) (cs : List Char) : Option (List Char) :=
  if cs.head? = some c then some cs.tail else none

def daysInMonth (year month : Nat) : Nat :=
  if month = 2 then
    if year % 4 = 0 ∧ (year % 100 ≠ 0 ∨ year % 400 = 0) then 29 else 28
  else if month = 4 ∨ month = 6 ∨ month = 9 ∨ month = 11 then 30
  else 31

def date? (cs : List Char) : Option (List Char) := do
  let (year, cs) ← field? 4 0 9999 cs
  let (month, cs) ← field? 2 1 12 (← mark? '-' cs)
  let (_, cs) ← field? 2 1 (daysInMonth year month) (← mark? '-' cs)
  return cs

-- The seconds may be left out; only behind them there may be a fraction.
def time? (cs : List Char) : Option (List Char) := do
  let (_, cs) ← field? 2 0 23 cs
  let (_, cs) ← field? 2 0 59 (← mark? ':' cs)
  match mark? ':' cs with
  | none => return cs
  | some cs =>
    let (_, cs) ← field? 2 0 60 cs
    match mark? '.' cs with
    | none => return cs
    | some cs =>
      guard (cs.head?.any Char.isDigit)
      return cs.dropWhile Char.isDigit

-- `Z` or hours and minutes.
def isOffset : List Char → Bool
  | ['Z'] | ['z'] => true
  | sign :: cs =>
    (sign == '+' || sign == '-') && (do
      let (_, cs) ← field? 2 0 23 cs
      let (_, cs) ← field? 2 0 59 (← mark? ':' cs)
      return cs).any List.isEmpty
  | [] => false

def isMoment (cs : List Char) : Bool :=
  match date? cs with
  | some [] => true
  | some (c :: cs) =>
    (c == 'T' || c == 't' || c == ' ') && (time? cs).any fun rest => rest.isEmpty || isOffset rest
  | none => (time? cs).any List.isEmpty

-- The value of a word. A date or time reads as a structure that has no member asked for.
def ofWord? (cs : List Char) : Option Data :=
  if cs = "true".toList then some (.boolean true)
  else if cs = "false".toList then some (.boolean false)
  else if isMoment cs then some (.record [])
  else (integer? cs).or (float? cs)

end RequestQuery.Toml.Scalar
