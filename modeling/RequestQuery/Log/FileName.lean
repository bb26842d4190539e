import RequestQuery.Decimal.Literal

namespace RequestQuery.Log.FileName

open Decimal

def ofPart (base part : String) : String :=
  (if base.isEmpty then "r" else base ++ "_r") ++ part ++ ".log"

def current (base : String) : String :=
  ofPart base "CURRENT"

-- The number has five digits, or more if it needs them.
def numbered (base : String) (n : Nat) : String :=
  let ds := Digit.ofNat n
  ofPart base (.ofList (.replicate (5 - ds.length) '0' ++ ds.map Digit.char))

-- What comes before the extension, if that is the one.
def stem? (extension : String) (name : String) : Option (List Char) :=
  let ending := '.' :: extension.toList
  let stem := name.toList.take (name.length - ending.length)
  if !stem.isEmpty && name.toList = stem ++ ending then some stem else none

-- The part of a stem behind the base and the character after it, up to a point.
def part (base : String) (stem : List Char) : List Char :=
  (if base.isEmpty then stem else stem.drop (base.length + 1)).takeWhile (· != '.')

-- The letter, a digit and anything more.
def isNumberedPart : List Char → Bool
  | 'r' :: c :: _ :: _ => c.isDigit
  | _ => false

def isPutAside (base extension name : String) : Bool :=
  base.toList.isPrefixOf name.toList
    && (stem? extension name).any fun stem => isNumberedPart (part base stem)

-- The names of files put aside, packed ones last, and otherwise from the last name to the first.
def putAside (base : String) (names : List String) : List String :=
  ["log", "gz"].flatMap fun extension =>
    (names.filter (isPutAside base extension)).mergeSort fun a b => !(a < b)

-- What follows the last mark of a number, from the last character to the first.
def behindMark : List Char → List Char
  | 'r' :: '_' :: _ => []
  | c :: cs => c :: behindMark cs
  | [] => []

-- A plus sign may stand in front; the number has to fit into 32 bits.
def number? (cs : List Char) : Option Nat := do
  let ds ← (if cs.head? = some '+' then cs.tail else cs).mapM Digit.ofChar?
  guard (!ds.isEmpty && Digit.value ds < UInt32.size)
  return Digit.value ds

-- The number in a name of a file put aside. What reads as no number counts as zero.
def number (base name : String) : Nat :=
  let stem := (name.toList.reverse.dropWhile (· != '.')).tail
  let digits := if base.isEmpty then stem.reverse.tail else (behindMark stem).reverse
  (number? digits).getD 0

-- The number behind the highest one.
def nextNumber (base : String) (names : List String) : Nat :=
  match ((putAside base names).map (number base)).max? with
  | some n => n + 1
  | none   => 0

end RequestQuery.Log.FileName
