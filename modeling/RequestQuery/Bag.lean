import RequestQuery.Text.Hex
import RequestQuery.Text.Utf8
import RequestQuery.SortedMap
import RequestQuery.Given

namespace RequestQuery

namespace Form

def percentDecoded : List UInt8 → List UInt8
  | b :: hi :: lo :: rest =>
    match escaped? b hi lo with
    | some byte => byte :: percentDecoded rest
    | none      => b :: percentDecoded (hi :: lo :: rest)
  | bs => bs
where
  escaped? (mark hi lo : UInt8) : Option UInt8 := do
    guard (mark == '%'.toUInt8)
    let hi ← Text.Hex.digit? (Char.ofUInt8 hi)
    let lo ← Text.Hex.digit? (Char.ofUInt8 lo)
    return UInt8.ofNat (16 * hi + lo)

-- A name or a value. Bytes that are not UTF-8 become U+FFFD.
def component (bytes : List UInt8) : String :=
  .ofList <| Text.Utf8.decodeLossy <| percentDecoded <|
    bytes.map fun b => if b = '+'.toUInt8 then ' '.toUInt8 else b

-- Cuts at the first `=`; without one the value is empty.
def pair (bytes : List UInt8) : String × String :=
  (component (bytes.takeWhile (· ≠ '='.toUInt8)),
   component ((bytes.dropWhile (· ≠ '='.toUInt8)).drop 1))

def pairs (query : List Char) : List (String × String) :=
  (((Text.Utf8.encode query).splitOn '&'.toUInt8).filter (!·.isEmpty)).map pair

end Form

structure Bag where
  values : SortedMap (List String) := ∅
  deriving DecidableEq

namespace Bag

def push (bag : Bag) (name value : String) : Bag where
  values := bag.values.insert name ((bag.values.get? name).getD [] ++ [value])

def ofPairs (pairs : List (String × String)) : Bag :=
  pairs.foldl (fun bag pair => bag.push pair.1 pair.2) {}

-- One question mark in front does not belong to the query.
def ofQuery (query : String) : Bag :=
  match query.toList with
  | '?' :: cs => ofPairs (Form.pairs cs)
  | cs        => ofPairs (Form.pairs cs)

def names (bag : Bag) : List String :=
  bag.values.keys

def contains (bag : Bag) (name : String) : Bool :=
  bag.values.contains name

def get (bag : Bag) (name : String) : Given :=
  .ofList ((bag.values.get? name).getD [])

end Bag

end RequestQuery
