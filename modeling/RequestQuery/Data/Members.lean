import RequestQuery.Data.Basic

namespace RequestQuery

-- What is done with a list that is longer than the structure read from it.
inductive Surplus
  | refused
  | ignored
  deriving DecidableEq

namespace Data

-- The value of each member by its name. A list has to hold at least the first `required` of them; a
-- record must not hold one of them twice.
def members? (surplus : Surplus) (names : List String) (required : Nat) :
    Data → Option (String → Option Data)
  | record members =>
    if names.all fun name => members.countP (·.1 == name) ≤ 1 then
      some fun name => members.lookup name
    else
      none
  | list items =>
    if required ≤ items.length ∧ (items.length ≤ names.length ∨ surplus = .ignored) then
      some fun name => items[names.idxOf name]?
    else
      none
  | _ => none

def text? : Data → Option String
  | text s => some s
  | _      => none

def boolean? : Data → Option Bool
  | boolean b => some b
  | _         => none

def size? : Data → Option UInt64
  | integer n => if 0 ≤ n ∧ n < UInt64.size then some (.ofNat n.toNat) else none
  | _         => none

def list? : Data → Option (List Data)
  | list items => some items
  | _          => none

def texts? (d : Data) : Option (List String) :=
  d.list? >>= List.mapM text?

-- A member that may be left out.
def orElse {α : Type} (read : Data → Option α) (absent : α) : Option Data → Option α
  | none   => some absent
  | some d => read d

-- A text or null.
def optionalText? : Data → Option (Option String)
  | null => some none
  | d    => some <$> d.text?

-- One of some named cases, written as its name or as a record with null under its name.
def case? {α : Type} (cases : List α) (name : α → String) : Data → Option α
  | text s             => cases.find? (name · == s)
  | record [(s, null)] => cases.find? (name · == s)
  | _                  => none

end Data

end RequestQuery
