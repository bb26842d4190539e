import RequestQuery.Text.Blank
import RequestQuery.Text.CaseFolding
import RequestQuery.Text.Category

namespace RequestQuery

-- A set told by the code points where membership changes, so that each set has one form.
structure CharSet where
  -- in ascending order; what comes before the first is no member
  changes : List Nat
  deriving DecidableEq

namespace CharSet

def contains (s : CharSet) (c : Char) : Bool :=
  go false s.changes
where
  go (inside : Bool) : List Nat → Bool
    | []      => inside
    | n :: ns => if c.toNat < n then inside else go (!inside) ns

-- A change on the way, if the outcome is not what it was.
def step (n : Nat) (before after : Bool) (rest : List Nat) : List Nat :=
  if before = after then rest else n :: rest

-- Where the outcome of an operation changes, from a place on where membership is known. Beyond the last
-- change of one set, the outcome changes with the other set or not at all.
def merge (op : Bool → Bool → Bool) (a b : Bool) : List Nat → List Nat → List Nat
  | [], t => if op a true = op a false then [] else t
  | s, [] => if op true b = op false b then [] else s
  | m :: s, n :: t =>
    if m < n then
      step m (op a b) (op (!a) b) (merge op (!a) b s (n :: t))
    else if n < m then
      step n (op a b) (op a (!b)) (merge op a (!b) (m :: s) t)
    else
      step m (op a b) (op (!a) (!b)) (merge op (!a) (!b) s t)
  termination_by s t => s.length + t.length

-- The members are told by whether they are members of either set.
def combine (op : Bool → Bool → Bool) (s t : CharSet) : CharSet :=
  ⟨merge op false false s.changes t.changes⟩

instance : Union CharSet :=
  ⟨combine or⟩

instance : Inter CharSet :=
  ⟨combine and⟩

instance : SDiff CharSet :=
  ⟨combine fun a b => a && !b⟩

-- What is in one of two sets only.
def apart (s t : CharSet) : CharSet :=
  combine xor s t

def nothing : CharSet :=
  ⟨[]⟩

def unions (sets : List CharSet) : CharSet :=
  sets.foldr (· ∪ ·) nothing

-- From a first to a last code point for each range.
def listed (ranges : List (Nat × Nat)) : CharSet :=
  unions (ranges.map fun (first, last) => ⟨[first, last + 1]⟩)

def points (ns : List Nat) : CharSet :=
  listed (ns.map fun n => (n, n))

-- All code points but the surrogates, which are no characters.
def everything : CharSet :=
  listed [(0, 0xD7FF), (0xE000, 0x10FFFF)]

def inverse (s : CharSet) : CharSet :=
  everything \ s

def range (first last : Char) : CharSet :=
  everything ∩ listed [(first.toNat, last.toNat)]

def single (c : Char) : CharSet :=
  range c c

def ofRanges (ranges : List (Char × Char)) : CharSet :=
  unions (ranges.map fun (first, last) => range first last)

-- Every other code point of a range, from the first one on.
def alternate (first last : Nat) : CharSet :=
  points ((List.range ((last - first) / 2 + 1)).map (first + 2 * ·))

def ofCategory : Text.Category → CharSet
  | .cn => (unions (Text.Category.all.map assigned)).inverse
  | k   => everything ∩ assigned k
where
  assigned (k : Text.Category) : CharSet :=
    listed k.ranges ∪ unions (k.sparseRanges.map fun (first, last) => alternate first last)

def ofCategories (categories : List Text.Category) : CharSet :=
  unions (categories.map ofCategory)

-- First and last code point of each range of members.
def ranges (s : CharSet) : List (Nat × Nat) :=
  pairs s.changes
where
  pairs : List Nat → List (Nat × Nat)
    | first :: next :: ns => (first, next - 1) :: pairs ns
    | _                   => []

-- The member of a set that has only one.
def sole? (s : CharSet) : Option Char :=
  match s.ranges with
  | [(first, last)] => if first = last then some (.ofNat first) else none
  | _               => none

-- Whatever differs from a member in case alone, and the members.
def anyCase (s : CharSet) : CharSet :=
  let has (s : CharSet) (n : Nat) := s.contains (.ofNat n)
  let pairs := Text.CaseFolding.pairs
  let targets := points ((pairs.filter fun (n, target) => has s n || has s target).map (·.2))
  let sources := points ((pairs.filter fun (_, target) => has targets target).map (·.1))
  s ∪ (targets ∪ sources)

def letter : CharSet :=
  ofCategories [.lu, .ll, .lt, .lm, .lo]

def digit : CharSet :=
  ofCategory .nd

def blank : CharSet :=
  listed Text.blankRanges

-- Letters, marks, digits, letter numbers and enclosed letters, connecting punctuation and joiners.
def word : CharSet :=
  unions [letter, ofCategories [.mn, .mc, .me, .nd, .nl, .pc],
    listed [(0x24B6, 0x24E9), (0x1F130, 0x1F149), (0x1F150, 0x1F169), (0x1F170, 0x1F189)],
    listed [(0x200C, 0x200D)]]

def ascii : CharSet :=
  range '\x00' '\x7F'

def asciiDigit : CharSet :=
  range '0' '9'

def asciiWord : CharSet :=
  ofRanges [('0', '9'), ('A', 'Z'), ('_', '_'), ('a', 'z')]

def asciiBlank : CharSet :=
  ofRanges [('\t', '\r'), (' ', ' ')]

-- The set of a name between colons.
def ascii? (name : String) : Option CharSet :=
  match name with
  | "alnum"  => some (ofRanges [('0', '9'), ('A', 'Z'), ('a', 'z')])
  | "alpha"  => some (ofRanges [('A', 'Z'), ('a', 'z')])
  | "ascii"  => some ascii
  | "blank"  => some (ofRanges [('\t', '\t'), (' ', ' ')])
  | "cntrl"  => some (ofRanges [('\x00', '\x1F'), ('\x7F', '\x7F')])
  | "digit"  => some asciiDigit
  | "graph"  => some (range '!' '~')
  | "lower"  => some (range 'a' 'z')
  | "print"  => some (range ' ' '~')
  | "punct"  => some (ofRanges [('!', '/'), (':', '@'), ('[', '`'), ('\x7B', '~')])
  | "space"  => some asciiBlank
  | "upper"  => some (range 'A' 'Z')
  | "word"   => some asciiWord
  | "xdigit" => some (ofRanges [('0', '9'), ('A', 'F'), ('a', 'f')])
  | _        => none

end CharSet

end RequestQuery
