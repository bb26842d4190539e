import RequestQuery.Pattern.CharSet

namespace RequestQuery

-- How a place lies to a word, that is to a run of characters of some set.
inductive WordEdge
  | edge
  | noEdge
  | first
  | last
  -- no word comes before
  | leftOpen
  -- no word comes after
  | rightOpen
  deriving DecidableEq

def WordEdge.holds : WordEdge → (before after : Bool) → Bool
  | edge, before, after   => before != after
  | noEdge, before, after => before == after
  | first, before, after  => !before && after
  | last, before, after   => before && !after
  | leftOpen, before, _   => !before
  | rightOpen, _, after   => !after

-- What a place between two characters may be asked for.
inductive Boundary
  | textStart
  | textEnd
  -- lines may end in a line feed, and with the flag in a carriage return or both as well
  | lineStart (returns : Bool)
  | lineEnd (returns : Bool)
  | word (kind : WordEdge) (characters : CharSet)
  deriving DecidableEq

-- Whether the place between two characters is one. At the ends of a text one of them is missing.
def Boundary.holds : Boundary → (before after : Option Char) → Bool
  | textStart, before, _          => before.isNone
  | textEnd, _, after             => after.isNone
  | lineStart false, before, _    => before.all (· == '\n')
  | lineStart true, before, after => before.all fun c => c == '\n' || (c == '\r' && after != '\n')
  | lineEnd false, _, after       => after.all (· == '\n')
  | lineEnd true, before, after   => after.all fun c => c == '\r' || (c == '\n' && before != '\r')
  | word kind s, before, after    => kind.holds (before.any s.contains) (after.any s.contains)

inductive Pattern
  | empty
  -- characters one behind the other
  | text (cs : List Char)
  | one (s : CharSet)
  | boundary (b : Boundary)
  | both (p q : Pattern)
  | either (p q : Pattern)
  -- without a most, as often as can be; eager or not, the same texts match
  | repeated (p : Pattern) (least : Nat) (most : Option Nat) (eager : Bool)
  -- what is kept of a match under a number
  | group (number : Nat) (p : Pattern)
  deriving DecidableEq

namespace Pattern

-- Which places of a text are meant, from the one before its first character to the one behind its last.
abbrev Marks := List Bool

namespace Marks

def union (a b : Marks) : Marks :=
  a.zipWith or b

def both (a b : Marks) : Marks :=
  a.zipWith and b

-- The places behind characters of a kind that have marked places before them.
def behind (kind : Char → Bool) (text : List Char) (marks : Marks) : Marks :=
  false :: marks.zipWith (fun marked c => marked && kind c) text

def ofBoundary (b : Boundary) (text : List Char) : Marks :=
  (none :: text.map some).zipWith b.holds (text.map some ++ [none])

-- The places reached by so many steps.
def after (step : Marks → Marks) : Nat → Marks → Marks
  | 0, marks     => marks
  | n + 1, marks => after step n (step marks)

-- The places reached by so many steps or fewer. Once nothing is added, nothing will be.
def within (step : Marks → Marks) : Nat → Marks → Marks
  | 0, marks => marks
  | n + 1, marks =>
    let next := marks.union (step marks)
    if next = marks then marks else within step n next

end Marks

-- The places where matches end that begin at marked ones. A text has one place more than characters, and
-- of more repetitions than places one at least is of nothing, so that their number makes no difference.
def ends (text : List Char) : Pattern → Marks → Marks
  | empty, marks      => marks
  | .text cs, marks   => cs.foldl (fun marks c => marks.behind (· == c) text) marks
  | one s, marks      => marks.behind s.contains text
  | boundary b, marks => marks.both (.ofBoundary b text)
  | both p q, marks   => ends text q (ends text p marks)
  | either p q, marks => (ends text p marks).union (ends text q marks)
  | repeated p least most _, marks =>
    let places := text.length + 1
    let more := match most with
      | some n => min (n - least) places
      | none   => places
    (marks.after (ends text p) (min least places)).within (ends text p) more
  | group _ p, marks => ends text p marks

def occursIn (p : Pattern) (text : List Char) : Bool :=
  (ends text p (.replicate (text.length + 1) true)).contains true

end Pattern

end RequestQuery
