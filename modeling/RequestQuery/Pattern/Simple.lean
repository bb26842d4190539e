import RequestQuery.Pattern.Basic

namespace RequestQuery.Pattern

-- The length of the shortest texts that may match, unless a part that never matches stands in the way.
def least? : Pattern → Option Nat
  | empty | boundary _   => some 0
  | text cs              => some cs.length
  | one s                => if s = .nothing then none else some 1
  | both p q             => do return (← p.least?) + (← q.least?)
  | either p q           => do return min (← p.least?) (← q.least?)
  | repeated p least _ _ => (· * least) <$> p.least?
  | group _ p            => p.least?

-- The length of the longest texts that may match, unless a part that never matches stands in the way.
def most? : Pattern → Option Nat
  | empty | boundary _  => some 0
  | text cs             => some cs.length
  | one s               => if s = .nothing then none else some 1
  | both p q            => do return (← p.most?) + (← q.most?)
  | either p q          => do return max (← p.most?) (← q.most?)
  | repeated p _ most _ => do return (← p.most?) * (← most)
  | group _ p           => p.most?

-- The parts of a pattern that follow one behind the other.
def factors : Pattern → List Pattern
  | empty    => []
  | both p q => p.factors ++ q.factors
  | p        => [p]

-- The alternatives of a pattern.
def branches : Pattern → List Pattern
  | either p q => p.branches ++ q.branches
  | p          => [p]

def ofFactors : List Pattern → Pattern
  | []      => empty
  | [p]     => p
  | p :: ps => both p (ofFactors ps)

-- Without alternatives there is nothing that matches.
def ofBranches : List Pattern → Pattern
  | []      => one .nothing
  | [p]     => p
  | p :: ps => either p (ofBranches ps)

-- A set of one character is a text.
def ofSet (s : CharSet) : Pattern :=
  match s.sole? with
  | some c => text [c]
  | none   => one s

-- Puts a part in front, and a text in front of a text together with it.
def cons : Pattern → List Pattern → List Pattern
  | text cs, text ds :: ps => text (cs ++ ds) :: ps
  | p, ps                  => p :: ps

def inOrder (ps : List Pattern) : Pattern :=
  ofFactors ((ps.flatMap factors).foldr cons [])

def char? : Pattern → Option Char
  | text [c] => some c
  | _        => none

def set? : Pattern → Option CharSet
  | one s => some s
  | _     => none

-- The set that alternatives come to which are all characters, or all sets of them.
def chosen? (ps : List Pattern) : Option CharSet :=
  match ps.mapM char? with
  | some cs => some (.unions (cs.map .single))
  | none    => .unions <$> ps.mapM set?

-- What two lists begin with alike.
def shared : List Pattern → List Pattern → List Pattern
  | p :: ps, q :: qs => if p = q then p :: shared ps qs else []
  | _, _             => []

-- What all alternatives begin with, if each has several parts.
def opening (ps : List Pattern) : List Pattern :=
  let rows := ps.map factors
  match rows with
  | row :: rows => if row.length < 2 ∨ rows.any (·.length < 2) then [] else rows.foldl shared row
  | []          => []

-- Takes out what the alternatives begin with, at most so many times.
def anyOfWithin : Nat → List Pattern → Pattern
  | 0, ps => ofBranches ps
  | fuel + 1, ps =>
    let ps := ps.flatMap branches
    if ps.length < 2 then
      ofBranches ps
    else match chosen? ps with
      | some s => ofSet s
      | none =>
        match opening ps with
        | []    => ofBranches ps
        | front =>
          let behind := ps.map fun p => inOrder (p.factors.drop front.length)
          inOrder (front ++ [anyOfWithin fuel behind])

-- Of how many parts a pattern is put together.
def parts : Pattern → Nat
  | both p q | either p q           => p.parts + q.parts + 1
  | repeated p _ _ _ | group _ p    => p.parts + 1
  | _                               => 1

-- Each time a part at least is taken out.
def anyOf (ps : List Pattern) : Pattern :=
  anyOfWithin (ps.foldl (fun n p => n + p.parts) 0) ps

-- More than one match of nothing is one.
def times (p : Pattern) (least : Nat) (most : Option Nat) (eager : Bool) : Pattern :=
  let limited := p.most? = some 0
  let least := if limited then min least 1 else least
  let most := if limited then some (most.elim 1 (min · 1)) else most
  if most = some 0 then empty
  else if least = 1 ∧ most = some 1 then p
  else repeated p least most eager

end RequestQuery.Pattern
