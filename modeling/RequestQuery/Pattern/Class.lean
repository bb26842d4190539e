import RequestQuery.Pattern.Escape

namespace RequestQuery.Pattern.Class

-- A class that is still open.
structure Level where
  -- the bracket and what counts with it
  opening : Span
  negated : Bool
  -- what comes before the latest operator, and the operator
  before  : Option ((CharSet → CharSet → CharSet) × Part CharSet) := none
  -- where the members begin
  place   : Span
  -- the latest member first
  members : List (Part CharSet) := []

namespace Level

def add (level : Level) (s : Part CharSet) : Level :=
  { level with members := s :: level.members }

-- The members together stretch from the first to the last one.
def union (level : Level) : Part CharSet :=
  let span := match level.members, level.members.getLast? with
    | last :: _, some first => ⟨first.span.start, last.span.stop⟩
    | _, _                  => level.place
  .join .unions span level.members.reverse

-- Operators join from left to right.
def set (level : Level) : Part CharSet :=
  let right := level.union
  match level.before with
  | none => right
  | some (op, left) =>
    let span := ⟨left.span.start, right.span.stop⟩
    ⟨span, op <$> left.meaning <*> right.meaning, .node span [left.outline, right.outline]⟩

def operator (level : Level) (op : CharSet → CharSet → CharSet) (rest : List Char) : Level :=
  { level with before := some (op, level.set), place := .place rest, members := [] }

-- The class that a closing bracket completes.
def close (level : Level) (f : Flags) (rest : List Char) : Part CharSet :=
  let span : Span := { level.opening with stop := rest.length }
  level.set.around span fun s => s >>= if level.negated then f.inverse span else pure

end Level

def bounded (f : Flags) (c : Char) (byte : Bool) (span : Span) : Meaning Unit :=
  if f.ascii && 128 ≤ c.toNat then fail (if byte then .notText else .notAscii) span else .ok ()

def literal (f : Flags) (c : Char) (byte : Bool) (span : Span) : Part CharSet where
  span
  meaning := do
    bounded f c byte span
    return f.folded (.single c)

def item (f : Flags) : List Char → Except Fault (Item × List Char)
  | '\\' :: cs => Escape.read f ('\\' :: cs)
  | c :: cs     => .ok (.char c false, cs)
  | []          => fail .classUnclosed (.place [])

def alone (f : Flags) (span : Span) : Item → Except Fault (Part CharSet)
  | .char c byte => .ok (literal f c byte span)
  | .set s       => .ok ⟨span, s, .leaf⟩
  | .boundary _  => fail .classEscape span

def bound (span : Span) : Item → Except Fault (Char × Bool)
  | .char c byte => .ok (c, byte)
  | _            => fail .classBound span

-- A member of an open class, or a range of them. A hyphen before a bracket or another hyphen makes none.
def member (f : Flags) (opening : Span) (cs : List Char) :
    Except Fault (Part CharSet × List Char) := do
  let (i, rest) ← item f cs
  let start := Span.between cs rest
  match skip f rest with
  | [] => fail .classUnclosed opening
  | '-' :: behind =>
    match skip f behind with
    | [] => fail .classUnclosed opening
    | c :: behind =>
      if c = ']' ∨ c = '-' then
        return (← alone f start i, skip f rest)
      else
        let (j, rest) ← item f (c :: behind)
        let stop := Span.between (c :: behind) rest
        let (first, firstByte) ← bound start i
        let (last, lastByte) ← bound stop j
        let span := Span.between cs rest
        if last < first then
          fail .classRange span
        else
          let meaning : Meaning CharSet := do
            bounded f first firstByte start
            bounded f last lastByte stop
            return f.folded (.range first last)
          return ({ span, meaning }, rest)
  | rest => return (← alone f start i, rest)

-- A class by name, between brackets and colons.
def named? (f : Flags) (start : List Char) : Option (Part CharSet × List Char) :=
  match start with
  | '[' :: ':' :: cs => do
    let negated := cs.head? = some '^'
    let cs := if negated then cs.tail else cs
    let name := cs.takeWhile (· != ':')
    match cs.drop name.length with
    | ':' :: ']' :: rest =>
      let s := f.folded (← CharSet.ascii? (.ofList name))
      let span := Span.between start rest
      return ({ span, meaning := if negated then f.inverse span s else .ok s }, rest)
    | _ => none
  | _ => none

-- What stands at the beginning of a class: a caret negates it; then hyphens, or else a closing bracket,
-- are members.
def openLevel (f : Flags) (cs : List Char) : Except Fault (Level × List Char) :=
  let inside := skip f cs.tail
  let negated := inside.head? = some '^'
  let inside := if negated then skip f inside.tail else inside
  let (hyphens, rest) := takeKind f (· == '-') false inside
  if hyphens.isEmpty then
    let closing := rest.head? = some ']'
    let rest := if closing then skip f rest.tail else rest
    if rest.isEmpty then
      fail .classUnclosed (.between cs rest)
    else
      .ok (level negated inside rest (if closing then 1 else 0) ']', rest)
  else if rest.isEmpty then
    fail .classUnclosed (.place cs)
  else
    .ok (level negated inside rest hyphens.length '-', rest)
where
  -- With members that stand right behind each other.
  level (negated : Bool) (inside rest : List Char) (count : Nat) (c : Char) : Level := {
    opening := .between cs rest
    negated
    place   := .place inside
    members := (List.range count).reverse.map fun i => literal f c false (.head (inside.drop i))
  }

-- Reads on in a class, within the ones around it. Each step goes over one character at least.
def readOn (f : Flags) : Nat → List Level → Level → List Char →
    Except Fault (Part CharSet × List Char)
  | 0, _, level, _ => fail .classUnclosed level.opening
  | fuel + 1, outer, level, cs =>
    match skip f cs with
    | [] => fail .classUnclosed level.opening
    | '[' :: cs =>
      match named? f ('[' :: cs) with
      | some (s, rest) => readOn f fuel outer (level.add s) rest
      | none => do
        let (inner, rest) ← openLevel f ('[' :: cs)
        readOn f fuel (level :: outer) inner rest
    | ']' :: rest =>
      let s := level.close f rest
      match outer with
      | []              => .ok (s, rest)
      | parent :: outer => readOn f fuel outer (parent.add s) rest
    | '&' :: '&' :: rest => readOn f fuel outer (level.operator (· ∩ ·) rest) rest
    | '-' :: '-' :: rest => readOn f fuel outer (level.operator (· \ ·) rest) rest
    | '~' :: '~' :: rest => readOn f fuel outer (level.operator .apart rest) rest
    | cs => do
      let (s, rest) ← member f level.opening cs
      readOn f fuel outer (level.add s) rest

-- The class that a bracket begins.
def read (f : Flags) (cs : List Char) : Except Fault (Part CharSet × List Char) := do
  let (level, rest) ← openLevel f cs
  readOn f cs.length [] level rest

end RequestQuery.Pattern.Class
