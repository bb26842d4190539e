import RequestQuery.Pattern.Class
import RequestQuery.Pattern.Simple

namespace RequestQuery.Pattern

structure Count where
  least : Nat
  most  : Option Nat
  eager : Bool

namespace Count

-- A number in braces, with blanks around it. Whether it is one is told apart from what follows it.
def number (f : Flags) (cs : List Char) : Except Fault Nat × List Char :=
  let cs := cs.dropWhile Text.isBlank
  let (ds, rest) := takeKind f Char.isDigit false cs
  let span := Span.between cs rest
  let n := ds.foldl (fun n d => 10 * n + (d.toNat - '0'.toNat)) 0
  let result :=
    if ds.isEmpty then fail .countEmpty span
    else if n < UInt32.size then .ok n
    else fail .numberInvalid span
  (result, rest.dropWhile Text.isBlank)

-- A question mark behind a count tells that short matches come first, or else long ones.
def finish (f : Flags) (least : Nat) (most : Option Nat) (cs : List Char) : Count × List Char :=
  if cs.head? = some '?' then
    ({ least, most, eager := f.swapped }, cs.tail)
  else
    ({ least, most, eager := !f.swapped }, cs)

def close (f : Flags) (start : List Char) (least : Nat) (most : Option Nat) (cs : List Char) :
    Except Fault (Count × List Char) :=
  if cs.head? = some '}' then
    let (count, rest) := finish f least most (skip f cs.tail)
    if most.all (least ≤ ·) then
      .ok (count, rest)
    else
      fail .countInvalid (.between start rest)
  else
    fail .countUnclosed (.between start cs)

-- What an opening brace begins.
def read (f : Flags) (start : List Char) : Except Fault (Count × List Char) :=
  let inside := skip f start.tail
  if inside.isEmpty then
    fail .countUnclosed (.between start inside)
  else
    let (least, rest) := number f inside
    match rest with
    | [] => fail .countUnclosed (.between start [])
    | ',' :: rest =>
      match skip f rest with
      | [] => fail .countUnclosed (.between start [])
      | '}' :: rest => do close f start (← least) none ('}' :: rest)
      | rest => do
        let least ← least
        let (most, rest) := number f rest
        close f start least (some (← most)) rest
    | rest => do
      let n ← least
      close f start n (some n) rest

end Count

namespace Group

inductive Opening
  -- flags for the rest of the group around
  | setting (flags : Flags)
  | group (flags : Flags) (kept : Bool) (name : Option (String × Span))

def isNameChar (first : Bool) (c : Char) : Bool :=
  c == '_' || nameStart.contains c || (!first && (c == '.' || c == '[' || c == ']' || nameNumber.contains c))
where
  nameStart : CharSet :=
    Property.alphabetic ∪ .listed Text.laterAlphabeticRanges
  nameNumber : CharSet :=
    .ofCategories [.nd, .nl, .no] ∪ .listed Text.laterNumberRanges

-- A name up to the angle bracket that closes it.
def nameChars (first : Bool) : List Char → Except Fault (List Char × List Char)
  | [] => fail .groupNameUnclosed (.place [])
  | c :: cs =>
    if c = '>' then
      .ok ([], c :: cs)
    else if isNameChar first c then do
      let (name, rest) ← nameChars false cs
      return (c :: name, rest)
    else
      fail .groupNameInvalid (.head (c :: cs))

-- A name that none of the groups before has.
def name (names : List (String × Span)) (cs : List Char) :
    Except Fault ((String × Span) × List Char) := do
  let (chars, rest) ← nameChars true cs
  let name := String.ofList chars
  let span := Span.between cs rest
  if chars.isEmpty then
    fail .groupNameEmpty span
  else match names.lookup name with
    | some earlier => .error { flaw := .groupNameRepeated, span, earlier }
    | none         => return ((name, span), rest.tail)

-- Flags and hyphens with their places, the latest first, and what follows them.
def flags (seen : List (Char × Span)) : List Char → Except Fault (List (Char × Span) × List Char)
  | [] => fail .flagsUnclosed (.place [])
  | c :: cs =>
    if c = ':' ∨ c = ')' then
      .ok (seen, c :: cs)
    else
      let span := Span.head (c :: cs)
      match seen.lookup c with
      | some earlier =>
        .error { flaw := if c = '-' then .negationRepeated else .flagRepeated, span, earlier }
      | none =>
        if c = '-' ∨ c ∈ Flags.letters then flags ((c, span) :: seen) cs else fail .flagUnknown span

-- Flags behind a hyphen are taken away.
def apply (f : Flags) (letters : List Char) : Flags :=
  let (f, _) := letters.foldl (fun (f, on) c => if c = '-' then (f, false) else (f.set c on, on)) (f, true)
  f

-- What a bracket begins.
def read (f : Flags) (names : List (String × Span)) (start : List Char) :
    Except Fault (Opening × List Char) :=
  let inside := skip f start.tail
  match inside with
  | '?' :: '=' :: rest | '?' :: '!' :: rest | '?' :: '<' :: '=' :: rest | '?' :: '<' :: '!' :: rest =>
    fail .lookAround (.between start rest)
  | '?' :: 'P' :: '<' :: rest | '?' :: '<' :: rest => do
    let (name, rest) ← name names rest
    return (.group f true (some name), rest)
  | ['?'] => fail .groupUnclosed (.head start)
  | '?' :: rest => do
    let (seen, rest) ← flags [] rest
    match seen with
    | ('-', span) :: _ => fail .negationDangling span
    | _ =>
      let f := apply f (seen.reverse.map (·.1))
      if rest.head? = some ':' then
        return (.group f false none, rest.tail)
      else if seen.isEmpty then
        fail .nothingToRepeat (.place inside)
      else
        return (.setting f, rest.tail)
  | _ => .ok (.group f true none, inside)

end Group

namespace Reader

-- Alternatives, the latest first, and the items of one more, the latest first as well.
structure Branches where
  -- where the first alternative begins, and where the current one
  start      : Nat
  current    : Nat
  finished   : List (Part Pattern) := []
  items      : List (Part Pattern) := []
  -- whether the latest item is there to be repeated
  repeatable : Bool := false

namespace Branches

-- None so far, before a rest of the text.
def before (rest : List Char) : Branches where
  start   := rest.length
  current := rest.length

def sequence (b : Branches) (rest : List Char) : Part Pattern :=
  .join inOrder ⟨b.current, rest.length⟩ b.items.reverse

-- The next alternative begins behind a bar, in front of which `bar` begins.
def turn (b : Branches) (bar : List Char) : Branches where
  start    := b.start
  current  := bar.tail.length
  finished := b.sequence bar :: b.finished

def pattern (b : Branches) (rest : List Char) : Part Pattern :=
  .join anyOf ⟨b.start, rest.length⟩ (b.sequence rest :: b.finished).reverse

def add (b : Branches) (p : Part Pattern) : Branches :=
  { b with items := p :: b.items, repeatable := true }

-- Adds what means nothing of its own.
def addMark (b : Branches) (span : Span) : Branches :=
  { b with items := ⟨span, .ok .empty, .leaf⟩ :: b.items, repeatable := false }

end Branches

-- A group that is still open, and what comes before it in the group around.
structure Level where
  opening  : Span
  flags    : Flags
  branches : Branches
  -- the number under which matches are kept
  number   : Option Nat

structure State where
  flags    : Flags := {}
  branches : Branches
  outer    : List Level := []
  names    : List (String × Span) := []
  -- how many groups there are of which matches are kept
  kept     : Nat := 0

namespace State

def add (s : State) (p : Part Pattern) : State :=
  { s with branches := s.branches.add p }

def openGroup (s : State) (cs : List Char) : Except Fault (State × List Char) := do
  match ← Group.read s.flags s.names cs with
  | (.setting flags, rest) =>
    return ({ s with flags, branches := s.branches.addMark (.between cs rest) }, rest)
  | (.group flags kept name, rest) =>
    let count := if kept then s.kept + 1 else s.kept
    let number := if kept then some count else none
    let level := ⟨.head cs, s.flags, s.branches, number⟩
    let names := name.toList ++ s.names
    return ({ flags, branches := .before rest, outer := level :: s.outer, names, kept := count }, rest)

def closeGroup (s : State) (cs : List Char) : Except Fault State :=
  match s.outer with
  | [] => fail .groupUnopened (.head cs)
  | level :: outer =>
    let keep (p : Pattern) := level.number.elim p (.group · p)
    let group := (s.branches.pattern cs).around ⟨level.opening.start, cs.tail.length⟩ (keep <$> ·)
    .ok { s with flags := level.flags, branches := level.branches.add group, outer }

-- Repeats the latest item.
def repeatItem (s : State) (cs : List Char)
    (count : Except Fault (Count × List Char)) : Except Fault (State × List Char) :=
  match s.branches.repeatable, s.branches.items with
  | true, p :: items => do
    let (count, rest) ← count
    let repeated := p.around ⟨p.span.start, rest.length⟩ fun p =>
      (times · count.least count.most count.eager) <$> p
    return ({ s with branches := { s.branches with items := repeated :: items } }, rest)
  | _, _ => fail .nothingToRepeat (.place cs)

def point (f : Flags) (span : Span) : Meaning CharSet :=
  if f.ascii then fail .notText span
  else if f.pointAll then .ok .everything
  else if f.returns then .ok (.inverse (.ofRanges [('\n', '\n'), ('\r', '\r')]))
  else .ok (.inverse (.single '\n'))

def item (f : Flags) (span : Span) : Item → Part Pattern
  | .char c byte =>
    let meaning := if f.ascii && byte && 128 ≤ c.toNat then fail .notText span
      else .ok (ofSet (f.folded (.single c)))
    { span, meaning }
  | .set s      => { span, meaning := ofSet <$> s }
  | .boundary b => { span, meaning := .ok (.boundary b) }

def step (s : State) (c : Char) (cs : List Char) : Except Fault (State × List Char) :=
  let start := c :: cs
  let f := s.flags
  match c with
  | '(' => s.openGroup start
  | ')' => do return (← s.closeGroup start, cs)
  | '|' => .ok ({ s with branches := s.branches.turn start }, cs)
  | '[' => do
    let (set, rest) ← Class.read f start
    return (s.add { set with meaning := ofSet <$> set.meaning }, rest)
  | '?' => s.repeatItem start (.ok (Count.finish f 0 (some 1) cs))
  | '*' => s.repeatItem start (.ok (Count.finish f 0 none cs))
  | '+' => s.repeatItem start (.ok (Count.finish f 1 none cs))
  | '{' => s.repeatItem start (Count.read f start)
  | '.' => single (.set (point f (.head start)))
  | '^' => single (.boundary (if f.multiLine then .lineStart f.returns else .textStart))
  | '$' => single (.boundary (if f.multiLine then .lineEnd f.returns else .textEnd))
  | '\\' => do
    let (i, rest) ← Escape.read f start
    return (s.add (item f (.between start rest) i), rest)
  | c => single (.char c false)
where
  single (i : Item) : Except Fault (State × List Char) :=
    .ok (s.add (item s.flags (.head (c :: cs)) i), cs)

-- Each step goes over one character at least.
def run : Nat → State → List Char → Except Fault State
  | 0, s, _ => .ok s
  | fuel + 1, s, cs =>
    match skip s.flags cs with
    | []      => .ok s
    | c :: cs => do
      let (s, rest) ← s.step c cs
      run fuel s rest

end State

end Reader

def ofText? (text : String) : Except Fault Pattern := do
  let cs := text.toList
  let s ← Reader.State.run cs.length { branches := .before cs } cs
  match s.outer with
  | level :: _ => fail .groupUnclosed level.opening
  | [] =>
    let pattern := s.branches.pattern []
    pattern.outline.check
    pattern.meaning

end RequestQuery.Pattern
