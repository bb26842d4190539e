import RequestQuery.Pattern.Basic
import RequestQuery.Pattern.Flags
import RequestQuery.Pattern.Property
import RequestQuery.Text.Hex

namespace RequestQuery.Pattern

-- What stands for one place or character.
inductive Item
  -- with the note that it is written as a byte
  | char (c : Char) (byte : Bool)
  | set (s : Meaning CharSet)
  | boundary (b : Boundary)

namespace Escape

-- So many digits with gaps between them.
def digits (f : Flags) : Nat → List Char → Except Fault (List Nat × List Char)
  | 0, cs => .ok ([], cs)
  | _ + 1, [] => fail .escapeUnclosed (.place [])
  | n + 1, c :: cs =>
    match Text.Hex.digit? c with
    | none   => fail .hexDigit (.head (c :: cs))
    | some d => do
      let (ds, rest) ← digits f n (skip f cs)
      return (d.val :: ds, rest)

def character (ds : List Nat) (span : Span) : Except Fault Char :=
  let n := ds.foldl (fun n d => 16 * n + d) 0
  if n.isValidChar then .ok (.ofNat n) else fail .hexValue span

-- Digits in braces.
def braced (f : Flags) (cs : List Char) : Except Fault (Char × List Char) :=
  let (inside, rest) := takeKind f (fun c => (Text.Hex.digit? c).isSome) false cs.tail
  match rest with
  | [] => fail .escapeUnclosed (.between cs [])
  | c :: behind =>
    let behind := skip f behind
    if c ≠ '}' then
      fail .hexDigit (.head rest)
    else if inside.isEmpty then
      fail .hexEmpty (.between cs behind)
    else do
      let ds := (inside.filterMap Text.Hex.digit?).map Fin.val
      return (← character ds (.between cs.tail rest), behind)

-- What follows `x`, `u` or `U`: two digits make a byte.
def hex (f : Flags) (width : Nat) (cs : List Char) : Except Fault (Item × List Char) := do
  let cs := skip f cs
  if cs.head? = some '{' then
    let (c, rest) ← braced f cs
    return (.char c false, rest)
  else
    let (ds, rest) ← digits f width cs
    return (.char (← character ds (.between cs rest)) (width == 2), rest)

def decimal (f : Flags) : CharSet :=
  if f.ascii then .asciiDigit else .digit

def blank (f : Flags) : CharSet :=
  if f.ascii then .asciiBlank else .blank

-- What comes before and behind the first occurrence of a mark.
def cut? (mark : String) : List Char → Option (String × String)
  | [] => none
  | c :: cs =>
    if mark.toList.isPrefixOf (c :: cs) then
      some ("", .ofList ((c :: cs).drop mark.length))
    else do
      let (front, back) ← cut? mark cs
      return (c.toString ++ front, back)

-- The set of a property by its name, or by its name and value, and whether the rest is meant.
def property (cs : List Char) : Except Flaw (CharSet × Bool) :=
  match cut? "!=" cs with
  | some (name, value) => do return (← Property.valued name value, true)
  | none =>
    match (cut? ":" cs).or (cut? "=" cs) with
    | some (name, value) => do return (← Property.valued name value, false)
    | none => do return (← Property.named (.ofList cs), false)

-- What follows `p` or `P`. The escape began in front of `start`.
def propertyClass (f : Flags) (negated : Bool) (start cs : List Char) :
    Except Fault (Meaning CharSet × List Char) :=
  let cs := skip f cs
  match cs with
  | [] => fail .escapeUnclosed (.place [])
  | '{' :: cs =>
    let (name, rest) := takeKind f (· != '}') false cs
    match rest with
    | []        => fail .escapeUnclosed (.place [])
    | _ :: rest => .ok (meaning name rest, rest)
  | '\\' :: _  => fail .propertyInvalid (.head cs)
  | c :: cs   =>
    let rest := skip f cs
    .ok (meaning [c] rest, rest)
where
  meaning (name behind : List Char) : Meaning CharSet :=
    let span := Span.between start behind
    if f.ascii then
      fail .notAscii span
    else match property name with
      | .error flaw => fail flaw span
      | .ok (s, rest) =>
        let s := f.folded s
        .ok (if negated != rest then .inverse s else s)

-- Punctuation and the like stand for themselves.
def isPlain (c : Char) : Bool :=
  c.toNat < 128 && !c.isAlphanum && c != '<' && c != '>'

-- Letters that stand for characters that cannot well be written.
def control? (c : Char) : Option Char :=
  match c with
  | 'a' => some '\x07'
  | 'f' => some '\x0C'
  | 't' => some '\t'
  | 'n' => some '\n'
  | 'r' => some '\r'
  | 'v' => some '\x0B'
  | _   => none

def boundary? (f : Flags) (c : Char) : Option Boundary :=
  match c with
  | 'A' => some .textStart
  | 'z' => some .textEnd
  | 'b' => some (.word .edge f.word)
  | 'B' => some (.word .noEdge f.word)
  | '<' => some (.word .first f.word)
  | '>' => some (.word .last f.word)
  | _   => none

def wordEdge? (name : List Char) : Option WordEdge :=
  match String.ofList name with
  | "start"      => some .first
  | "end"        => some .last
  | "start-half" => some .leftOpen
  | "end-half"   => some .rightOpen
  | _            => none

def isEdgeChar (c : Char) : Bool :=
  c.isAlpha || c == '-'

-- The name of an edge in braces, if there is one: what begins with another character in braces is a count.
-- The escape began in front of `start`, and `cs` begins with the brace.
def edge? (f : Flags) (start cs : List Char) : Except Fault (Option (WordEdge × List Char)) :=
  let inside := skip f cs.tail
  match inside with
  | [] => fail .edgeEnds (.between start [])
  | c :: _ =>
    if isEdgeChar c then
      let (name, rest) := takeKind f isEdgeChar false inside
      if rest.head? = some '}' then
        match wordEdge? name with
        | some kind => .ok (some (kind, rest.tail))
        | none      => fail .edgeUnknown (.between inside rest)
      else
        fail .edgeUnclosed (.between cs rest)
    else
      .ok none

-- Reads an escape; `start` begins with its backslash.
def read (f : Flags) (start : List Char) : Except Fault (Item × List Char) := do
  match start.tail with
  | [] => fail .escapeUnclosed (.between start [])
  | c :: rest =>
    let span := Span.between start rest
    let kind (s : CharSet) : Item :=
      .set (if c.isUpper then f.inverse span s else .ok s)
    if c.isDigit then
      fail .backreference span
    else match c with
      | 'x' => hex f 2 rest
      | 'u' => hex f 4 rest
      | 'U' => hex f 8 rest
      | 'p' | 'P' =>
        let (s, rest) ← propertyClass f (c == 'P') start rest
        return (.set s, rest)
      | 'd' | 'D' => return (kind (decimal f), rest)
      | 's' | 'S' => return (kind (blank f), rest)
      | 'w' | 'W' => return (kind f.word, rest)
      | _ =>
        if isPlain c then
          return (.char c false, rest)
        else match control? c, boundary? f c with
          | some c, _ => return (.char c false, rest)
          | _, some b =>
            if c = 'b' ∧ rest.head? = some '{' then
              match ← edge? f start rest with
              | some (kind, rest) => return (.boundary (.word kind f.word), rest)
              | none              => return (.boundary b, rest)
            else
              return (.boundary b, rest)
          | none, none => fail .escapeUnknown span

end Escape

end RequestQuery.Pattern
