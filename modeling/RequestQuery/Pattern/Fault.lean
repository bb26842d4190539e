namespace RequestQuery.Pattern

-- A stretch of a text, told by how many characters follow its beginning and its end.
structure Span where
  start : Nat
  stop  : Nat
  deriving DecidableEq

namespace Span

-- Between two rests of a text.
def between (start stop : List Char) : Span :=
  ⟨start.length, stop.length⟩

-- The first character of a rest.
def head (rest : List Char) : Span :=
  between rest rest.tail

-- No character, but the place before a rest.
def place (rest : List Char) : Span :=
  between rest rest

end Span

inductive Flaw
  | groupUnclosed
  | groupUnopened
  | groupNameEmpty
  | groupNameInvalid
  | groupNameUnclosed
  | groupNameRepeated
  | lookAround
  | backreference
  | flagsUnclosed
  | flagUnknown
  | flagRepeated
  | negationRepeated
  | negationDangling
  | nothingToRepeat
  | countUnclosed
  | countEmpty
  | countInvalid
  | numberInvalid
  | classUnclosed
  | classEscape
  | classBound
  | classRange
  | escapeUnclosed
  | escapeUnknown
  | hexEmpty
  | hexDigit
  | hexValue
  | edgeUnclosed
  | edgeUnknown
  | edgeEnds
  | propertyInvalid
  | propertyUnknown
  | propertyValueUnknown
  | notAscii
  | notText
  | tooDeep
  deriving DecidableEq

def Flaw.message : Flaw → String
  | groupUnclosed     => "unclosed group"
  | groupUnopened     => "unopened group"
  | groupNameEmpty    => "empty capture group name"
  | groupNameInvalid  => "invalid capture group character"
  | groupNameUnclosed => "unclosed capture group name"
  | groupNameRepeated => "duplicate capture group name"
  | lookAround        => "look-around, including look-ahead and look-behind, is not supported"
  | backreference     => "backreferences are not supported"
  | flagsUnclosed     => "expected flag but got end of regex"
  | flagUnknown       => "unrecognized flag"
  | flagRepeated      => "duplicate flag"
  | negationRepeated  => "flag negation operator repeated"
  | negationDangling  => "dangling flag negation operator"
  | nothingToRepeat   => "repetition operator missing expression"
  | countUnclosed     => "unclosed counted repetition"
  | countEmpty        => "repetition quantifier expects a valid decimal"
  | countInvalid      => "invalid repetition count range, the start must be <= the end"
  | numberInvalid     => "decimal literal invalid"
  | classUnclosed     => "unclosed character class"
  | classEscape       => "invalid escape sequence found in character class"
  | classBound        => "invalid range boundary, must be a literal"
  | classRange        => "invalid character class range, the start must be <= the end"
  | escapeUnclosed    => "incomplete escape sequence, reached end of pattern prematurely"
  | escapeUnknown     => "unrecognized escape sequence"
  | hexEmpty          => "hexadecimal literal empty"
  | hexDigit          => "invalid hexadecimal digit"
  | hexValue          => "hexadecimal literal is not a Unicode scalar value"
  | edgeUnclosed      =>
    "special word boundary assertion is either unclosed or contains an invalid character"
  | edgeUnknown       =>
    "unrecognized special word boundary assertion, valid choices are: " ++
      "start, end, start-half or end-half"
  | edgeEnds          =>
    "found either the beginning of a special word boundary or a bounded repetition on a \\b with an " ++
      "opening brace, but no closing brace"
  | propertyInvalid      => "invalid Unicode character class"
  | propertyUnknown      => "Unicode property not found"
  | propertyValueUnknown => "Unicode property value not found"
  | notAscii             => "Unicode not allowed here"
  | notText              => "pattern can match invalid UTF-8"
  | tooDeep              => "exceed the maximum number of nested parentheses/brackets (250)"

-- A flaw and where it is; beside it an earlier stretch that it does not go with.
structure Fault where
  flaw    : Flaw
  span    : Span
  earlier : Option Span := none
  deriving DecidableEq

namespace Fault

-- The lines of a text. What ends the last one starts no other.
def lines (text : List Char) : List (List Char) :=
  let parts := text.splitOn '\n'
  parts.dropLast.map withoutReturn ++ (parts.getLast?.toList.filter (!·.isEmpty))
where
  withoutReturn (line : List Char) : List Char :=
    if line.getLast? = some '\r' then line.dropLast else line

-- Line and column of the place that so many characters follow, both from zero.
def position (text : List Char) (following : Nat) : Nat × Nat :=
  let front := text.take (text.length - following)
  (front.count '\n', (front.reverse.takeWhile (· != '\n')).length)

-- Carets from and up to columns, but one at least for each stretch.
def carets (column : Nat) : List (Nat × Nat) → List Char
  | [] => []
  | (start, stop) :: stretches =>
    let length := max 1 (stop - start)
    .replicate (start - column) ' ' ++ .replicate length '^'
      ++ carets (max column start + length) stretches

def spans (f : Fault) : List Span :=
  f.earlier.toList ++ [f.span]

-- The columns at fault in a line.
def stretches (f : Fault) (text : List Char) (line : Nat) : List (Nat × Nat) :=
  f.spans.filterMap fun span =>
    let (first, start) := position text span.start
    let (last, stop) := position text span.stop
    if first = line ∧ last = line then some (start, stop) else none

-- A line behind a margin, and what is marked in it.
def shownLine (f : Fault) (text : List Char) (margin : String) (line : List Char) (n : Nat) : String :=
  let shown := margin ++ .ofList line ++ "\n"
  match f.stretches text n with
  | []        => shown
  | stretches =>
    shown ++ .ofList (.replicate margin.length ' ' ++ carets 0 stretches) ++ "\n"

-- The number of a line, on the right of the space for the greatest one.
def numberedMargin (count n : Nat) : String :=
  let number := toString (n + 1)
  .ofList (.replicate ((toString count).length - number.length) ' ') ++ number ++ ": "

-- Tells where a stretch over more lines than one begins and ends.
def note? (text : List Char) (span : Span) : Option String :=
  let (first, start) := position text span.start
  let (last, stop) := position text span.stop
  if first = last then
    none
  else
    some (s!"on line {first + 1} (column {start + 1}) " ++
      s!"through line {last + 1} (column {stop})\n")

def shown (f : Fault) (text : List Char) : String :=
  let lines := lines text
  if text.contains '\n' then
    let divider := .ofList (.replicate 79 '~') ++ "\n"
    let count := lines.length + if text.getLast? = some '\n' then 1 else 0
    let margin n := if count ≤ 1 then "    " else numberedMargin count n
    divider ++ String.join (lines.zipIdx.map fun (line, n) => f.shownLine text (margin n) line n)
      ++ divider ++ String.join (f.spans.filterMap (note? text))
  else
    String.join (lines.map fun line => f.shownLine text "    " line 0)

def message (f : Fault) (text : String) : String :=
  "regex parse error:\n" ++ f.shown text.toList ++ "error: " ++ f.flaw.message

end Fault

end RequestQuery.Pattern
