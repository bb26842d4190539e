import RequestQuery.Toml.Token

namespace RequestQuery.Toml

-- The forms of a string: the kind of its quotes, and whether there are three of them on each side.
structure Form where
  quote : Quote
  long  : Bool
  deriving DecidableEq

namespace Quoted

def longestRun (c : Char) (cs : List Char) : Nat :=
  (cs.splitOnP (· != c)).foldl (fun n run => max n run.length) 0

-- A control character that only an escape can stand for.
def needsEscape (c : Char) : Bool :=
  Token.isControl c && c != '\t' && c != '\n'

def form (cs : List Char) : Form :=
  let isPlain := !cs.any needsEscape
  let isOneLine := !cs.contains '\n'
  let doubles := longestRun Quote.double.char cs
  let singles := longestRun Quote.single.char cs
  if isPlain && !cs.contains '\\' && doubles == 0 && isOneLine then ⟨.double, false⟩
  else if isPlain && singles == 0 && isOneLine then ⟨.single, false⟩
  else if isPlain && !cs.contains '\\' && doubles ≤ 2 then ⟨.double, true⟩
  else if isPlain && singles ≤ 2 then ⟨.single, true⟩
  else ⟨.double, !isOneLine⟩

def escapeLetter? : Char → Option Char
  | '\x08' => some 'b'
  | '\t'   => some 't'
  | '\n'   => some 'n'
  | '\x0c' => some 'f'
  | '\r'   => some 'r'
  | '\\'   => some '\\'
  | _      => none

def escapedChar (c : Char) : List Char :=
  match escapeLetter? c with
  | some letter => ['\\', letter]
  | none => if Token.isControl c then '\\' :: 'u' :: Text.Hex.digits .upper 4 c.toNat else [c]

-- Between double quotes. A quote is escaped when more than `admitted` stand in a row; `run` counts those
-- right before, and an escape ends the row.
def escaped (long : Bool) (admitted run : Nat) : List Char → List Char
  | [] => []
  | c :: cs =>
    if c = '"' then
      if run < admitted then c :: escaped long admitted (run + 1) cs
      else '\\' :: c :: escaped long admitted 0 cs
    else if c = '\n' ∧ long then
      c :: escaped long admitted 0 cs
    else
      escapedChar c ++ escaped long admitted 0 cs

def delimiter (f : Form) : List Char :=
  .replicate (if f.long then 3 else 1) f.quote.char

-- A line end follows the opening quotes if there is one in the text, since the first one is dropped.
def chars (cs : List Char) : List Char :=
  let f := form cs
  delimiter f
    ++ (if f.long && cs.contains '\n' then ['\n'] else [])
    ++ (match f.quote with
        | .double => escaped f.long (if f.long then 2 else 0) 0 cs
        | .single => cs)
    ++ delimiter f

end Quoted

end RequestQuery.Toml
