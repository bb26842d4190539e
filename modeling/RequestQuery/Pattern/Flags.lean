import RequestQuery.Pattern.CharSet
import RequestQuery.Pattern.Part

namespace RequestQuery.Pattern

structure Flags where
  -- letters stand for themselves in either case
  anyCase   : Bool := false
  -- lines have ends of their own
  multiLine : Bool := false
  -- a point stands for the end of a line as well
  pointAll  : Bool := false
  -- lines may end in carriage returns
  returns   : Bool := false
  -- short matches come first unless long ones are asked for
  swapped   : Bool := false
  -- classes hold characters of ASCII alone
  ascii     : Bool := false
  -- blanks and comments in the pattern do not count
  spaced    : Bool := false
  deriving DecidableEq

namespace Flags

def letters : List Char :=
  ['i', 'm', 's', 'U', 'u', 'R', 'x']

def set (f : Flags) (letter : Char) (on : Bool) : Flags :=
  match letter with
  | 'i' => { f with anyCase := on }
  | 'm' => { f with multiLine := on }
  | 's' => { f with pointAll := on }
  | 'u' => { f with ascii := !on }
  | 'R' => { f with returns := on }
  | 'U' => { f with swapped := on }
  | 'x' => { f with spaced := on }
  | _   => f

def word (f : Flags) : CharSet :=
  if f.ascii then .asciiWord else .word

-- In ASCII, letters have no variants but those of ASCII, and other characters have none.
def folded (f : Flags) (s : CharSet) : CharSet :=
  if f.anyCase then
    if f.ascii then s ∪ ((s ∩ .ascii).anyCase ∩ .ascii) else s.anyCase
  else
    s

-- In ASCII, a negated set would hold parts of characters.
def inverse (f : Flags) (span : Span) (s : CharSet) : Meaning CharSet :=
  if f.ascii then fail .notText span else .ok (.inverse s)

-- Whether a character is no part of the pattern but a gap, or begins a comment.
def startsGap (f : Flags) (c : Char) : Bool :=
  f.spaced && (c == '#' || Text.isBlank c)

end Flags

-- The characters of a kind at the beginning of a text, without gaps between and behind them, and the rest.
-- A comment goes on up to the end of its line.
def takeKind (f : Flags) (kind : Char → Bool) (comment : Bool) : List Char → List Char × List Char
  | [] => ([], [])
  | c :: cs =>
    if comment then
      takeKind f kind (c != '\n') cs
    else if f.startsGap c then
      takeKind f kind (c == '#') cs
    else if kind c then
      let (taken, rest) := takeKind f kind false cs
      (c :: taken, rest)
    else
      ([], c :: cs)

-- The rest behind a gap.
def skip (f : Flags) (cs : List Char) : List Char :=
  (takeKind f (fun _ => false) false cs).2

end RequestQuery.Pattern
