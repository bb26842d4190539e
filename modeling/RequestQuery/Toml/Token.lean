import RequestQuery.Text.Hex

namespace RequestQuery.Toml

inductive Quote
  | double
  | single
  deriving DecidableEq

def Quote.char : Quote → Char
  | double => '"'
  | single => '\''

inductive Token
  | equals
  | comma
  | beginList
  | endList
  | beginTable
  | endTable
  | newline
  | gap
  -- a bare key, a number, a date or the like
  | word (cs : List Char)
  | text (cs : List Char)
  -- between three quotes on each side
  | longText (cs : List Char)
  deriving DecidableEq

namespace Token

-- A character of a string as it stands, one given by an escape, or a backslash at the end of a line.
inductive Piece
  | raw (c : Char)
  | escaped (c : Char)
  | cut

def isGapChar (c : Char) : Bool :=
  c == ' ' || c == '\t'

def isLineChar (c : Char) : Bool :=
  c == '\n' || c == '\r'

def scalar? (hex : List Char) : Option Char := do
  let n ← Text.Hex.value? hex
  if n.isValidChar then some (Char.ofNat n) else none

def escapedChar? : Char → Option Char
  | 'b'  => some '\x08'
  | 't'  => some '\t'
  | 'n'  => some '\n'
  | 'f'  => some '\x0c'
  | 'r'  => some '\r'
  | 'e'  => some '\x1b'
  | '"'  => some '"'
  | '\\' => some '\\'
  | _    => none

def pieces? : List Char → Option (List Piece)
  | [] => some []
  | '\\' :: 'x' :: a :: b :: cs => do
    return .escaped (← scalar? [a, b]) :: (← pieces? cs)
  | '\\' :: 'u' :: a :: b :: c :: d :: cs => do
    return .escaped (← scalar? [a, b, c, d]) :: (← pieces? cs)
  | '\\' :: 'U' :: a :: b :: c :: d :: e :: f :: g :: h :: cs => do
    return .escaped (← scalar? [a, b, c, d, e, f, g, h]) :: (← pieces? cs)
  | '\\' :: c :: cs =>
    if isGapChar c || isLineChar c then do
      return .cut :: (← pieces? (c :: cs))
    else do
      return .escaped (← escapedChar? c) :: (← pieces? cs)
  | c :: cs => do
    guard (c != '\\')
    return .raw c :: (← pieces? cs)

-- Whether blanks are being dropped behind a backslash, before or after the end of its line.
inductive Cutting
  | no
  | beforeLineEnd
  | afterLineEnd

-- The text that pieces denote. Behind a cut there is nothing but blanks in the line, and they go, as does
-- all that is blank in the next lines.
def joined? : Cutting → List Piece → Option (List Char)
  | .beforeLineEnd, [] => none
  | _, [] => some []
  | .beforeLineEnd, .raw '\n' :: ps => joined? .afterLineEnd ps
  | .beforeLineEnd, .raw c :: ps =>
    if isGapChar c || isLineChar c then joined? .beforeLineEnd ps else none
  | .beforeLineEnd, _ => none
  | .afterLineEnd, .raw c :: ps =>
    if isGapChar c || isLineChar c then joined? .afterLineEnd ps else (c :: ·) <$> joined? .no ps
  | _, .raw c :: ps => (c :: ·) <$> joined? .no ps
  | _, .escaped c :: ps => (c :: ·) <$> joined? .no ps
  | _, .cut :: ps => joined? .beforeLineEnd ps

-- A carriage return stands before a line feed only.
def hasWholeLineEnds : List Char → Bool
  | [] => true
  | c :: cs => (c != '\r' || cs.head? == some '\n') && hasWholeLineEnds cs

-- A line end right behind the opening quotes is not part of the string.
def withoutFirstLineEnd : List Char → List Char
  | '\n' :: cs => cs
  | '\r' :: '\n' :: cs => cs
  | cs => cs

def content? (quote : Quote) (cs : List Char) : Option (List Char) :=
  if hasWholeLineEnds cs then
    match quote with
    | .double => pieces? cs >>= joined? .no
    | .single => some cs
  else
    none

inductive Mode
  | between
  | comment
  | carriageReturn
  -- the characters so far, the latest first
  | word (cs : List Char)
  -- a date and a space
  | date (cs : List Char)
  -- one quote, or two, so far
  | opening (quote : Quote) (second : Bool)
  | text (quote : Quote) (cs : List Char) (escaping : Bool)
  -- with the number of quotes in a row up to here
  | longText (quote : Quote) (cs : List Char) (escaping : Bool) (quotes : Nat)

def isControl (c : Char) : Bool :=
  c.toNat < 0x20 || c.toNat == 0x7F

def mark? : Char → Option Token
  | '='  => some equals
  | ','  => some comma
  | '['  => some beginList
  | ']'  => some endList
  | '{'  => some beginTable
  | '}'  => some endTable
  | '\n' => some newline
  | ' '  => some gap
  | '\t' => some gap
  | _    => none

def start (c : Char) : Option (List Token × Mode) :=
  match mark? c with
  | some token => some ([token], .between)
  | none =>
    if c = '#' then some ([], .comment)
    else if c = '\r' then some ([], .carriageReturn)
    else if c = '"' then some ([], .opening .double false)
    else if c = '\'' then some ([], .opening .single false)
    else if isControl c then none
    else some ([], .word [c])

-- The tokens in front of what a character starts.
def startAfter (tokens : List Token) (c : Char) : Option (List Token × Mode) := do
  let (started, mode) ← start c
  return (tokens ++ started, mode)

def endsWord (c : Char) : Bool :=
  (mark? c).isSome || c == '#' || c == '\r' || c == '"' || c == '\'' || isControl c

-- `dddd-dd-dd`, from the last character to the first.
def isReversedDate (cs : List Char) : Bool :=
  cs.length == 10 && cs.zipIdx.all fun (c, i) => if i == 2 || i == 5 then c == '-' else c.isDigit

def closeText (quote : Quote) (cs : List Char) : Option Token :=
  text <$> content? quote cs.reverse

-- Of the quotes in a row at the end of a long text the last three close it.
def closeLongText (quote : Quote) (cs : List Char) (quotes : Nat) : Option Token :=
  longText
    <$> content? quote (withoutFirstLineEnd (cs.reverse ++ .replicate (quotes - 3) quote.char))

-- What a character completes, and where it leads.
def step (mode : Mode) (c : Char) : Option (List Token × Mode) :=
  match mode with
  | .between => start c
  | .comment =>
    if c = '\n' then some ([newline], .between)
    else if c = '\r' then some ([], .carriageReturn)
    else if isControl c && c != '\t' then none
    else some ([], .comment)
  | .carriageReturn => if c = '\n' then some ([newline], .between) else none
  | .word cs =>
    if c = ' ' ∧ isReversedDate cs then some ([], .date cs)
    else if endsWord c then startAfter [word cs.reverse] c
    else some ([], .word (c :: cs))
  | .date cs =>
    if c.isDigit then some ([], .word (c :: ' ' :: cs))
    else startAfter [word cs.reverse, gap] c
  | .opening quote false =>
    if c = quote.char then some ([], .opening quote true) else stepText quote [] false c
  | .opening quote true =>
    if c = quote.char then some ([], .longText quote [] false 0) else startAfter [text []] c
  | .text quote cs escaping => stepText quote cs escaping c
  | .longText quote cs true _ => stepLongText quote cs true c
  | .longText quote cs false quotes =>
    if c = quote.char then
      if quotes = 4 then do
        return ([← closeLongText quote cs 5], .between)
      else
        some ([], .longText quote cs false (quotes + 1))
    else if 3 ≤ quotes then do
      startAfter [← closeLongText quote cs quotes] c
    else
      stepLongText quote (.replicate quotes quote.char ++ cs) false c
where
  stepText (quote : Quote) (cs : List Char) (escaping : Bool) (c : Char) :=
    if c = quote.char ∧ ¬escaping then do
      return ([← closeText quote cs], .between)
    else if isControl c && c != '\t' then
      none
    else
      some ([], .text quote (c :: cs) (quote == .double && c == '\\' && !escaping))
  stepLongText (quote : Quote) (cs : List Char) (escaping : Bool) (c : Char) :=
    if isControl c && c != '\t' && !isLineChar c then
      none
    else
      some ([], .longText quote (c :: cs) (quote == .double && c == '\\' && !escaping) 0)

def scan (mode : Mode) : List Char → Option (List Token)
  | [] =>
    match mode with
    | .between | .comment => some []
    | .word cs | .date cs => some [word cs.reverse]
    | .opening _ true     => some [text []]
    | .longText quote cs false quotes =>
      if 3 ≤ quotes then ([·]) <$> closeLongText quote cs quotes else none
    | _ => none
  | c :: cs => do
    let (tokens, mode) ← step mode c
    return tokens ++ (← scan mode cs)

end Token

end RequestQuery.Toml
