import RequestQuery.Text.Hex
import RequestQuery.Data.Basic

namespace RequestQuery.Json

inductive Token
  | beginList
  | endList
  | beginRecord
  | endRecord
  | comma
  | colon
  -- `none` where an escape names half a surrogate pair: no text has such a character
  | text (s : Option String)
  | atom (d : Data)

namespace Token

def escapeChar? : Char → Option Char
  | '"'    => some '"'
  | '\\'   => some '\\'
  | '\x08' => some 'b'
  | '\x0c' => some 'f'
  | '\n'   => some 'n'
  | '\r'   => some 'r'
  | '\t'   => some 't'
  | _      => none

def escaped (c : Char) : List Char :=
  match escapeChar? c with
  | some e => ['\\', e]
  | none   => if c.toNat < 0x20 then '\\' :: 'u' :: Text.Hex.digits .lower 4 c.toNat else [c]

def quoted (s : String) : List Char :=
  '"' :: s.toList.flatMap escaped ++ ['"']

-- A character as it stands, or a code unit of UTF-16 given by its number.
inductive Piece
  | char (c : Char)
  | unit (n : Nat)

def unescapedChar? : Char → Option Char
  | '"'  => some '"'
  | '\\' => some '\\'
  | '/'  => some '/'
  | 'b'  => some '\x08'
  | 'f'  => some '\x0c'
  | 'n'  => some '\n'
  | 'r'  => some '\r'
  | 't'  => some '\t'
  | _    => none

-- The pieces between the quotes of a string.
def pieces? : List Char → Option (List Piece)
  | [] => some []
  | '\\' :: 'u' :: a :: b :: c :: d :: cs => do
    let n ← Text.Hex.value? [a, b, c, d]
    return .unit n :: (← pieces? cs)
  | '\\' :: e :: cs => do
    let c ← unescapedChar? e
    return .char c :: (← pieces? cs)
  | c :: cs => do
    guard (c != '\\')
    return .char c :: (← pieces? cs)

def isHigh (n : Nat) : Bool :=
  0xD800 ≤ n && n < 0xDC00

def isLow (n : Nat) : Bool :=
  0xDC00 ≤ n && n < 0xE000

-- The characters that pieces denote, if every high code unit stands before a low one.
def joined? : List Piece → Option (List Char)
  | [] => some []
  | .char c :: ps => (c :: ·) <$> joined? ps
  | .unit hi :: .unit lo :: ps =>
    if isHigh hi then
      if isLow lo then
        (Char.ofNat (0x10000 + (hi - 0xD800) * 0x400 + (lo - 0xDC00)) :: ·) <$> joined? ps
      else
        none
    else if isLow hi then
      none
    else
      (Char.ofNat hi :: ·) <$> joined? (.unit lo :: ps)
  | .unit n :: ps => if isHigh n || isLow n then none else (Char.ofNat n :: ·) <$> joined? ps

-- No plus, no zero in front of other digits, digits on both sides of a point.
def isStrict (l : Decimal.Literal) : Bool :=
  l.sign != some .plus && (l.whole.length == 1 || l.whole.head?.any (·.val != 0)) && l.fraction != some []

def atom? (cs : List Char) : Option Token :=
  if cs = "null".toList then some (atom .null)
  else if cs = "true".toList then some (atom (.boolean true))
  else if cs = "false".toList then some (atom (.boolean false))
  else match Decimal.Literal.ofChars? cs with
    | some l => if isStrict l then some (atom (.ofLiteral l)) else none
    | none   => none

def intChars (n : Int) : List Char :=
  (if n < 0 then ['-'] else []) ++ (Decimal.Digit.ofNat n.natAbs).map Decimal.Digit.char

def chars : Token → List Char
  | beginList   => ['[']
  | endList     => [']']
  | beginRecord => ['{']
  | endRecord   => ['}']
  | comma       => [',']
  | colon       => [':']
  | text s      => quoted (s.getD "")
  | atom d =>
    match d with
    | .boolean b => if b then "true".toList else "false".toList
    | .integer n => intChars n
    | .decimal l => l.chars
    | _          => "null".toList

inductive Mode
  | between
  -- the characters so far, the latest first
  | word (cs : List Char)
  | string (cs : List Char) (escaping : Bool)

def isBlank (c : Char) : Bool :=
  c == ' ' || c == '\t' || c == '\n' || c == '\r'

def isWordChar (c : Char) : Bool :=
  c.isAlphanum || c == '+' || c == '-' || c == '.'

def mark? : Char → Option Token
  | '[' => some beginList
  | ']' => some endList
  | '{' => some beginRecord
  | '}' => some endRecord
  | ',' => some comma
  | ':' => some colon
  | _   => none

def start (c : Char) : Option (List Token × Mode) :=
  match mark? c with
  | some token => some ([token], .between)
  | none =>
    if isBlank c then some ([], .between)
    else if c = '"' then some ([], .string [] false)
    else if isWordChar c then some ([], .word [c])
    else none

-- What a character completes, and where it leads.
def step (mode : Mode) (c : Char) : Option (List Token × Mode) :=
  match mode with
  | .between => start c
  | .word cs =>
    if isWordChar c then
      some ([], .word (c :: cs))
    else do
      let token ← atom? cs.reverse
      let (tokens, mode) ← start c
      return (token :: tokens, mode)
  | .string cs true => some ([], .string (c :: cs) false)
  | .string cs false =>
    if c = '"' then do
      let pieces ← pieces? cs.reverse
      return ([text ((joined? pieces).map .ofList)], .between)
    else if c.toNat < 0x20 then
      none
    else
      some ([], .string (c :: cs) (c == '\\'))

def scan (mode : Mode) : List Char → Option (List Token)
  | [] =>
    match mode with
    | .between    => some []
    | .word cs    => (atom? cs.reverse).map ([·])
    | .string _ _ => none
  | c :: cs => do
    let (tokens, mode) ← step mode c
    return tokens ++ (← scan mode cs)

end Token

end RequestQuery.Json
