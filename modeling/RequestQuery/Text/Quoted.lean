import RequestQuery.Text.Hex
import RequestQuery.Text.Hidden

namespace RequestQuery.Text

-- Hexadecimal digits without a zero in front.
def hexNumber (n : Nat) : List Char :=
  match (Hex.digits .lower 6 n).dropWhile (· == '0') with
  | [] => ['0']
  | ds => ds

def escapeForLog (c : Char) : List Char :=
  match c with
  | '"'  => ['\\', '"']
  | '\\' => ['\\', '\\']
  | '\n' => ['\\', 'n']
  | '\t' => ['\\', 't']
  | '\r' => ['\\', 'r']
  | '\x00' => ['\\', '0']
  | _ => if isHidden c then '\\' :: 'u' :: '{' :: hexNumber c.toNat ++ ['}'] else [c]

def quotedForLog (s : String) : String :=
  .ofList ('"' :: s.toList.flatMap escapeForLog ++ ['"'])

def listForLog (texts : List String) : String :=
  "[" ++ ", ".intercalate (texts.map quotedForLog) ++ "]"

end RequestQuery.Text
