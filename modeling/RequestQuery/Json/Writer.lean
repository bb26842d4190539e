import RequestQuery.Json.Token

namespace RequestQuery.Json

mutual

def tokens : Data → List Token
  | .null           => [.atom .null]
  | .boolean b      => [.atom (.boolean b)]
  | .integer n      => [.atom (.integer n)]
  | .decimal l      => [.atom (.decimal l)]
  | .text s         => [.text (some s)]
  | .list items     => .beginList :: itemTokens items
  | .record members => .beginRecord :: memberTokens members
  | .foreign        => [.atom .null]

-- The items and the end of their list.
def itemTokens : List Data → List Token
  | []         => [.endList]
  | [d]        => tokens d ++ [.endList]
  | d :: items => tokens d ++ .comma :: itemTokens items

def memberTokens : List (String × Data) → List Token
  | []                   => [.endRecord]
  | [(name, d)]          => .text (some name) :: .colon :: tokens d ++ [.endRecord]
  | (name, d) :: members => .text (some name) :: .colon :: tokens d ++ .comma :: memberTokens members

end

def compact (d : Data) : String :=
  .ofList ((tokens d).flatMap Token.chars)

def lineBreak (depth : Nat) : List Char :=
  '\n' :: .replicate (2 * depth) ' '

mutual

def prettyChars (depth : Nat) : Data → List Char
  | .list (d :: items) =>
    '[' :: prettyItems (depth + 1) (d :: items) ++ lineBreak depth ++ [']']
  | .record (m :: members) =>
    '{' :: prettyMembers (depth + 1) (m :: members) ++ lineBreak depth ++ ['}']
  | d => (tokens d).flatMap Token.chars

def prettyItems (depth : Nat) : List Data → List Char
  | []         => []
  | [d]        => lineBreak depth ++ prettyChars depth d
  | d :: items => lineBreak depth ++ prettyChars depth d ++ ',' :: prettyItems depth items

def prettyMembers (depth : Nat) : List (String × Data) → List Char
  | []                   => []
  | [(name, d)]          =>
    lineBreak depth ++ Token.quoted name ++ ": ".toList ++ prettyChars depth d
  | (name, d) :: members =>
    lineBreak depth ++ Token.quoted name ++ ": ".toList ++ prettyChars depth d
      ++ ',' :: prettyMembers depth members

end

def pretty (d : Data) : String :=
  .ofList (prettyChars 0 d)

end RequestQuery.Json
