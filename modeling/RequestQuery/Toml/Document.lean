import RequestQuery.Toml.Value

namespace RequestQuery.Toml

inductive Statement
  | table (path : List String)
  | row (path : List String)
  | assignment (key : List String) (d : Data)

namespace Statement

-- Cuts at the line ends that are outside of brackets and braces.
def lines (depth : Nat) : List Token → List (List Token)
  | [] => [[]]
  | token :: tokens =>
    match token with
    | .newline =>
      if depth = 0 then
        [] :: lines depth tokens
      else
        (lines depth tokens).modifyHead (token :: ·)
    | .beginList | .beginTable => (lines (depth + 1) tokens).modifyHead (token :: ·)
    | .endList | .endTable     => (lines (depth - 1) tokens).modifyHead (token :: ·)
    | _                        => (lines depth tokens).modifyHead (token :: ·)

def withoutGaps (tokens : List Token) : List Token :=
  tokens.filter (· != .gap)

def trimmed (tokens : List Token) : List Token :=
  ((tokens.dropWhile (· == .gap)).reverse.dropWhile (· == .gap)).reverse

-- The key between the brackets of a header.
def header? (closing : List Token) (tokens : List Token) : Option (List String) :=
  if closing.isSuffixOf tokens then
    Key.ofTokens? (withoutGaps (tokens.take (tokens.length - closing.length)))
  else
    none

-- The statement of a line, if there is any.
def ofLine? (tokens : List Token) : Option (Option Statement) :=
  match trimmed tokens with
  | [] => some none
  | .beginList :: .beginList :: tokens => (some ∘ row) <$> header? [.endList, .endList] tokens
  | .beginList :: tokens               => (some ∘ table) <$> header? [.endList] tokens
  | tokens => do
    let tokens := withoutGaps tokens
    let key ← Key.ofTokens? (tokens.takeWhile (· != .equals))
    let d ← Value.ofTokens? ((tokens.dropWhile (· != .equals)).drop 1)
    return some (assignment key d)

end Statement

-- The tables so far and the path of the one that keys now belong to.
structure Builder where
  root    : Table := []
  current : List String := []

namespace Builder

def step (b : Builder) : Statement → Option Builder
  | .assignment key d => do
    return { b with root := ← b.root.within (Table.assign d key) b.current }
  | .table path => do
    return ⟨← b.root.within (Table.declare (← path.getLast?)) path.dropLast, path⟩
  | .row path => do
    return ⟨← b.root.within (Table.addRow (← path.getLast?)) path.dropLast, path⟩

end Builder

def ofStatements? (statements : List Statement) : Option Data := do
  return (← statements.foldlM Builder.step {}).root.data

-- A byte order mark in front is no part of the document.
def withoutMark : List Char → List Char
  | '\uFEFF' :: cs => cs
  | cs => cs

def ofText? (text : String) : Option Data := do
  let tokens ← Token.scan .between (withoutMark text.toList)
  let statements ← (Statement.lines 0 tokens).mapM Statement.ofLine?
  ofStatements? (statements.filterMap id)

end RequestQuery.Toml
