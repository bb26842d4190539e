import RequestQuery.Toml.Scalar
import RequestQuery.Toml.Table
import RequestQuery.Toml.Token

namespace RequestQuery.Toml

namespace Key

def isBareChar (c : Char) : Bool :=
  c.isAlphanum || c == '_' || c == '-'

-- The parts and dots in a token, a dot being `none`.
def parts? : Token → Option (List (Option String))
  | .text cs => some [some (.ofList cs)]
  | .word cs =>
    if cs.all fun c => isBareChar c || c == '.' then
      some <| ([none].intercalate ((cs.splitOn '.').map fun part =>
        if part.isEmpty then [] else [some (.ofList part)]))
    else
      none
  | _ => none

-- A part, and then again and again a dot and a part.
def path? : List (Option String) → Option (List String)
  | [some part]                 => some [part]
  | some part :: none :: others => (part :: ·) <$> path? others
  | _ => none

-- How many parts a key may have.
def lengthLimit : Nat := 80

def ofTokens? (tokens : List Token) : Option (List String) := do
  let path ← path? (← tokens.mapM parts?).flatten
  if path.length ≤ lengthLimit then some path else none

end Key

namespace Value

inductive Frame
  -- the latest item first
  | list (items : List Data)
  | inlineTable (table : Table)
  | entry (key : List String) (table : Table)

-- What may come next.
inductive Goal
  | value
  | itemOrEnd
  -- with the tokens of a key so far, the latest first
  | key (tokens : List Token)
  -- behind a key that a line end has completed
  | equals (key : List Token)
  | commaOrEnd

structure Reader where
  stack : List Frame := [.list []]
  goal  : Goal := .value

namespace Reader

-- How deep lists and inline tables may be nested.
def depthLimit : Nat := 80

def finish (d : Data) : List Frame → Option Reader
  | .list items :: stack      => some ⟨.list (d :: items) :: stack, .commaOrEnd⟩
  | .entry key table :: stack => do
    return ⟨.inlineTable (← table.assign d key) :: stack, .commaOrEnd⟩
  | _ => none

def close : List Frame → Option Reader
  | .list items :: stack        => finish (.list items.reverse) stack
  | .inlineTable table :: stack => finish table.data stack
  | _ => none

def openFrame (frame : Frame) (goal : Goal) (stack : List Frame) : Option Reader :=
  if stack.length ≤ depthLimit then some ⟨frame :: stack, goal⟩ else none

def readValue (stack : List Frame) : Token → Option Reader
  | .word cs                => do finish (← Scalar.ofWord? cs) stack
  | .text cs | .longText cs => finish (.text (.ofList cs)) stack
  | .beginList              => openFrame (.list []) .itemOrEnd stack
  | .beginTable             => openFrame (.inlineTable []) (.key []) stack
  | _                       => none

-- The tokens of a key have come to their end, the latest first.
def openEntry (key : List Token) : List Frame → Option Reader
  | .inlineTable table :: stack => do
    return ⟨.entry (← Key.ofTokens? key.reverse) table :: stack, .value⟩
  | _ => none

-- Lines may end anywhere within brackets and braces but inside of a key.
def step (r : Reader) (token : Token) : Option Reader :=
  match r.goal, token with
  | .key [], .newline    => some r
  | .key key, .newline   => some { r with goal := .equals key }
  | _, .newline          => some r
  | .itemOrEnd, .endList => close r.stack
  | .key [], .endTable   => close r.stack
  | .value, t | .itemOrEnd, t => readValue r.stack t
  | .key key, .equals | .equals key, .equals => openEntry key r.stack
  | .key key, t => some { r with goal := .key (t :: key) }
  | .equals _, _ => none
  | .commaOrEnd, t =>
    match r.stack, t with
    | .list _ :: _, .comma           => some { r with goal := .itemOrEnd }
    | .list _ :: _, .endList         => close r.stack
    | .inlineTable _ :: _, .comma    => some { r with goal := .key [] }
    | .inlineTable _ :: _, .endTable => close r.stack
    | _, _ => none

def result? : Reader → Option Data
  | ⟨[.list [d]], .commaOrEnd⟩ => some d
  | _ => none

end Reader

def ofTokens? (tokens : List Token) : Option Data :=
  tokens.foldlM Reader.step {} >>= Reader.result?

end Value

end RequestQuery.Toml
