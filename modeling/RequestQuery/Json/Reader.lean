import RequestQuery.Json.Token

namespace RequestQuery.Json

-- A list or record that is open; the latest item or member comes first.
inductive Frame
  | list (items : List Data)
  -- `none` stands for a name that no text can be
  | record (members : List (Option String × Data))
  | member (name : Option String) (members : List (Option String × Data))

namespace Frame

def data? : Frame → Option Data
  | list items     => some (.list items.reverse)
  | record members =>
    match members.reverse.mapM fun (name, d) => name.map (·, d) with
    | some members => some (.record members)
    | none         => some .foreign
  | member _ _     => none

-- Puts a complete value where it belongs.
def put (d : Data) : List Frame → Option (List Frame)
  | list items :: stack          => some (list (d :: items) :: stack)
  | member name members :: stack => some (record ((name, d) :: members) :: stack)
  | _ => none

end Frame

-- What may come next.
inductive Goal
  | value
  | valueOrEnd
  | name
  | nameOrEnd
  | colon
  | commaOrEnd
  deriving DecidableEq

structure Reader where
  stack : List Frame := [.list []]
  goal  : Goal := .value

namespace Reader

def finish (d : Data) (stack : List Frame) : Option Reader := do
  return ⟨← Frame.put d stack, .commaOrEnd⟩

def close : List Frame → Option Reader
  | frame :: stack => do finish (← frame.data?) stack
  | []             => none

def readValue (stack : List Frame) : Token → Option Reader
  | .atom d         => finish d stack
  | .text (some s)  => finish (.text s) stack
  | .text none      => finish .foreign stack
  | .beginList      => some ⟨.list [] :: stack, .valueOrEnd⟩
  | .beginRecord    => some ⟨.record [] :: stack, .nameOrEnd⟩
  | _               => none

def readName : List Frame → Token → Option Reader
  | .record members :: stack, .text name => some ⟨.member name members :: stack, .colon⟩
  | _, _ => none

def step (r : Reader) (token : Token) : Option Reader :=
  match r.goal, token with
  | .valueOrEnd, .endList   => close r.stack
  | .nameOrEnd, .endRecord  => close r.stack
  | .value, t | .valueOrEnd, t => readValue r.stack t
  | .name, t | .nameOrEnd, t   => readName r.stack t
  | .colon, .colon          => some ⟨r.stack, .value⟩
  | .colon, _               => none
  | .commaOrEnd, t =>
    match r.stack, t with
    | .list _ :: _, .comma       => some ⟨r.stack, .value⟩
    | .list _ :: _, .endList     => close r.stack
    | .record _ :: _, .comma     => some ⟨r.stack, .name⟩
    | .record _ :: _, .endRecord => close r.stack
    | _, _ => none

def result? : Reader → Option Data
  | ⟨[.list [d]], .commaOrEnd⟩ => some d
  | _ => none

end Reader

def ofTokens? (tokens : List Token) : Option Data :=
  tokens.foldlM Reader.step {} >>= Reader.result?

def ofText? (text : String) : Option Data :=
  Token.scan .between text.toList >>= ofTokens?

end RequestQuery.Json
