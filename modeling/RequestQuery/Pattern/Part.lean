import RequestQuery.Pattern.Fault

namespace RequestQuery.Pattern

-- What a part of a pattern means. A part may read well and mean nothing, which counts only once all is
-- read.
abbrev Meaning (α : Type) :=
  Except Fault α

def fail {α : Type} (flaw : Flaw) (span : Span) : Except Fault α :=
  .error { flaw, span }

-- How parts lie in each other.
inductive Outline
  -- nothing lies in it
  | leaf
  | node (span : Span) (inner : List Outline)

namespace Outline

mutual

-- The first part that lies in more others than allowed.
def tooDeep? (allowed : Nat) : Outline → Option Span
  | leaf => none
  | node span inner =>
    match allowed with
    | 0           => some span
    | allowed + 1 => anyTooDeep? allowed inner

def anyTooDeep? (allowed : Nat) : List Outline → Option Span
  | []           => none
  | o :: outlines => (tooDeep? allowed o).or (anyTooDeep? allowed outlines)

end

-- How many parts may lie in each other.
def depthLimit : Nat := 250

def check (o : Outline) : Except Fault Unit :=
  match o.tooDeep? depthLimit with
  | some span => fail .tooDeep span
  | none      => .ok ()

end Outline

structure Part (α : Type) where
  span    : Span
  meaning : Meaning α
  outline : Outline := .leaf

namespace Part

variable {α β : Type}

-- A part around another.
def around (span : Span) (f : Meaning α → Meaning β) (p : Part α) : Part β :=
  ⟨span, f p.meaning, .node span [p.outline]⟩

-- Parts in a row as one, unless there is just one. What there is if there is none goes by `place`.
def join (f : List α → α) (place : Span) (parts : List (Part α)) : Part α :=
  match parts with
  | [part] => part
  | []     => ⟨place, .ok (f []), .leaf⟩
  | parts  => ⟨place, f <$> parts.mapM (·.meaning), .node place (parts.map (·.outline))⟩

end Part

end RequestQuery.Pattern
