namespace RequestQuery.Text

structure Step where
  kind     : Char → Bool
  -- any number of characters, as many as can be
  repeated : Bool := false
  kept     : Bool := false

abbrev Shape := List Step

namespace Step

def keep (step : Step) (c : Char) (kept : List Char) : List Char :=
  if step.kept then c :: kept else kept

-- One character, with `rest` behind it.
def once? (step : Step) (rest : List Char → Option (List Char)) : List Char → Option (List Char)
  | [] => none
  | c :: cs => if step.kind c then (rest cs).map (step.keep c) else none

-- A run of characters, with `rest` behind it. The run gives characters back where `rest` does not fit.
def run? (step : Step) (rest : List Char → Option (List Char)) : List Char → Option (List Char)
  | [] => rest []
  | c :: cs =>
    if step.kind c then
      match step.run? rest cs with
      | some kept => some (step.keep c kept)
      | none      => rest (c :: cs)
    else
      rest (c :: cs)

end Step

namespace Shape

-- What is kept if the shape fits at the front of a text.
def fit? : Shape → List Char → Option (List Char)
  | [] => fun _ => some []
  | step :: shape => if step.repeated then step.run? (fit? shape) else step.once? (fit? shape)

-- What is kept at the leftmost place where the shape fits.
def find? (shape : Shape) : List Char → Option (List Char)
  | [] => fit? shape []
  | c :: cs =>
    match fit? shape (c :: cs) with
    | some kept => some kept
    | none      => find? shape cs

end Shape

end RequestQuery.Text
