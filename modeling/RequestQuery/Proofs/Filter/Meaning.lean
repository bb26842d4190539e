import Mathlib.Control.Monad.Basic
import RequestQuery.Proofs.Filter.Content
import RequestQuery.Proofs.Filter.Joint

namespace RequestQuery

namespace Clause

variable {c : Char} {cs piece : List Char} {i : Nat}

-- The symbol at a place, if a word character stands before it and a value character behind it.
def jointAt? (piece : List Char) (i : Nat) : Option Comparison :=
  if 0 < i ∧ piece[i - 1]?.any isWordChar ∧ piece[i + 1]?.any isValueChar then
    piece[i]?.bind Comparison.ofSymbol?
  else
    none

-- Which symbol decides.
def leftmostJoint? (piece : List Char) : Option Comparison :=
  (List.range piece.length).findSome? (jointAt? piece)

def beforeSymbol (piece : List Char) : List Char :=
  Text.trim (piece.takeWhile (!Comparison.isSymbol ·))

def betweenSymbols (piece : List Char) : List Char :=
  Text.trim (((piece.dropWhile (!Comparison.isSymbol ·)).drop 1).takeWhile (!Comparison.isSymbol ·))

def meaning (entity : Entity) (piece : List Char) : Except Rejection Clause :=
  match leftmostJoint? piece with
  | none =>
    .error {
      message   := s!"The {String.ofList piece} is not a valid filter"
      kind      := .malformedClause
      parameter := some "filter"
    }
  | some comparison =>
    let field := String.ofList (beforeSymbol piece)
    if betweenSymbols piece = [] then
      .ok vacuous
    else if entity.hasField field then
      .ok (condition field (predicate comparison (betweenSymbols piece)))
    else
      .error {
        message   := s!"The {field} is not a valid field in the {entity.name}"
        kind      := .unknownField
        parameter := some "filter"
      }

theorem jointAt?_zero (piece : List Char) : jointAt? piece 0 = none :=
  rfl

theorem jointAt?_one (c : Char) (cs : List Char) :
    jointAt? (c :: cs) 1 = if isWordChar c then symbolAhead? cs else none := by
  match cs with
  | []       => simp [jointAt?, symbolAhead?]
  | [symbol] => simp [jointAt?, symbolAhead?]
  | symbol :: after :: cs =>
    cases hc : isWordChar c <;> cases ha : isValueChar after <;>
      simp [jointAt?, symbolAhead?, hc, ha]

-- The first character counts only for a symbol right behind it.
theorem jointAt?_cons (c : Char) (cs : List Char) (i : Nat) :
    jointAt? (c :: cs) (i + 2) = jointAt? cs (i + 1) := by
  simp [jointAt?]

theorem leftmostJoint?_eq_findSome?_tail (c : Char) (cs : List Char) :
    leftmostJoint? (c :: cs) =
      (List.range cs.length).findSome? fun i => jointAt? (c :: cs) (i + 1) := by
  rw [leftmostJoint?, List.length_cons, List.range_succ_eq_map, List.findSome?_cons, jointAt?_zero,
    List.findSome?_map]
  rfl

theorem leftmostJoint?_cons (c : Char) (cs : List Char) :
    leftmostJoint? (c :: cs) =
      (if isWordChar c then symbolAhead? cs else none).or (leftmostJoint? cs) := by
  rw [leftmostJoint?_eq_findSome?_tail]
  cases cs with
  | nil => simp [symbolAhead?, leftmostJoint?]
  | cons d cs =>
    rw [leftmostJoint?_eq_findSome?_tail, List.length_cons, List.range_succ_eq_map,
      List.findSome?_cons, jointAt?_one, List.findSome?_map]
    simp only [Function.comp_def, jointAt?_cons]
    cases (if isWordChar c then symbolAhead? (d :: cs) else none) <;> rfl

theorem comparison?_eq_leftmostJoint? (piece : List Char) :
    comparison? piece = leftmostJoint? piece := by
  induction piece with
  | nil => rfl
  | cons c cs ih => rw [comparison?_cons, leftmostJoint?_cons, ih]

theorem field_eq_beforeSymbol (piece : List Char) : field piece = beforeSymbol piece := by
  rw [field, Text.splitOnP_eq_takeWhile_cons]
  rfl

theorem value_eq_betweenSymbols (piece : List Char) : value piece = betweenSymbols piece := by
  rw [value, betweenSymbols, Text.splitOnP_eq_takeWhile_cons]
  cases piece.dropWhile (!Comparison.isSymbol ·)
  case nil => rfl
  case cons symbol rest =>
    simp only [List.drop_succ_cons, List.drop_zero, List.getElem?_cons_succ]
    rw [Text.splitOnP_eq_takeWhile_cons]
    rfl

theorem ofText_eq_meaning (entity : Entity) (piece : List Char) :
    ofText entity piece = meaning entity piece := by
  rw [ofText, meaning, comparison?_eq_leftmostJoint?, field_eq_beforeSymbol, value_eq_betweenSymbols]
  cases leftmostJoint? piece
  case none => rfl
  case some comparison => simp only [List.isEmpty_iff]; rfl

-- What a clause asks of a field.
def about? (field : String) : Clause → Option Predicate
  | vacuous => none
  | condition name predicate => if name = field then some predicate else none

end Clause

namespace Filter

variable {entity : Entity} {text field : String} {clauses : List Clause}

-- What a piece of the text stores under a field.
def storedUnder? (entity : Entity) (field : String) (piece : List Char) : Option Predicate :=
  (Clause.meaning entity piece).toOption.bind (Clause.about? field)

theorem lookup_filterMap_condition? (clauses : List Clause) (field : String) :
    (clauses.filterMap Clause.condition?).lookup field =
      clauses.findSome? (Clause.about? field) := by
  induction clauses with
  | nil => rfl
  | cons clause clauses ih =>
    rw [List.findSome?_cons]
    cases clause
    case vacuous =>
      rw [List.filterMap_cons_none rfl, ih]
      rfl
    case condition name p =>
      have hc : (Clause.condition name p).condition? = some (name, p) := rfl
      rw [List.filterMap_cons_some hc, SortedMap.lookup_cons, Clause.about?]
      by_cases h : name = field
      case pos => simp [h]
      case neg => simp [h, Ne.symm h, ih]

theorem get?_ofClauses (clauses : List Clause) (field : String) :
    (ofClauses clauses).get? field = clauses.reverse.findSome? (Clause.about? field) := by
  rw [ofClauses, SortedMap.get?_ofList, ← List.filterMap_reverse, lookup_filterMap_condition?]

theorem ofGiven_once (entity : Entity) (h : text ≠ "") :
    ofGiven entity (.once text) =
      ofClauses <$> (text.toList.splitOn '&').mapM (Clause.meaning entity) := by
  have hm : Clause.ofText entity = Clause.meaning entity := funext (Clause.ofText_eq_meaning entity)
  rw [ofGiven, Given.sole_once h, ← hm]
  rfl

-- The first piece that is refused decides. If none is, each field has the predicate of the last piece
-- that stores one under it, and nothing else is in the filter.
theorem ofGiven_once_eq_meaning (entity : Entity) (h : text ≠ "") :
    let pieces := text.toList.splitOn '&'
    match pieces.findSome? (refused? ∘ Clause.meaning entity) with
    | some rejection => ofGiven entity (.once text) = .error rejection
    | none =>
      ∃ filter, ofGiven entity (.once text) = .ok filter ∧
        ∀ field, filter.get? field = pieces.reverse.findSome? (storedUnder? entity field) := by
  intro pieces
  rw [ofGiven_once entity h]
  split
  case h_1 rejection hr =>
    rw [mapM_eq_error_iff.mpr hr]
    rfl
  case h_2 hn =>
    cases hm : pieces.mapM (Clause.meaning entity)
    case error =>
      rw [mapM_eq_error_iff.mp hm] at hn
      cases hn
    case ok clauses =>
      have hc : pieces.reverse.map (Clause.meaning entity) = clauses.reverse.map .ok := by
        rw [List.map_reverse, mapM_eq_ok_iff.mp hm, List.map_reverse]
      refine ⟨ofClauses clauses, rfl, fun field => ?_⟩
      rw [get?_ofClauses, findSome?_eq_of_map_eq hc]
      rfl

-- The first piece says nothing, although there is no field of its name. The joint of the last one
-- is `b<1`.
theorem ofGiven_once_eq_meaning_duplicate :
    let entity := Entity.ofNames "User" ["age", "status"]
    let text := "bogus= =b=1&age=1& status=in('A', b)&age =-b<1"
    text ≠ "" ∧ ∃ filter, ofGiven entity (.once text) = .ok filter ∧
      filter.get? "age" = some (.lessThan "-b") ∧ filter.get? "status" = some (.oneOf ["A", "b"]) ∧
      filter.get? "bogus" = none := by
  intro entity text
  have hne : text ≠ "" := by decide
  have h := ofGiven_once_eq_meaning entity hne
  have hn : (text.toList.splitOn '&').findSome? (refused? ∘ Clause.meaning entity) = none := by
    decide +kernel
  simp only [hn] at h
  have ⟨filter, hf, hg⟩ := h
  refine ⟨hne, filter, hf, ?_, ?_, ?_⟩
  · rw [hg]; decide +kernel
  · rw [hg]; decide +kernel
  · rw [hg]; decide +kernel

end Filter

end RequestQuery
