import RequestQuery.Filter.Clause
import RequestQuery.Proofs.Text.Shape

namespace RequestQuery

namespace Comparison

theorem isSymbol_symbol (c : Comparison) : isSymbol c.symbol := by
  simp [isSymbol]

theorem isSymbol_iff {x : Char} : isSymbol x ↔ x = '=' ∨ x = '<' ∨ x = '>' where
  mp h := by
    have ⟨c, hc⟩ := Option.isSome_iff_exists.mp h
    rw [ofSymbol?_eq_some_iff.mp hc]
    cases c <;> simp [symbol]
  mpr h := by
    rcases h with rfl | rfl | rfl <;> rfl

theorem not_blank_of_isSymbol {x : Char} (h : isSymbol x) : Text.isBlank x = false := by
  rcases isSymbol_iff.mp h with rfl | rfl | rfl <;> decide

theorem ofSymbol?_eq_none {x : Char} (h : isSymbol x = false) : ofSymbol? x = none := by
  simpa [isSymbol] using h

end Comparison

namespace Clause

open Comparison

variable {c : Char} {cs field operand : List Char} {comparison : Comparison}

theorem isWordChar_symbol (c : Comparison) : isWordChar c.symbol = false := by
  cases c <;> decide

theorem not_isSymbol_of_isWordChar (h : isWordChar c) : isSymbol c = false := by
  cases hs : ofSymbol? c
  case none => simp [isSymbol, hs]
  case some s => simp [ofSymbol?_eq_some_iff.mp hs, isWordChar_symbol] at h

-- The comparison of a joint whose word ends right before a text.
def symbolAhead? : List Char → Option Comparison
  | symbol :: after :: _ => if isValueChar after then ofSymbol? symbol else none
  | _ => none

theorem symbolAhead?_eq_none (h : isSymbol c = false) (cs : List Char) :
    symbolAhead? (c :: cs) = none := by
  cases cs <;> simp [symbolAhead?, ofSymbol?_eq_none h]

theorem fit?_behind_word (cs : List Char) :
    Text.Shape.fit? (joint.drop 2) cs = (symbolAhead? cs).map ([·.symbol]) := by
  match cs with
  | []       => rfl
  | [symbol] => simp [joint, Text.Shape.fit?, Text.Step.once?, symbolAhead?]
  | symbol :: after :: cs =>
    simp only [joint, List.drop_succ_cons, List.drop_zero, Text.Shape.fit?, Text.Step.once?,
      symbolAhead?, Bool.false_eq_true, if_false, if_true, Text.Step.run?_end, isSymbol]
    cases hs : ofSymbol? symbol
    case none => simp
    case some s => cases isValueChar after <;> simp [Text.Step.keep, ofSymbol?_eq_some_iff.mp hs]

-- The word of a joint goes on up to the symbol, as no symbol is a word character.
theorem fit?_joint_cons (c : Char) (cs : List Char) :
    joint.fit? (c :: cs) =
      if isWordChar c then (symbolAhead? (cs.dropWhile isWordChar)).map ([·.symbol]) else none := by
  have hr : Text.Shape.fit? (joint.drop 1) cs =
      (symbolAhead? (cs.dropWhile isWordChar)).map ([·.symbol]) := by
    rw [← fit?_behind_word]
    refine Text.Step.run?_eq_dropWhile rfl (fun d ds hd => ?_) cs
    have hn : Text.Shape.fit? (joint.drop 2) (d :: ds) = none := by
      rw [fit?_behind_word, symbolAhead?_eq_none (not_isSymbol_of_isWordChar hd), Option.map_none]
    exact hn
  rw [← hr]
  exact Text.Step.once?_cons rfl (Text.Shape.fit? (joint.drop 1)) c cs

-- The leftmost place where the shape fits need not be right before the symbol, as the word may be longer. The
-- symbol found is that of the leftmost joint nevertheless.
theorem find?_joint_cons (c : Char) (cs : List Char) :
    joint.find? (c :: cs) =
      ((if isWordChar c then symbolAhead? cs else none).map ([·.symbol])).or (joint.find? cs) := by
  rw [Text.Shape.find?, fit?_joint_cons]
  cases hc : isWordChar c
  case false => simp
  case true =>
    cases cs with
    | nil => simp [symbolAhead?]
    | cons d cs =>
      cases hd : isWordChar d
      case false =>
        rw [List.dropWhile_cons_of_neg (by simp [hd])]
        cases symbolAhead? (d :: cs) <;> simp
      case true =>
        -- The same joint fits one place further on.
        rw [List.dropWhile_cons_of_pos hd, symbolAhead?_eq_none (not_isSymbol_of_isWordChar hd),
          Text.Shape.find?, fit?_joint_cons, if_pos hd]
        cases symbolAhead? (cs.dropWhile isWordChar) <;> simp

theorem comparison?_cons (c : Char) (cs : List Char) :
    comparison? (c :: cs) =
      (if isWordChar c then symbolAhead? cs else none).or (comparison? cs) := by
  rw [comparison?, find?_joint_cons]
  cases (if isWordChar c then symbolAhead? cs else none) <;> simp [comparison?]

-- Without a symbol there is no joint.
theorem comparison?_eq_none (h : ∀ c ∈ cs, isSymbol c = false) : comparison? cs = none := by
  induction cs with
  | nil => rfl
  | cons c cs ih =>
    have hn : symbolAhead? cs = none := by
      cases cs with
      | nil => rfl
      | cons d cs => exact symbolAhead?_eq_none (h d (by simp)) cs
    simp [comparison?_cons, hn, ih fun d hd => h d (List.mem_cons_of_mem _ hd)]

-- The first symbol of a text decides if its two neighbours fit, and if they do not, what stands behind it does.
theorem comparison?_append_cons (hf : ∀ c ∈ field, isSymbol c = false) (comparison : Comparison)
    (operand : List Char) :
    comparison? (field ++ comparison.symbol :: operand) =
      if field.getLast?.any isWordChar && operand.head?.any isValueChar then
        some comparison
      else
        comparison? operand := by
  induction field with
  | nil => simp [comparison?_cons, isWordChar_symbol]
  | cons c field ih =>
    have ih := ih fun d hd => hf d (List.mem_cons_of_mem _ hd)
    rw [List.cons_append, comparison?_cons, ih]
    cases field with
    | nil =>
      cases operand with
      | nil => simp [symbolAhead?]
      | cons after operand =>
        cases hc : isWordChar c <;> cases ha : isValueChar after <;> simp [symbolAhead?, hc, ha]
    | cons d field =>
      rw [List.cons_append, symbolAhead?_eq_none (hf d (by simp)), ite_self, Option.none_or,
        List.getLast?_cons_cons]

-- Around the only symbol of a text, only the two neighbours decide.
theorem comparison?_append_symbol (hf : ∀ c ∈ field, isSymbol c = false)
    (ho : ∀ c ∈ operand, isSymbol c = false) :
    comparison? (field ++ comparison.symbol :: operand) =
      if field.getLast?.any isWordChar && operand.head?.any isValueChar then
        some comparison
      else
        none := by
  rw [comparison?_append_cons hf, comparison?_eq_none ho]

end Clause

end RequestQuery
