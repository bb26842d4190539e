import RequestQuery.Json.Writer
import RequestQuery.Proofs.Json.Token
import RequestQuery.Proofs.PageNumber.Strict
import RequestQuery.Proofs.Text.Blank

namespace RequestQuery

open Decimal

theorem Json.Token.not_blank_of_isWordChar {c : Char} (h : isWordChar c) : Text.isBlank c = false := by
  simp only [isWordChar, Bool.or_eq_true, beq_iff_eq] at h
  rcases h with ((h | rfl) | rfl) | rfl
  · exact Text.not_blank_of_isAlphanum h
  all_goals decide

theorem Decimal.Literal.trim_chars (l : Literal) : Text.trim l.chars = l.chars :=
  Text.trim_eq_self_iff.mpr <| .of_forall fun _ hc =>
    Json.Token.not_blank_of_isWordChar (Json.Token.isWordChar_of_mem_chars hc)

namespace PageNumber

variable (n : PageNumber)

theorem complete_literal : n.literal.Complete := by
  cases n
  case integer i _ => exact Literal.complete_ofInt i
  case real x      => exact x.complete_shortest

-- An integer is written without point and exponent, and any other number with one of them.
theorem ofLiteral?_literal : ofLiteral? n.literal = some n := by
  cases n
  case integer i fits =>
    exact ofLiteral?_of_integer? (Literal.integer?_ofInt i) fits
  case real x =>
    have hx : (real x).literal.integer? = none := x.integer?_shortest
    rw [ofLiteral?, hx]
    exact congrArg (Option.map real) x.ofLiteral?_shortest

theorem ofText?_text : ofText? n.text = some n := by
  refine ofText?_eq_some_iff.mpr ⟨n.literal, ?_, n.ofLiteral?_literal⟩
  rw [text, String.toList_ofList, Literal.trim_chars, Literal.ofChars?_chars n.complete_literal]

theorem text_ne_empty : n.text ≠ "" := by
  intro h
  have hn := n.ofText?_text
  have he : ofText? "" = none := rfl
  simp [h, he] at hn

theorem compact_toData : Json.compact n.toData = n.text := by
  refine congrArg String.ofList ?_
  cases n
  case integer i _ => exact (List.append_nil _).trans (Json.Token.chars_integer i)
  case real x      => exact List.append_nil _

-- Strict bounds let pass what they let pass before.
theorem ofGiven_text (k : Parameter) {strict : Bool} (h : strict → n.isNatural) :
    ofGiven k strict (.once n.text) = .ok n := by
  rw [ofGiven_eq_bind, bind_eq_ok_iff]
  exact ⟨n.text, Given.sole_once n.text_ne_empty, ofText_eq_ok n.ofText?_text h⟩

end PageNumber

end RequestQuery
