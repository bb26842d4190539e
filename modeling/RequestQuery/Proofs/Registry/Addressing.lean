import Mathlib.Control.Monad.Basic
import RequestQuery.Proofs.SortKey
import RequestQuery.Proofs.Filter.RoundTrip
import RequestQuery.Proofs.Registry.Run

namespace RequestQuery

open Text

namespace Clause

variable {entity : Entity} {c : Char} {cs : List Char} {comparison : Comparison} {name : String}
  {p : Predicate}

theorem not_blank_of_isWordChar (h : isWordChar c) : isBlank c = false := by
  rw [isWordChar, Bool.or_eq_true, beq_iff_eq] at h
  rcases h with h | rfl
  · exact not_blank_of_isAlphanum h
  · decide

-- Only around the one symbol there can be a joint, so that the field ends in a word as it stands.
theorem getLast?_field (hs : cs.countP Comparison.isSymbol = 1)
    (hc : comparison? cs = some comparison) : ∃ c ∈ (field cs).getLast?, isWordChar c := by
  obtain ⟨before, symbol, after, rfl, hs, hb, ha⟩ := exists_append_of_countP hs
  obtain ⟨comparison, hs'⟩ := Option.isSome_iff_exists.mp hs
  obtain rfl := Comparison.ofSymbol?_eq_some_iff.mp hs'
  rw [comparison?_append_symbol hb ha, Option.ite_none_right_eq_some, Bool.and_eq_true,
    Option.any_eq_true] at hc
  obtain ⟨⟨⟨c, hl, hw⟩, _⟩, _⟩ := hc
  refine ⟨c, ?_, hw⟩
  rw [field, List.splitOnP_append_cons_of_forall_mem hb _ hs]
  exact getLast?_trim hl (not_blank_of_isWordChar hw)

theorem countP_clause (h : Clean entity name p) :
    (p.clause name).toList.countP Comparison.isSymbol = 1 := by
  have none_of_free {cs : List Char} (h : Free cs Filter.marks) :
      cs.countP Comparison.isSymbol = 0 :=
    List.countP_eq_zero.mpr fun c hc => by simp [not_isSymbol_of_free h c hc]
  rw [Predicate.clause, String.toList_ofList, List.countP_append,
    List.countP_cons_of_pos (Comparison.isSymbol_symbol _), none_of_free h.free,
    none_of_free (Predicate.free_operand h.operand)]

end Clause

namespace Filter

variable {entity : Entity} {text field : String} {filter : Filter} {p : Predicate}

-- A name that is read back from a clause written for it.
structure Nameable (field : String) : Prop where
  trimmed : Trimmed field.toList
  free    : Free field.toList marks
  word    : ∃ c ∈ field.toList.getLast?, Clause.isWordChar c

-- In no piece of the text a second symbol follows the first one.
def Plain (text : String) : Prop :=
  ∀ piece ∈ text.toList.splitOn '&', piece.countP Comparison.isSymbol = 1

theorem nameable_of_ofText (ht : Plain text) (h : ofText entity text = .ok filter)
    (hm : (field, p) ∈ filter.entries) : Nameable field := by
  have hc := clean_of_ofText h hm
  obtain ⟨clauses, hr, rfl⟩ := ofText_eq_ok_iff.mp h
  have ⟨piece, hp, hr⟩ := List.mem_map.mp (hr ▸ List.mem_map_of_mem (mem_of_mem_ofClauses hm))
  obtain ⟨comparison, hj, _, _, hf, _⟩ := Clause.ofText_eq_ok_condition_iff.mp hr
  refine ⟨hc.trimmed, hc.free, ?_⟩
  rw [← hf, String.toList_ofList]
  exact Clause.getLast?_field (ht piece hp) hj

-- An empty value in quotes will do.
theorem exists_plain_ofText (hf : entity.hasField field) (hn : Nameable field) :
    ∃ text filter, Plain text ∧ ofText entity text = .ok filter ∧
      filter.get? field = some (.equals "") := by
  let filter : Filter := .ofList [(field, .equals "")]
  have hs : filter.entries = [(field, .equals "")] := SortedMap.entries_ofList_singleton _
  have hne : filter ≠ ∅ := by simp [SortedMap.eq_empty_iff, hs]
  have he (f p) (hm : (f, p) ∈ filter.entries) : Clause.Clean entity f p ∧ Clause.Joined f p := by
    cases List.mem_singleton.mp (hs ▸ hm)
    exact ⟨⟨hf, hn.trimmed, hn.free, by simp [Predicate.Clean, Free]⟩, ⟨hn.word, trivial⟩⟩
  refine ⟨filter.text, filter, fun piece hp => ?_, ofText_text hne he, ?_⟩
  · rw [splitOn_text (fun f p hm => (he f p hm).1) hne] at hp
    obtain ⟨e, hm, rfl⟩ := List.mem_map.mp hp
    exact Clause.countP_clause (he e.1 e.2 hm).1
  · rw [← SortedMap.mem_entries_iff, hs]
    exact List.mem_singleton_self _

theorem exists_plain_ofGiven_iff (hf : entity.hasField field) :
    (∃ text filter p, Plain text ∧ ofGiven entity (.once text) = .ok filter ∧
      filter.get? field = some p) ↔ Nameable field := by
  simp only [ofGiven_once_eq_ok_iff]
  constructor
  case mp =>
    rintro ⟨text, filter, p, ht, h, hp⟩
    exact nameable_of_ofText ht h (SortedMap.mem_entries_iff.mpr hp)
  case mpr =>
    intro hn
    obtain ⟨text, filter, ht, h, hp⟩ := exists_plain_ofText hf hn
    exact ⟨text, filter, _, ht, h, hp⟩

end Filter

namespace SortKey

variable {entity : Entity} {field : String}

-- A name without a blank is a text with one word.
theorem exists_ofGiven_iff (hf : entity.hasField field) (hne : field ≠ "") :
    (∃ text key, ofGiven entity (.once text) = .ok key ∧ key.field = field) ↔
      ∀ c ∈ field.toList, isBlank c = false where
  mp h := by
    obtain ⟨text, key, h, rfl⟩ := h
    exact (fragment_of_ofGiven h).unblank
  mpr h := by
    have hw : (Text.words field.toList).map String.ofList = [field] := by
      rw [words_eq_singleton (by simpa using hne) h, List.map_singleton, String.ofList_toList]
    exact ⟨field, { field }, ofGiven_once_eq_ok_iff.mpr (ofText_eq_ok_iff.mpr ⟨hf, .plain, hw⟩), rfl⟩

end SortKey

namespace Registry

variable {ops : List Operation} {e : Entity} {field : String}

-- A name that is read from a clause may have inner blanks, and a name to sort by may end in any character
-- that is not blank, so that neither condition implies the other.
theorem addressable_iff (he : e ∈ (run {} ops).entities) (hf : e.hasField field) :
    ((∃ text key, SortKey.ofGiven e (.once text) = .ok key ∧ key.field = field) ↔
      ∀ c ∈ field.toList, isBlank c = false) ∧
    ((∃ text filter p, Filter.Plain text ∧ Filter.ofGiven e (.once text) = .ok filter ∧
      filter.get? field = some p) ↔ Filter.Nameable field) := by
  have hb : isBlankText field = false := (sound_empty.run ops).fields e he field hf
  have hne : field ≠ "" := by
    rintro rfl
    cases hb
  exact ⟨SortKey.exists_ofGiven_iff hf hne, Filter.exists_plain_ofGiven_iff hf⟩

-- No request sorts by `order date`, and no plain filter asks for `payé`.
theorem addressable_iff_order :
    let ops := [Operation.replace "[[entity]]\nname = 'Order'\nfields = ['order date', 'payé']",
      .register (.ofNames "Order" ["id"])]
    let e := Entity.ofNames "Order" ["order date", "payé"]
    e ∈ (run {} ops).entities ∧ e.hasField "order date" ∧ e.hasField "payé" ∧
      (¬∃ text key, SortKey.ofGiven e (.once text) = .ok key ∧ key.field = "order date") ∧
      (∃ text filter p, Filter.Plain text ∧ Filter.ofGiven e (.once text) = .ok filter ∧
        filter.get? "order date" = some p) ∧
      (∃ text key, SortKey.ofGiven e (.once text) = .ok key ∧ key.field = "payé") ∧
      ¬∃ text filter p, Filter.Plain text ∧ Filter.ofGiven e (.once text) = .ok filter ∧
        filter.get? "payé" = some p := by
  intro ops e
  have he : e ∈ (run {} ops).entities := by decide +kernel
  have hd : e.hasField "order date" := by decide +kernel
  have hp : e.hasField "payé" := by decide +kernel
  have ⟨sortedByDate, filteredByDate⟩ := addressable_iff he hd
  have ⟨sortedByPaid, filteredByPaid⟩ := addressable_iff he hp
  refine ⟨he, hd, hp, ?_, ?_, ?_, ?_⟩
  · rw [sortedByDate]
    exact fun h => absurd (h ' ' (by decide)) (by decide)
  · rw [filteredByDate]
    exact ⟨trim_eq_self_iff.mp (by decide), by simp [Free]; decide, 'e', rfl, by decide⟩
  · rw [sortedByPaid]
    simp
    decide
  · rw [filteredByPaid]
    intro h
    obtain ⟨c, hc, hw⟩ := h.word
    cases hc
    exact absurd hw (by decide)

end Registry

end RequestQuery
