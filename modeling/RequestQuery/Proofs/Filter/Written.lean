import RequestQuery.Proofs.Filter.Listing

namespace RequestQuery

open Text RequestQuery.Filter

namespace Text

theorem free_append_iff {cs ds banned : List Char} :
    Free (cs ++ ds) banned ↔ Free cs banned ∧ Free ds banned := by
  simp only [Free, List.mem_append, or_imp, forall_and]

theorem Free.intercalate {s : Char} {xs : List (List Char)} {banned : List Char} (hs : s ∉ banned)
    (h : ∀ x ∈ xs, Free x banned) : Free ([s].intercalate xs) banned := by
  induction xs with
  | nil => exact fun c hc => absurd hc (List.not_mem_nil)
  | cons x xs ih =>
    have hx := h x List.mem_cons_self
    have ih := ih fun y hy => h y (List.mem_cons_of_mem _ hy)
    cases xs
    case nil => simpa using hx
    case cons =>
      rw [List.intercalate_cons_cons, free_append_iff, free_append_iff]
      exact ⟨⟨hx, by simpa [Free] using hs⟩, ih⟩

end Text

namespace Predicate

open operand

variable {p : Predicate} {value : String} {values : List String} {banned : List Char}

theorem free_quoted (hb : '\'' ∉ banned) (h : Free value.toList banned) :
    Free (quoted value) banned := by
  rw [quoted, ← List.singleton_append, List.append_assoc, free_append_iff, free_append_iff]
  exact ⟨by simpa [Free] using hb, h, by simpa [Free] using hb⟩

theorem free_quoteds (h : (oneOf values).Clean) :
    ∀ x ∈ values.map quoted, Free x (',' :: '\n' :: marks) := by
  intro x hx
  obtain ⟨v, hv, rfl⟩ := List.mem_map.mp hx
  exact free_quoted (by decide) (h.2 v hv).2.tail

theorem unquoted_quoted (h : '\'' ∉ value.toList) :
    Clause.unquoted (quoted value) = value.toList := by
  have hf : value.toList.filter (· != '\'') = value.toList := by
    refine List.filter_eq_self.mpr fun c hc => ?_
    have hne : c ≠ '\'' := fun he => h (he ▸ hc)
    simpa using hne
  simp [Clause.unquoted, quoted, hf]

theorem trimmed_quoted (value : String) : Trimmed (quoted value) :=
  .of_ends (by decide) (by decide) _

theorem trimmed_operand (h : p.Clean) : Trimmed p.operand := by
  cases p
  case equals value => exact trimmed_quoted value
  case oneOf values => exact .of_ends (by decide) (by decide) _
  case lessThan     => exact h.2.1
  case greaterThan  => exact h.2.1

theorem operand_ne_nil (h : p.Clean) : p.operand ≠ [] := by
  cases p
  case equals      => simp [operand, quoted]
  case oneOf       => simp [operand]
  case lessThan    => simpa [operand] using h.1
  case greaterThan => simpa [operand] using h.1

theorem free_operand (h : p.Clean) : Free p.operand marks := by
  cases p
  case equals value => exact free_quoted (by decide) (Free.tail h)
  case oneOf values =>
    have hv (x) (hx : x ∈ values.map quoted) : Free x marks :=
      (free_quoteds h x hx).tail.tail
    rw [operand, free_append_iff, free_append_iff]
    exact ⟨⟨by simp [Free]; decide, Free.intercalate (by decide) hv⟩, by simp [Free]; decide⟩
  case lessThan    => exact h.2.2
  case greaterThan => exact h.2.2

-- A quote and the letter of a list are value characters.
theorem head?_operand : p.operand.head?.any Clause.isValueChar ↔ p.Joins := by
  cases p
  case equals      => simp [operand, quoted, Joins]; decide
  case oneOf       => simp [operand, Joins]; decide
  case lessThan b    => cases h : b.toList <;> simp [operand, Joins, h]
  case greaterThan b => cases h : b.toList <;> simp [operand, Joins, h]

end Predicate

namespace Clause

open Predicate Predicate.operand

variable {entity : Entity} {name : String} {p : Predicate} {comparison : Comparison}
  {body : List Char}

-- The closing parenthesis at the end is the last one of the line.
theorem items?_oneOf {values : List String} (h : (oneOf values).Clean) :
    items? (oneOf values).operand = some (values.map String.toList) := by
  have hc : ∀ x ∈ values.map quoted, ',' ∉ x :=
    fun x hx => (free_quoteds h x hx).head
  have hn : '\n' ∉ [','].intercalate (values.map quoted) := by
    have hf (x) (hx : x ∈ values.map quoted) : Free x ('\n' :: marks) :=
      (free_quoteds h x hx).tail
    exact (Free.intercalate (by decide) hf).head
  have hv : values.map quoted ≠ [] := by simpa using h.1
  have ho : Opens (oneOf values).operand ([','].intercalate (values.map quoted) ++ [')']) :=
    ⟨[], by simp [operand], List.forall_mem_nil _⟩
  refine items?_eq_some_iff.mpr ⟨_, _, [], ho, ⟨rfl, hn, List.not_mem_nil⟩, ?_⟩
  rw [List.splitOn_intercalate ',' hc hv, List.map_map]
  refine List.map_congr_left fun v hv => ?_
  have ⟨ht, hf⟩ := h.2 v hv
  rw [Function.comp, Function.comp, unquoted_quoted hf.head, trim_eq_self_iff.mpr ht]

-- The value is quoted, so that it is not taken for a list.
theorem predicate_operand (h : p.Clean) : predicate p.comparison p.operand = p := by
  cases p
  case equals value =>
    have hi : items? (equals value).operand = none := rfl
    have hu := unquoted_quoted (Free.head h)
    simp only [comparison, predicate, hi]
    rw [operand, hu, String.ofList_toList]
  case oneOf values =>
    simp only [comparison, predicate, items?_oneOf h]
    simp [Function.comp_def]
  case lessThan b    => simp [comparison, predicate, operand]
  case greaterThan b => simp [comparison, predicate, operand]

theorem joined_iff :
    Joined name p ↔ name.toList.getLast?.any isWordChar && p.operand.head?.any isValueChar := by
  rw [Bool.and_eq_true, head?_operand, Option.any_eq_true]
  exact ⟨fun h => ⟨h.word, h.joins⟩, fun h => ⟨h.1, h.2⟩⟩

theorem comparison?_clause (h : Clean entity name p) :
    comparison? (p.clause name).toList = some comparison ↔
      Joined name p ∧ p.comparison = comparison := by
  have hf := not_isSymbol_of_free h.free
  have ho := not_isSymbol_of_free (free_operand h.operand)
  rw [clause, String.toList_ofList, comparison?_append_symbol hf ho, joined_iff,
    Option.ite_none_right_eq_some, Option.some_inj]

theorem splitOnP_clause (h : Clean entity name p) :
    (p.clause name).toList.splitOnP Comparison.isSymbol = [name.toList, p.operand] := by
  have hf := not_isSymbol_of_free h.free
  have ho := not_isSymbol_of_free (free_operand h.operand)
  have hs := Comparison.isSymbol_symbol p.comparison
  rw [clause, String.toList_ofList, List.splitOnP_append_cons_of_forall_mem hf _ hs,
    List.splitOnP_eq_singleton ho]

theorem field_clause (h : Clean entity name p) : field (p.clause name).toList = name.toList := by
  rw [field, splitOnP_clause h]
  exact trim_eq_self_iff.mpr h.trimmed

theorem value_clause (h : Clean entity name p) : value (p.clause name).toList = p.operand := by
  rw [value, splitOnP_clause h]
  exact trim_eq_self_iff.mpr (trimmed_operand h.operand)

theorem ofText_clause (h : Clean entity name p) (hj : Joined name p) :
    ofText entity (p.clause name).toList = .ok (.condition name p) := by
  have hc := (comparison?_clause h).mpr ⟨hj, rfl⟩
  rw [ofText_eq_ok_condition_iff, field_clause h, value_clause h]
  have hp := predicate_operand h.operand
  exact ⟨_, hc, operand_ne_nil h.operand, h.known, String.ofList_toList, hp⟩

-- The only symbol of the clause is the one it was written with, so that no other joint can serve.
theorem joined_of_ofText_clause {clause : Clause} (h : Clean entity name p)
    (hr : ofText entity (p.clause name).toList = .ok clause) : Joined name p := by
  cases hc : comparison? (p.clause name).toList
  case none => simp [ofText, hc] at hr
  case some => exact ((comparison?_clause h).mp hc).1

theorem not_mem_clause (h : Clean entity name p) : '&' ∉ (p.clause name).toList := by
  have hf := h.free.head
  have ho := (free_operand h.operand).head
  have hs : '&' ≠ p.comparison.symbol := by cases p.comparison <;> decide
  simp [clause, hf, ho, hs]

end Clause

end RequestQuery
