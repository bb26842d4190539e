import RequestQuery.Proofs.Filter.Joint
import RequestQuery.Proofs.Text.Blank

namespace RequestQuery

namespace Text

-- None of the banned characters stands in a text.
def Free (cs banned : List Char) : Prop :=
  ∀ c ∈ cs, c ∉ banned

theorem Free.of_subset {cs ds banned : List Char} (h : Free cs banned) (hs : ∀ c ∈ ds, c ∈ cs) :
    Free ds banned :=
  fun c hc => h c (hs c hc)

theorem Free.cons {cs banned : List Char} {b : Char} (hb : b ∉ cs) (h : Free cs banned) :
    Free cs (b :: banned) := by
  intro c hc hm
  cases List.mem_cons.mp hm
  case inl he => exact hb (he ▸ hc)
  case inr hm => exact h c hc hm

theorem Free.head {cs banned : List Char} {b : Char} (h : Free cs (b :: banned)) : b ∉ cs :=
  fun hb => h b hb List.mem_cons_self

theorem Free.tail {cs banned : List Char} {b : Char} (h : Free cs (b :: banned)) : Free cs banned :=
  fun c hc hb => h c hc (List.mem_cons_of_mem _ hb)

end Text

open Text

-- The characters at which the text of a filter is cut.
def Filter.marks : List Char :=
  ['&', '=', '<', '>']

open RequestQuery.Filter

namespace Predicate

-- What is asked of a field, as far as it can come from the text of a filter.
def Clean : Predicate → Prop
  | equals value => Free value.toList ('\'' :: marks)
  | oneOf values =>
    values ≠ [] ∧ ∀ v ∈ values, Trimmed v.toList ∧ Free v.toList ('\'' :: ',' :: '\n' :: marks)
  | lessThan bound | greaterThan bound =>
    bound ≠ "" ∧ Trimmed bound.toList ∧ Free bound.toList marks

-- What is written behind the symbol begins with a character that may stand there. Quotes and lists
-- always do.
def Joins : Predicate → Prop
  | equals _ | oneOf _ => True
  | lessThan bound | greaterThan bound => ∃ c ∈ bound.toList.head?, Clause.isValueChar c

end Predicate

namespace Clause

open Comparison

variable {entity : Entity} {name : String} {p : Predicate} {c : Char} {cs body v : List Char}

-- A condition that can be read from a clause.
structure Clean (entity : Entity) (field : String) (p : Predicate) : Prop where
  known   : entity.hasField field
  trimmed : Trimmed field.toList
  free    : Free field.toList marks
  operand : p.Clean

-- A condition whose clause has a joint at its symbol.
structure Joined (field : String) (p : Predicate) : Prop where
  word  : ∃ c ∈ field.toList.getLast?, isWordChar c
  joins : p.Joins

theorem ofText_eq_ok_condition_iff :
    ofText entity cs = .ok (.condition name p) ↔
      ∃ comparison, comparison? cs = some comparison ∧ value cs ≠ [] ∧ entity.hasField name ∧
        .ofList (field cs) = name ∧ predicate comparison (value cs) = p where
  mp h := by
    rw [ofText] at h
    split at h
    case h_1 => cases h
    case h_2 comparison hc =>
      split at h
      case isTrue => cases h
      case isFalse hv =>
        split at h
        case isTrue hf =>
          cases h
          exact ⟨comparison, hc, by simpa using hv, hf, rfl, rfl⟩
        case isFalse => cases h
  mpr h := by
    obtain ⟨comparison, hc, hv, hf, rfl, rfl⟩ := h
    simp [ofText, hc, hv, hf]

theorem not_isSymbol_of_free (h : Free cs marks) : ∀ c ∈ cs, isSymbol c = false := by
  intro c hc
  have hm := h c hc
  simp only [marks, List.mem_cons, not_or] at hm
  simp [← Bool.not_eq_true, isSymbol_iff, hm]

theorem free_marks (ha : '&' ∉ cs) (hs : ∀ c ∈ cs, isSymbol c = false) : Free cs marks := by
  refine Free.cons ha fun c hc hm => ?_
  have hn := hs c hc
  rw [← Bool.not_eq_true, isSymbol_iff] at hn
  simp_all

-- The text before the first symbol and the one behind it are pieces of the clause.
theorem mem_piece {i : Nat} (h : c ∈ trim ((cs.splitOnP isSymbol)[i]?.getD [])) :
    c ∈ cs ∧ isSymbol c = false := by
  have h := mem_of_mem_trim h
  cases hp : (cs.splitOnP isSymbol)[i]?
  case none => simp [hp] at h
  case some piece =>
    rw [hp, Option.getD_some] at h
    exact mem_and_not_of_mem_splitOnP (List.mem_of_getElem? hp) c h

theorem free_piece {i : Nat} (ha : '&' ∉ cs) :
    Free (trim ((cs.splitOnP isSymbol)[i]?.getD [])) marks :=
  free_marks (fun h => ha (mem_piece h).1) (fun _ h => (mem_piece h).2)

theorem mem_unquoted (h : c ∈ unquoted cs) : c ∈ cs ∧ c ≠ '\'' := by
  simpa [unquoted] using h

theorem filter_unquoted {q : Char → Bool} (hq : q '\'' = false) (cs : List Char) :
    (unquoted cs).filter q = cs.filter q := by
  rw [unquoted, List.filter_filter]
  refine List.filter_congr fun c _ => ?_
  by_cases hc : c = '\'' <;> simp [hc, hq]

theorem free_unquoted {banned : List Char} (h : Free cs banned) :
    Free (unquoted cs) ('\'' :: banned) :=
  .cons (fun h => (mem_unquoted h).2 rfl) (h.of_subset fun _ h => (mem_unquoted h).1)

-- The list ends in its first line, so that no item goes over a line.
theorem mem_list_body (h : list.fit? cs = some body) (hc : c ∈ body) : c ∈ cs ∧ c ≠ '\n' := by
  refine Shape.mem_of_fit? (P := (· ≠ '\n')) (fun step hs c hk hc => ?_) h c hc
  simp only [list, List.mem_cons, List.not_mem_nil, or_false] at hs
  rcases hs with rfl | rfl | rfl | rfl | rfl | rfl <;> simp_all

theorem items?_clean {items : List (List Char)} (hv : Free v marks) (h : items? v = some items) :
    items ≠ [] ∧ ∀ item ∈ items, Trimmed item ∧ Free item ('\'' :: ',' :: '\n' :: marks) := by
  obtain ⟨body, hb, rfl⟩ := Option.map_eq_some_iff.mp h
  refine ⟨by simp, fun item hi => ?_⟩
  obtain ⟨piece, hp, rfl⟩ := List.mem_map.mp hi
  have hm := mem_and_not_of_mem_splitOnP hp
  have hf : Free piece (',' :: '\n' :: marks) := by
    have hcomma : ',' ∉ piece := fun h => by simpa using (hm _ h).2
    have hline : '\n' ∉ piece := fun h => (mem_list_body hb (hm _ h).1).2 rfl
    have hmarks : Free piece marks := hv.of_subset fun c hc => (mem_list_body hb (hm c hc).1).1
    exact .cons hcomma (.cons hline hmarks)
  exact ⟨trimmed_trim _, (free_unquoted hf).of_subset fun _ => mem_of_mem_trim⟩

theorem clean_predicate (hn : v ≠ []) (ht : Trimmed v) (hf : Free v marks)
    (comparison : Comparison) : (predicate comparison v).Clean := by
  cases comparison
  case equal =>
    rw [predicate]
    cases hi : items? v
    case none => simpa [Predicate.Clean] using free_unquoted hf
    case some items =>
      have ⟨hn, hc⟩ := items?_clean hf hi
      simpa [Predicate.Clean, hn] using hc
  case less    => simp [predicate, Predicate.Clean, hn, ht, hf]
  case greater => simp [predicate, Predicate.Clean, hn, ht, hf]

theorem comparison_predicate (comparison : Comparison) (v : List Char) :
    (predicate comparison v).comparison = comparison := by
  cases comparison
  case equal   => rw [predicate]; split <;> rfl
  case less    => rfl
  case greater => rfl

-- Whatever is read from a piece of a filter is clean, even if the joint is that of a later symbol.
theorem clean_of_ofText (ha : '&' ∉ cs) (h : ofText entity cs = .ok (.condition name p)) :
    Clean entity name p := by
  obtain ⟨comparison, hc, hv, hn, rfl, rfl⟩ := ofText_eq_ok_condition_iff.mp h
  refine ⟨hn, ?_, ?_, clean_predicate hv (trimmed_trim _) (free_piece ha) comparison⟩
  · rw [String.toList_ofList]
    exact trimmed_trim _
  · rw [String.toList_ofList]
    exact free_piece ha

end Clause

end RequestQuery
