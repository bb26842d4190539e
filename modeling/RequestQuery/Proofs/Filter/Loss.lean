import RequestQuery.Proofs.Filter.Listing
import RequestQuery.Proofs.Filter.Meaning

namespace RequestQuery

open Text Comparison

namespace Predicate

open Clause

-- All of an operand is in the predicate: only quotes are left out, and of a list what makes it one and the
-- blanks around its items.
def Takes (operand : List Char) : Predicate → Prop
  | equals value => value.toList = unquoted operand
  | oneOf values =>
    ∃ body parts, Opens operand (body ++ [')']) ∧ Parts body parts ∧
      values = parts.map fun part => .ofList (trim (unquoted part))
  | lessThan bound | greaterThan bound => bound.toList = operand

end Predicate

namespace Clause

variable {p : Predicate} {cs before after v inner r : List Char} {first : Comparison}

-- A clause with its first symbol between `before` and `after`.
structure Cut (cs before : List Char) (first : Comparison) (after : List Char) : Prop where
  whole  : cs = before ++ first.symbol :: after
  before : ∀ c ∈ before, isSymbol c = false

-- A symbol between the two stands in a joint.
abbrev Adjoin (before after : List Char) : Prop :=
  before.getLast?.any isWordChar && after.head?.any isValueChar

theorem Cut.comparison?_eq (h : Cut cs before first after) :
    comparison? cs = if Adjoin before after then some first else comparison? after := by
  rw [h.whole, comparison?_append_cons h.before]

theorem Cut.value_eq (h : Cut cs before first after) (hs : ∀ c ∈ after, isSymbol c = false) :
    value cs = trim after := by
  rw [value, h.whole,
    List.splitOnP_append_cons_of_forall_mem h.before _ (isSymbol_symbol first),
    List.splitOnP_eq_singleton hs]
  rfl

-- A check that can be run, for a text that is known.
theorem not_isSymbol_of_all (h : cs.all (!isSymbol ·)) : ∀ c ∈ cs, isSymbol c = false := by
  simpa using h

theorem Opens.not_isSymbol (h : Opens v inner) (hi : ∀ c ∈ inner, isSymbol c = false) :
    ∀ c ∈ v, isSymbol c = false := by
  obtain ⟨blanks, rfl, hb⟩ := h
  have hb (c) (hc : c ∈ blanks) : isSymbol c = false := by
    cases hs : isSymbol c
    case false => rfl
    case true  => cases (hb c hc).symm.trans (not_blank_of_isSymbol hs)
  simp only [List.forall_mem_append, List.forall_mem_cons]
  exact ⟨⟨not_isSymbol_of_all (by decide), hb⟩, by decide, hi⟩

-- There is no symbol in what is stored, so that none can have been in all that was taken.
theorem not_isSymbol_of_takes (hp : p.Clean) (h : p.Takes r) : ∀ c ∈ r, isSymbol c = false := by
  cases p
  case equals value =>
    intro c hc
    by_cases hq : c = '\''
    case pos => rw [hq]; decide
    case neg =>
      have hm : c ∈ value.toList := by
        rw [show value.toList = unquoted r from h]
        simp [unquoted, hc, hq]
      exact not_isSymbol_of_free (Free.tail hp) c hm
  case oneOf values =>
    obtain ⟨body, parts, ho, hb, rfl⟩ := h
    have hn : (parts.flatMap (trim ∘ unquoted)).filter isSymbol = [] := by
      refine List.filter_eq_nil_iff.mpr fun c hc => ?_
      obtain ⟨part, hm, hc⟩ := List.mem_flatMap.mp hc
      have hf := (hp.2 _ (List.mem_map_of_mem hm)).2.tail.tail.tail
      rw [String.toList_ofList] at hf
      simp [not_isSymbol_of_free hf c hc]
    rw [hb.filter_items (fun _ => not_blank_of_isSymbol) rfl rfl] at hn
    have hs (c) (hc : c ∈ body) : isSymbol c = false := by
      simpa using List.filter_eq_nil_iff.mp hn c hc
    exact ho.not_isSymbol (List.forall_mem_append.mpr ⟨hs, not_isSymbol_of_all (by decide)⟩)
  case lessThan bound    => exact h ▸ not_isSymbol_of_free hp.2.2
  case greaterThan bound => exact h ▸ not_isSymbol_of_free hp.2.2

-- Two bodies with the same items have the same number of parentheses, so that the body that makes up the
-- whole operand is the one that was read.
theorem takes_oneOf_iff {values : List String} (h : predicate .equal r = .oneOf values) :
    (Predicate.oneOf values).Takes r ↔ ∃ inner body, Opens r inner ∧ Closes inner body [] where
  mp ht := by
    obtain ⟨body', parts, ho', hp, hv'⟩ := ht
    obtain ⟨inner, body, behind, ho, hc, hv⟩ := predicate_equal_eq_oneOf_iff.mp h
    obtain rfl := ho.unique ho'
    have hi : parts.flatMap (trim ∘ unquoted) = (body.splitOn ',').flatMap (trim ∘ unquoted) := by
      have hm := congrArg (List.flatMap String.toList) (hv'.symm.trans hv.symm)
      simpa [List.flatMap_map, Function.comp_def] using hm
    have hn : body'.count ')' = body.count ')' := by
      have hb (c : Char) (hc : c == ')') : isBlank c = false := by
        rw [beq_iff_eq.mp hc]
        decide
      have hf := congrArg (List.filter (· == ')')) hi
      rw [hp.filter_items hb rfl rfl, (parts_splitOn body).filter_items hb rfl rfl] at hf
      rw [List.count_eq_length_filter, List.count_eq_length_filter, hf]
    exact ⟨_, body, ho, hc.behind_eq_nil hn ▸ hc⟩
  mpr ht := by
    obtain ⟨inner, body, ho, hc⟩ := ht
    have hv := h.symm.trans (predicate_equal_of_closes ho hc)
    exact ⟨body, body.splitOn ',', hc.inner ▸ ho, parts_splitOn body, Predicate.oneOf.inj hv⟩

theorem takes_predicate_iff (comparison : Comparison) (r : List Char) :
    (predicate comparison r).Takes r ↔
      ((∃ values, predicate comparison r = .oneOf values) →
        ∃ inner body, Opens r inner ∧ Closes inner body []) := by
  cases comparison
  case equal =>
    cases hi : items? r
    case none => simp [predicate, hi, Predicate.Takes]
    case some items =>
      have h : predicate .equal r = .oneOf (items.map .ofList) := by simp [predicate, hi]
      rw [h, takes_oneOf_iff h]
      exact ⟨fun h _ => h, fun h => h ⟨_, rfl⟩⟩
  case less    => simp [predicate, Predicate.Takes]
  case greater => simp [predicate, Predicate.Takes]

end Clause

namespace Filter

open Clause

variable {entity : Entity} {text field : String} {p : Predicate} {before after : List Char}
  {first : Comparison}

-- A text of one clause, and what the filter read from it asks of a field.
structure Stores (entity : Entity) (text field : String) (p : Predicate) : Prop where
  single : '&' ∉ text.toList
  stored : ∃ filter, ofGiven entity (.once text) = .ok filter ∧ filter.get? field = some p

theorem Stores.ofText_eq (h : Stores entity text field p) :
    Clause.ofText entity text.toList = .ok (.condition field p) := by
  obtain ⟨filter, hf, hp⟩ := h.stored
  obtain ⟨clauses, hc, rfl⟩ := ofText_eq_ok_iff.mp (ofGiven_once_eq_ok_iff.mp hf)
  have hm := mem_of_mem_ofClauses (SortedMap.mem_entries_iff.mpr hp)
  have ⟨piece, hs, hr⟩ := List.mem_map.mp (hc ▸ List.mem_map_of_mem hm)
  rw [splitOn_eq_singleton h.single, List.mem_singleton] at hs
  exact hs ▸ hr

-- Where the first symbol stands in no joint, that of a later one is taken, which may be another symbol.
theorem comparison_eq_iff (h : Stores entity text field p) (hc : Cut text.toList before first after) :
    p.comparison = first ↔ Adjoin before after ∨ leftmostJoint? after = some first := by
  obtain ⟨comparison, hj, _, _, _, rfl⟩ := ofText_eq_ok_condition_iff.mp h.ofText_eq
  rw [comparison_predicate, ← comparison?_eq_leftmostJoint?]
  rw [hc.comparison?_eq] at hj
  split at hj
  case isTrue ha  => exact iff_of_true (Option.some.inj hj).symm (.inl ha)
  case isFalse ha => rw [or_iff_right ha, hj, Option.some_inj]

-- The first symbol stands in no joint, but that of `b>c` is the same one.
theorem comparison_eq_iff_later :
    let entity := Entity.ofNames "User" ["age", "name"]
    let text := "age >-b>c=1"
    let before := "age ".toList
    let after := "-b>c=1".toList
    Stores entity text "age" (.greaterThan "-b") ∧ Cut text.toList before .greater after ∧
      ¬Adjoin before after ∧ (Predicate.greaterThan "-b").comparison = .greater := by
  intro entity text before after
  have h : Stores entity text "age" (.greaterThan "-b") :=
    ⟨by decide +kernel, .ofList [("age", .greaterThan "-b")], by decide +kernel, by decide +kernel⟩
  have hc : Cut text.toList before .greater after :=
    ⟨by decide +kernel, not_isSymbol_of_all (by decide +kernel)⟩
  exact ⟨h, hc, by decide +kernel, (comparison_eq_iff h hc).mpr (.inr (by decide +kernel))⟩

-- The value of `age =b<1` is that of an equality, but the joint is `b<1`.
theorem not_forall_comparison_eq :
    ¬∀ (entity : Entity) (text field : String) (p : Predicate) (before after : List Char)
      (first : Comparison), Stores entity text field p → Cut text.toList before first after →
        p.comparison = first := by
  intro h
  have hs : Stores (.ofNames "User" ["age"]) "age =b<1" "age" (.lessThan "b") :=
    ⟨by decide +kernel, .ofList [("age", .lessThan "b")], by decide +kernel, by decide +kernel⟩
  have hc : Cut "age =b<1".toList "age ".toList .equal "b<1".toList :=
    ⟨by decide +kernel, not_isSymbol_of_all (by decide +kernel)⟩
  cases h _ _ _ _ _ _ _ hs hc

-- A second symbol and what follows it is lost, and so is what follows the end of a list.
theorem takes_iff (h : Stores entity text field p) (hc : Cut text.toList before first after) :
    p.Takes (trim after) ↔
      (∀ c ∈ after, isSymbol c = false) ∧
        ((∃ values, p = .oneOf values) →
          ∃ inner body, Opens (trim after) inner ∧ Closes inner body []) := by
  by_cases hs : ∀ c ∈ after, isSymbol c = false
  case pos =>
    obtain ⟨comparison, _, _, _, _, rfl⟩ := ofText_eq_ok_condition_iff.mp h.ofText_eq
    rw [and_iff_right hs, hc.value_eq hs, takes_predicate_iff]
  case neg =>
    refine iff_of_false (fun ht => hs ?_) fun h => hs h.1
    have hn := not_isSymbol_of_takes (Clause.clean_of_ofText h.single h.ofText_eq).operand ht
    have hf : after.filter isSymbol = [] := by
      rw [← filter_trim fun _ => not_blank_of_isSymbol]
      exact List.filter_eq_nil_iff.mpr fun c hc => by simp [hn c hc]
    exact fun c hc => by simpa using List.filter_eq_nil_iff.mp hf c hc

-- The list is read up to its parenthesis, and `c` is lost.
theorem takes_iff_list :
    let entity := Entity.ofNames "User" ["age", "name"]
    let text := "name=in ('a', b)c"
    let after := "in ('a', b)c".toList
    Stores entity text "name" (.oneOf ["a", "b"]) ∧ Cut text.toList "name".toList .equal after ∧
      (∀ c ∈ after, isSymbol c = false) ∧ ¬(Predicate.oneOf ["a", "b"]).Takes (trim after) := by
  intro entity text after
  have h : Stores entity text "name" (.oneOf ["a", "b"]) :=
    ⟨by decide +kernel, .ofList [("name", .oneOf ["a", "b"])], by decide +kernel, by decide +kernel⟩
  have hc : Cut text.toList "name".toList .equal after :=
    ⟨by decide +kernel, not_isSymbol_of_all (by decide +kernel)⟩
  refine ⟨h, hc, not_isSymbol_of_all (by decide +kernel), fun ht => ?_⟩
  obtain ⟨inner, body, ⟨blanks, hv, _⟩, hb⟩ := ((takes_iff h hc).mp ht).2 ⟨_, rfl⟩
  have hl : (trim after).getLast? = some ')' := by
    rw [hv, hb.inner, ← List.cons_append, ← List.append_assoc]
    exact List.getLast?_concat
  exact absurd hl (by decide +kernel)

-- The value of `age=1=2` is `1`.
theorem not_forall_takes :
    ¬∀ (entity : Entity) (text field : String) (p : Predicate) (before after : List Char)
      (first : Comparison), Stores entity text field p → Cut text.toList before first after →
        p.Takes (trim after) := by
  intro h
  have hs : Stores (.ofNames "User" ["age"]) "age=1=2" "age" (.equals "1") :=
    ⟨by decide +kernel, .ofList [("age", .equals "1")], by decide +kernel, by decide +kernel⟩
  have hc : Cut "age=1=2".toList "age".toList .equal "1=2".toList :=
    ⟨by decide +kernel, not_isSymbol_of_all (by decide +kernel)⟩
  have ht : "1".toList = unquoted (trim "1=2".toList) := h _ _ _ _ _ _ _ hs hc
  exact absurd ht (by decide +kernel)

end Filter

end RequestQuery
