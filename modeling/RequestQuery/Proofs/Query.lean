import Mathlib.Control.Monad.Basic
import RequestQuery.Query
import RequestQuery.Proofs.PageNumber
import RequestQuery.Proofs.SortKey
import RequestQuery.Proofs.Filter.Content

namespace RequestQuery.Query

variable {entity : Entity} {options : ReadingOptions} {bag : Bag} {query : String} {q : Query}

section

variable {α : Type} {parameter : Parameter} {read : Given → Except Rejection α} {a : α}
  {a? : Option α}

theorem readIfGiven_eq_ok_some_iff :
    readIfGiven bag parameter read = .ok (some a) ↔
      bag.contains parameter.name ∧ read (bag.get parameter.name) = .ok a := by
  rw [readIfGiven]
  split
  case isTrue h => simp [map_eq_ok_iff, h]
  case isFalse h => simp [h]

theorem isSome_of_readIfGiven (h : readIfGiven bag parameter read = .ok a?) :
    a?.isSome = bag.contains parameter.name := by
  rw [readIfGiven] at h
  split at h
  case isTrue hc =>
    obtain ⟨a, _, rfl⟩ := map_eq_ok_iff.mp h
    simp [hc]
  case isFalse hc =>
    cases h
    simp [hc]

theorem sameUnless_readIfGiven {excused : Rejection → Prop} {read' : Given → Except Rejection α}
    (h : ∀ given, SameUnless excused (read given) (read' given)) (bag : Bag) (k : Parameter) :
    SameUnless excused (readIfGiven bag k read) (readIfGiven bag k read') := by
  rw [readIfGiven, readIfGiven]
  split
  case isTrue  => exact (h _).map some
  case isFalse => exact .same _

end

-- Each parameter is read on its own, and the query is nothing but their results.
theorem ofBag_eq_ok_iff :
    ofBag entity options bag = .ok q ↔
      ∃ filter key limit offset,
        readIfGiven bag .filter (Filter.ofGiven entity) = .ok filter ∧
        readIfGiven bag .order (SortKey.ofGiven entity) = .ok key ∧
        readIfGiven bag .limit (PageNumber.ofGiven .limit options.strictBounds) = .ok limit ∧
        readIfGiven bag .offset (PageNumber.ofGiven .offset options.strictBounds) = .ok offset ∧
        { filter := filter.getD ∅, order := key.map SortKey.text, limit, offset } = q := by
  simp only [ofBag, bind_eq_ok_iff, pure, Except.pure, Except.ok.injEq, exists_and_left]

-- What a query may consist of.
structure Admissible (entity : Entity) (strict : Bool) (q : Query) : Prop where
  filter : ∀ field p, (field, p) ∈ q.filter.entries → Clause.Clean entity field p
  order  : ∀ text ∈ q.order, ∃ field ending, SortKey.Fragment entity text field ending
  limit  : ∀ n ∈ q.limit, n.Bounded strict
  offset : ∀ n ∈ q.offset, n.Bounded strict

theorem admissible_of_ofBag (h : ofBag entity options bag = .ok q) :
    q.Admissible entity options.strictBounds := by
  obtain ⟨filter, key, limit, offset, hf, hk, hl, ho, rfl⟩ := ofBag_eq_ok_iff.mp h
  constructor
  case filter =>
    intro field p hm
    cases filter
    case none   => exact absurd hm (List.not_mem_nil)
    case some f => exact Filter.clean_of_ofGiven (readIfGiven_eq_ok_some_iff.mp hf).2 hm
  case order =>
    intro text ht
    obtain ⟨key, rfl, rfl⟩ := Option.map_eq_some_iff.mp ht
    exact ⟨_, _, SortKey.fragment_of_ofGiven (readIfGiven_eq_ok_some_iff.mp hk).2⟩
  case limit =>
    rintro n rfl
    exact PageNumber.bounded_of_ofGiven (readIfGiven_eq_ok_some_iff.mp hl).2
  case offset =>
    rintro n rfl
    exact PageNumber.bounded_of_ofGiven (readIfGiven_eq_ok_some_iff.mp ho).2

theorem isSome_of_ofBag (h : ofBag entity options bag = .ok q) :
    q.order.isSome = bag.contains "orderBy" ∧ q.limit.isSome = bag.contains "limit" ∧
      q.offset.isSome = bag.contains "offset" := by
  obtain ⟨filter, key, limit, offset, _, hk, hl, ho, rfl⟩ := ofBag_eq_ok_iff.mp h
  refine ⟨?_, isSome_of_readIfGiven hl, isSome_of_readIfGiven ho⟩
  rw [Option.isSome_map]
  exact isSome_of_readIfGiven hk

-- A filter that is given can still be empty, so that there is no converse.
theorem contains_filter_of_ofBag (h : ofBag entity options bag = .ok q) (hne : q.filter ≠ ∅) :
    bag.contains "filter" := by
  obtain ⟨filter, key, limit, offset, hf, _, _, _, rfl⟩ := ofBag_eq_ok_iff.mp h
  cases filter
  case none   => exact absurd rfl hne
  case some f => exact (isSome_of_readIfGiven hf).symm

theorem admissible_of_ofQuery (h : ofBag entity options (.ofQuery query) = .ok q) :
    q.Admissible entity options.strictBounds ∧
      (q.order.isSome ↔ ∃ value, ("orderBy", value) ∈ Form.decoded query) ∧
      (q.limit.isSome ↔ ∃ value, ("limit", value) ∈ Form.decoded query) ∧
      (q.offset.isSome ↔ ∃ value, ("offset", value) ∈ Form.decoded query) ∧
      (q.filter ≠ ∅ → ∃ value, ("filter", value) ∈ Form.decoded query) := by
  have ⟨ho, hl, hf⟩ := isSome_of_ofBag h
  refine ⟨admissible_of_ofBag h, ?_, ?_, ?_, fun hne => ?_⟩
  · rw [ho, Bag.contains_ofQuery]
  · rw [hl, Bag.contains_ofQuery]
  · rw [hf, Bag.contains_ofQuery]
  · exact Bag.contains_ofQuery.mp (contains_filter_of_ofBag h hne)

theorem admissible_of_ofQuery_strict :
    let entity := Entity.ofNames "User" ["age", "name", "status"]
    let query :=
      "?filter=status%3Din('A',+b)%26age%3C30&x=1&orderBy=name%20DESC+nulls++Last&limit=+007&offset=0"
    ∃ q, ofBag entity { strictBounds := true } (.ofQuery query) = .ok q ∧ q.Admissible entity true ∧
      (q.offset.isSome ↔ ∃ value, ("offset", value) ∈ Form.decoded query) := by
  intro entity query
  let q : Query := {
    filter := .ofList [("age", .lessThan "30"), ("status", .oneOf ["A", "b"])]
    order  := some "\"name\" DESC nulls Last"
    limit  := some (.integer 7 (by decide))
    offset := some (.integer 0 (by decide))
  }
  have h : ofBag entity { strictBounds := true } (.ofQuery query) = .ok q := by decide +kernel
  have ⟨ha, _, _, ho, _⟩ := admissible_of_ofQuery h
  exact ⟨q, h, ha, ho⟩

end RequestQuery.Query
