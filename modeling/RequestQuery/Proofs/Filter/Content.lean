import RequestQuery.Filter
import RequestQuery.Proofs.Bag
import RequestQuery.Proofs.Traversal
import RequestQuery.Proofs.Filter.Clause

namespace RequestQuery.Filter

variable {entity : Entity} {given : Given} {text field : String} {filter : Filter} {p : Predicate}
  {clauses : List Clause}

theorem ofText_empty (entity : Entity) :
    ofText entity "" = .error ((Cause.malformedClause "").rejection.within Parameter.filter.name) :=
  rfl

theorem ofGiven_once_eq_ok_iff :
    ofGiven entity (.once text) = .ok filter ↔ ofText entity text = .ok filter := by
  rw [ofGiven]
  by_cases h : text = ""
  case pos => simp [h, Given.sole_empty, ofText_empty, bind, Except.bind]
  case neg => rw [Given.sole_once h]; rfl

theorem ofText_eq_ok_iff :
    ofText entity text = .ok filter ↔
      ∃ clauses, (text.toList.splitOn '&').map (Clause.ofText entity) = clauses.map .ok ∧
        ofClauses clauses = filter := by
  simp only [ofText, map_eq_ok_iff, mapM_eq_ok_iff]

theorem mem_of_mem_ofClauses (h : (field, p) ∈ (ofClauses clauses).entries) :
    Clause.condition field p ∈ clauses := by
  have ⟨clause, hm, hc⟩ := List.mem_filterMap.mp (SortedMap.mem_of_mem_entries_ofList h)
  cases clause <;> cases hc
  exact hm

-- A piece holds no `&`, so that what is read from it is clean.
theorem clean_of_ofText (h : ofText entity text = .ok filter) (hm : (field, p) ∈ filter.entries) :
    Clause.Clean entity field p := by
  obtain ⟨clauses, hc, rfl⟩ := ofText_eq_ok_iff.mp h
  have ⟨piece, hp, hr⟩ := List.mem_map.mp (hc ▸ List.mem_map_of_mem (mem_of_mem_ofClauses hm))
  refine Clause.clean_of_ofText (fun ha => ?_) hr
  have hn := (Text.mem_and_not_of_mem_splitOnP hp _ ha).2
  simp at hn

theorem clean_of_ofGiven (h : ofGiven entity given = .ok filter)
    (hm : (field, p) ∈ filter.entries) : Clause.Clean entity field p := by
  have ⟨_, _, ht⟩ := bind_eq_ok_iff.mp h
  exact clean_of_ofText ht hm

end RequestQuery.Filter
