import Mathlib.Control.Monad.Basic
import RequestQuery.Proofs.Entity
import RequestQuery.Proofs.Filter.Content
import RequestQuery.Proofs.Filter.Written

namespace RequestQuery

open Text

namespace Entity

-- The name of each field is a word.
def Worded (entity : Entity) : Prop :=
  ∀ field, entity.hasField field → field ≠ "" ∧ field.toList.all Clause.isWordChar

theorem worded_ofNames {name : String} {fields : List String}
    (h : ∀ field ∈ fields, field ≠ "" ∧ field.toList.all Clause.isWordChar) :
    (ofNames name fields).Worded :=
  fun field hf => h field (hasField_ofNames.mp hf)

theorem Worded.joined {entity : Entity} {field : String} {p : Predicate} (h : entity.Worded)
    (hc : Clause.Clean entity field p) : Clause.Joined field p ↔ p.Joins where
  mp hj  := hj.joins
  mpr hj := by
    have ⟨hne, hw⟩ := h field hc.known
    have hn : field.toList ≠ [] := by simpa using hne
    have hl := List.all_eq_true.mp hw _ (List.getLast_mem hn)
    exact ⟨⟨_, List.getLast?_eq_some_getLast hn, hl⟩, hj⟩

end Entity

namespace Filter

variable {entity : Entity} {text field : String} {filter : Filter} {p : Predicate}

theorem text_empty : (∅ : Filter).text = "" :=
  rfl

-- The text is cut into the clauses that it was joined from.
theorem splitOn_text (hc : ∀ f p, (f, p) ∈ filter.entries → Clause.Clean entity f p)
    (hne : filter ≠ ∅) :
    filter.text.toList.splitOn '&' = filter.entries.map fun e => (e.2.clause e.1).toList := by
  have hn : filter.clauses.map String.toList ≠ [] := by
    simpa [clauses, SortedMap.eq_empty_iff] using hne
  have hs : ∀ cs ∈ filter.clauses.map String.toList, '&' ∉ cs := by
    intro cs hm
    simp only [clauses, List.mem_map, exists_exists_and_eq_and] at hm
    have ⟨e, he, hcs⟩ := hm
    exact hcs ▸ Clause.not_mem_clause (hc e.1 e.2 he)
  have ht : filter.text.toList = ['&'].intercalate (filter.clauses.map String.toList) :=
    String.toList_intercalate
  rw [ht, List.splitOn_intercalate '&' hs hn, clauses, List.map_map]
  rfl

-- Each clause is read as the condition it was written for, and these make up the filter again.
theorem ofText_text (hne : filter ≠ ∅)
    (h : ∀ f p, (f, p) ∈ filter.entries → Clause.Clean entity f p ∧ Clause.Joined f p) :
    ofText entity filter.text = .ok filter := by
  refine ofText_eq_ok_iff.mpr ⟨filter.entries.map fun e => .condition e.1 e.2, ?_, ?_⟩
  · rw [splitOn_text (fun f p hm => (h f p hm).1) hne, List.map_map, List.map_map]
    refine List.map_congr_left fun e he => ?_
    have ⟨hc, hj⟩ := h e.1 e.2 he
    exact Clause.ofText_clause hc hj
  · have he : (filter.entries.map fun e => Clause.condition e.1 e.2).filterMap Clause.condition? =
        filter.entries := by
      rw [List.filterMap_map]
      exact List.filterMap_some
    rw [ofClauses, he, SortedMap.ofList_entries]

-- If the whole is read, each clause is, though perhaps as something else than it was.
theorem joined_of_ofText_text (hne : filter ≠ ∅)
    (hc : ∀ f p, (f, p) ∈ filter.entries → Clause.Clean entity f p)
    (h : ofText entity filter.text = .ok filter) (hm : (field, p) ∈ filter.entries) :
    Clause.Joined field p := by
  have ⟨clauses, hr, _⟩ := ofText_eq_ok_iff.mp h
  rw [splitOn_text hc hne, List.map_map] at hr
  have ⟨clause, _, hr⟩ := List.mem_map.mp (hr ▸ List.mem_map_of_mem hm)
  exact Clause.joined_of_ofText_clause (hc field p hm) hr.symm

-- The text of the empty filter is empty and so counts as no value.
theorem ofGiven_text_iff (entity : Entity) (filter : Filter) :
    ofGiven entity (.once filter.text) = .ok filter ↔
      filter ≠ ∅ ∧ ∀ f p, (f, p) ∈ filter.entries → Clause.Clean entity f p ∧ Clause.Joined f p := by
  rw [ofGiven_once_eq_ok_iff]
  constructor
  case mp =>
    intro h
    have hne : filter ≠ ∅ := by
      intro he
      rw [he, text_empty, ofText_empty] at h
      cases h
    have hc (f p) (hm : (f, p) ∈ filter.entries) : Clause.Clean entity f p := clean_of_ofText h hm
    exact ⟨hne, fun f p hm => ⟨hc f p hm, joined_of_ofText_text hne hc h hm⟩⟩
  case mpr =>
    intro ⟨hne, h⟩
    exact ofText_text hne h

-- What is read over fields that are words comes back unless a bound begins with a character that
-- may not stand right behind its symbol. Such a bound is read where the joint of the clause is that
-- of a later symbol.
theorem ofGiven_text_of_ofGiven_iff (hw : entity.Worded)
    (h : ofGiven entity (.once text) = .ok filter) (hne : filter ≠ ∅) :
    ofGiven entity (.once filter.text) = .ok filter ↔ ∀ f p, (f, p) ∈ filter.entries → p.Joins := by
  rw [ofGiven_once_eq_ok_iff] at h ⊢
  have hc (f p) (hm : (f, p) ∈ filter.entries) : Clause.Clean entity f p := clean_of_ofText h hm
  constructor
  case mp =>
    intro ht f p hm
    exact (joined_of_ofText_text hne hc ht hm).joins
  case mpr =>
    intro hj
    refine ofText_text hne fun f p hm => ⟨hc f p hm, ?_⟩
    exact (hw.joined (hc f p hm)).mpr (hj f p hm)

theorem ofGiven_text_of_ofGiven_lessThan :
    let entity := Entity.ofNames "User" ["id", "name", "age", "status"]
    let text := "status=in('A', 'B')& age < 3<0&age<30"
    let filter : Filter := .ofList [("age", .lessThan "30"), ("status", .oneOf ["A", "B"])]
    entity.Worded ∧ ofGiven entity (.once text) = .ok filter ∧ filter ≠ ∅ ∧
      (ofGiven entity (.once filter.text) = .ok filter ↔
        ∀ f p, (f, p) ∈ filter.entries → p.Joins) := by
  intro entity text filter
  have hw : entity.Worded := Entity.worded_ofNames (by decide +kernel)
  have h : ofGiven entity (.once text) = .ok filter := by decide +kernel
  have hne : filter ≠ ∅ := by decide +kernel
  exact ⟨hw, h, hne, ofGiven_text_of_ofGiven_iff hw h hne⟩

-- The bound `-b` is read from `age<-b<1`, but `age<-b` has no joint.
theorem not_forall_ofGiven_text :
    ¬∀ (entity : Entity) (text : String) (filter : Filter), entity.Worded →
      ofGiven entity (.once text) = .ok filter → filter ≠ ∅ →
        ofGiven entity (.once filter.text) = .ok filter := by
  intro h
  have hw : (Entity.ofNames "User" ["id", "name", "age", "status"]).Worded :=
    Entity.worded_ofNames (by decide +kernel)
  have hr := h _ "age<-b<1" (.ofList [("age", .lessThan "-b")]) hw (by decide +kernel)
    (by decide +kernel)
  revert hr
  decide +kernel

end Filter

end RequestQuery
