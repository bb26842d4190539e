import Mathlib.Control.Monad.Basic
import RequestQuery.Query
import RequestQuery.Proofs.Filter.Content

namespace RequestQuery

theorem Query.withFilter_override (q : Query) (older newer : Filter) :
    q.withFilter (older.override newer) = (q.withFilter older).withFilter newer := by
  simp only [withFilter, SortedMap.override_assoc]

namespace Filter

variable {entity : Entity} {a b text : String} {older newer : Filter}

theorem ofGiven_once_of_ne (entity : Entity) (h : text ≠ "") :
    ofGiven entity (.once text) = ofText entity text := by
  rw [ofGiven, Given.sole_once h]
  rfl

theorem ofClauses_append (clauses₁ clauses₂ : List Clause) :
    ofClauses (clauses₁ ++ clauses₂) = (ofClauses clauses₁).override (ofClauses clauses₂) := by
  rw [ofClauses, List.filterMap_append, SortedMap.ofList_append]
  rfl

-- The pieces of the whole are those of the one text and behind them those of the other.
theorem ofText_append (entity : Entity) (a b : String) :
    ofText entity (a ++ "&" ++ b) = do
      let older ← ofText entity a
      let newer ← ofText entity b
      return older.override newer := by
  have hs : (a ++ "&" ++ b).toList.splitOn '&' = a.toList.splitOn '&' ++ b.toList.splitOn '&' := by
    simp only [String.toList_append, List.append_assoc]
    exact List.splitOn_append_cons_self ..
  simp only [ofText, hs, List.mapM_append, map_bind, bind_map_left, map_pure, ofClauses_append]

theorem ofGiven_once_append_eq_bind (entity : Entity) (ha : a ≠ "") (hb : b ≠ "") :
    ofGiven entity (.once (a ++ "&" ++ b)) = do
      let older ← ofGiven entity (.once a)
      let newer ← ofGiven entity (.once b)
      return older.override newer := by
  have hab : a ++ "&" ++ b ≠ "" := by simp [ha]
  rw [ofGiven_once_of_ne entity ha, ofGiven_once_of_ne entity hb, ofGiven_once_of_ne entity hab,
    ofText_append]

theorem ofGiven_once_append_of_ok (ha : a ≠ "") (hb : b ≠ "")
    (ho : ofGiven entity (.once a) = .ok older) (hn : ofGiven entity (.once b) = .ok newer) :
    ofGiven entity (.once (a ++ "&" ++ b)) = .ok (older.override newer) := by
  rw [ofGiven_once_append_eq_bind entity ha hb, ho, hn]
  rfl

theorem ofGiven_once_append_self (entity : Entity) (h : text ≠ "") :
    ofGiven entity (.once (text ++ "&" ++ text)) = ofGiven entity (.once text) := by
  cases hr : ofGiven entity (.once text)
  case error => rw [ofGiven_once_append_eq_bind entity h h, hr]; rfl
  case ok f  => rw [ofGiven_once_append_of_ok h h hr hr, f.override_self]

-- A refusal of the first text stands whatever the second one is. If both are read, the conditions of the
-- second one hold where they are on the same fields, so that texts without a common field may change
-- places, and adding the filters to a query one by one comes to the same.
theorem ofGiven_once_append (entity : Entity) (q : Query) (ha : a ≠ "") (hb : b ≠ "") :
    let read (text : String) := ofGiven entity (.once text)
    read (a ++ "&" ++ a) = read a ∧
      match read a, read b with
      | .error r, _     => read (a ++ "&" ++ b) = .error r
      | .ok _, .error r => read (a ++ "&" ++ b) = .error r
      | .ok older, .ok newer =>
        ∃ filter, read (a ++ "&" ++ b) = .ok filter ∧
          (∀ field, filter.get? field = (newer.get? field).or (older.get? field)) ∧
          q.withFilter filter = (q.withFilter older).withFilter newer ∧
          ((∀ field, older.contains field → newer.contains field = false) →
            read (b ++ "&" ++ a) = .ok filter) := by
  intro read
  refine ⟨ofGiven_once_append_self entity ha, ?_⟩
  have hab : read (a ++ "&" ++ b) = _ := ofGiven_once_append_eq_bind entity ha hb
  split
  case h_1 r ho => exact hab.trans (bind_eq_error_iff.mpr (.inl ho))
  case h_2 older r ho hn =>
    exact hab.trans (bind_eq_error_iff.mpr (.inr ⟨older, ho, bind_eq_error_iff.mpr (.inl hn)⟩))
  case h_3 older newer ho hn =>
    refine ⟨older.override newer, ofGiven_once_append_of_ok ha hb ho hn, ?_,
      q.withFilter_override older newer, fun hd => ?_⟩
    · exact SortedMap.get?_override older newer
    · rw [SortedMap.override_comm hd]
      exact ofGiven_once_append_of_ok hb ha hn ho

-- The second text is on a field of the first one again, and its first piece says nothing.
theorem ofGiven_once_append_overriding :
    let entity := Entity.ofNames "User" ["age", "name", "status"]
    let a := "age=1&name='x'"
    let b := "name= =x=1&status=in('A', b)&age>2"
    let q : Query := { filter := .ofList [("name", .equals "y")] }
    let older : Filter := .ofList [("age", .equals "1"), ("name", .equals "x")]
    let newer : Filter := .ofList [("age", .greaterThan "2"), ("status", .oneOf ["A", "b"])]
    a ≠ "" ∧ b ≠ "" ∧ ∃ filter, ofGiven entity (.once (a ++ "&" ++ b)) = .ok filter ∧
      filter.get? "age" = some (.greaterThan "2") ∧ filter.get? "name" = some (.equals "x") ∧
      q.withFilter filter = (q.withFilter older).withFilter newer := by
  intro entity a b q older newer
  have ha : a ≠ "" := by decide
  have hb : b ≠ "" := by decide
  have ho : ofGiven entity (.once a) = .ok older := by decide +kernel
  have hn : ofGiven entity (.once b) = .ok newer := by decide +kernel
  have h := (ofGiven_once_append entity q ha hb).2
  simp only [ho, hn] at h
  have ⟨filter, hf, hg, hq, _⟩ := h
  refine ⟨ha, hb, filter, hf, ?_, ?_, hq⟩
  · rw [hg]; decide +kernel
  · rw [hg]; decide +kernel

end Filter

end RequestQuery
