import Mathlib.Data.List.Nodup
import RequestQuery.Data.Members
import RequestQuery.Proofs.SortedMap

namespace RequestQuery.Data

variable {surplus : Surplus} {names : List String} {required : Nat} {members : List (String × Data)}

theorem members?_record_of_countP (h : ∀ name ∈ names, members.countP (·.1 == name) ≤ 1) :
    (record members).members? surplus names required = some fun name => members.lookup name := by
  rw [members?, if_pos]
  simpa using h

theorem members?_record (h : (members.map (·.1)).Nodup) :
    (record members).members? surplus names required = some fun name => members.lookup name := by
  refine members?_record_of_countP fun name _ => ?_
  have hc : members.countP (·.1 == name) = (members.map (·.1)).count name := by
    rw [List.count, List.countP_map]
    rfl
  rw [hc]
  exact List.nodup_iff_count_le_one.mp h name

-- The member of a name, if there is anything to write.
def optional (name : String) (d : Option Data) : List (String × Data) :=
  (d.map (name, ·)).toList

theorem map_optional_sublist (name : String) (d : Option Data) :
    ((optional name d).map (·.1)).Sublist [name] := by
  cases d
  case none => exact List.nil_sublist _
  case some => exact List.Sublist.refl _

theorem lookup_optional (name key : String) (d : Option Data) :
    (optional name d).lookup key = if key = name then d else none := by
  cases d
  case none => simp [optional]
  case some => rw [optional, Option.map_some, Option.toList_some, SortedMap.lookup_cons]; rfl

theorem mapM_map {α : Type} {read : Data → Option α} {write : α → Data}
    (h : ∀ a, read (write a) = some a) (a : Option α) : (a.map write).mapM read = some a := by
  cases a
  case none => rfl
  case some a => simp [h]

theorem orElse_some {α : Type} (read : Data → Option α) (absent : α) (d : Data) :
    orElse read absent (some d) = read d := by
  rw [orElse]

theorem orElse_optionalText? (a : Option String) : orElse optionalText? none (a.map text) = some a := by
  cases a <;> rfl

-- The values under a path of names. A record may hold a name more than once.
def valuesAt : List String → Data → List Data
  | [], d                        => [d]
  | name :: path, record members => (members.filter (·.1 == name)).flatMap fun m => valuesAt path m.2
  | _ :: _, _                    => []

theorem valuesAt_cons (name : String) (path : List String) (d : Data) :
    d.valuesAt (name :: path) = (d.valuesAt [name]).flatMap (valuesAt path) := by
  cases d
  case record members => simp [valuesAt, List.flatMap_assoc]
  all_goals rfl

theorem valuesAt_record (name : String) (members : List (String × Data)) :
    (record members).valuesAt [name] = (members.filter (·.1 == name)).map (·.2) := by
  simp [valuesAt, List.map_eq_flatMap]

theorem head?_valuesAt_record (name : String) (members : List (String × Data)) :
    ((record members).valuesAt [name]).head? = members.lookup name := by
  rw [valuesAt_record, List.head?_map, List.head?_filter]
  induction members with
  | nil => rfl
  | cons m members ih =>
    rw [SortedMap.lookup_cons, ← ih, List.find?_cons]
    by_cases hm : m.1 = name
    case pos => simp [hm]
    case neg => simp [beq_false_of_ne hm, Ne.symm hm]

theorem members?_record_of_valuesAt
    (h : ∀ name ∈ names, ((record members).valuesAt [name]).length ≤ 1) :
    (record members).members? surplus names required =
      some fun name => ((record members).valuesAt [name]).head? := by
  simp only [head?_valuesAt_record]
  refine members?_record_of_countP fun name hn => ?_
  have hl := h name hn
  rwa [valuesAt_record, List.length_map, ← List.countP_eq_length_filter] at hl

end RequestQuery.Data
