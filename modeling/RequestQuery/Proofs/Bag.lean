import RequestQuery.Bag
import RequestQuery.Proofs.SortedMap

namespace RequestQuery

namespace Given

variable {given : Given} {parameter value : String} {r : Rejection}

-- An empty value counts as none.
theorem sole_empty (parameter : String) :
    (once "").sole parameter = .error (Cause.missing parameter).rejection :=
  rfl

theorem sole_once (h : value ≠ "") : (once value).sole parameter = .ok value := by
  rw [sole, if_neg (by simpa using h)]

theorem sole_eq_ok_iff : given.sole parameter = .ok value ↔ given = once value ∧ value ≠ "" := by
  cases given
  case missing     => simp [sole]
  case repeated vs => simp [sole]
  case once v =>
    by_cases h : v = ""
    case pos => simp +contextual [h, sole_empty]
    case neg =>
      rw [sole_once h, Except.ok.injEq, once.injEq]
      exact (and_iff_left_of_imp fun hv => hv ▸ h).symm

theorem kind_of_sole (h : given.sole parameter = .error r) :
    r.kind = .missingParameter ∨ r.kind = .duplicateParameter := by
  cases given
  case missing     => cases h; exact .inl rfl
  case repeated vs => cases h; exact .inr rfl
  case once v =>
    by_cases hv : v = ""
    case pos => cases hv; cases h; exact .inl rfl
    case neg => rw [sole_once hv] at h; cases h

end Given

-- The pairs that a query string stands for.
def Form.decoded (query : String) : List (String × String) :=
  match query.toList with
  | '?' :: cs => pairs cs
  | cs        => pairs cs

namespace Bag

variable {bag : Bag} {name : String} {pairs : List (String × String)}

theorem ofQuery_eq_ofPairs (query : String) : ofQuery query = ofPairs (Form.decoded query) := by
  rw [ofQuery, Form.decoded]
  split <;> simp_all

theorem contains_of_get_once {value : String} (h : bag.get name = .once value) : bag.contains name := by
  rw [contains, SortedMap.contains_eq]
  rw [get] at h
  cases hv : bag.values.get? name
  case none => rw [hv] at h; cases h
  case some => rfl

theorem contains_push (bag : Bag) (name name' value : String) :
    (bag.push name value).contains name' ↔ name' = name ∨ bag.contains name' := by
  rw [contains, push, SortedMap.contains_eq, SortedMap.get?_insert, contains, SortedMap.contains_eq]
  by_cases h : name' = name <;> simp [h]

-- Nothing that is put into a bag comes out of it again.
theorem contains_pushAll (bag : Bag) (pairs : List (String × String)) (name : String) :
    (pairs.foldl (fun bag pair => bag.push pair.1 pair.2) bag).contains name ↔
      bag.contains name ∨ ∃ value, (name, value) ∈ pairs := by
  induction pairs generalizing bag with
  | nil => simp
  | cons pair pairs ih =>
    have hp : (∃ value, (name, value) ∈ pair :: pairs) ↔
        name = pair.1 ∨ ∃ value, (name, value) ∈ pairs := by
      simp only [List.mem_cons, exists_or, Prod.ext_iff, exists_and_left, exists_eq, and_true]
    rw [List.foldl_cons, ih, contains_push, hp, or_assoc, or_left_comm]

theorem contains_ofPairs : (ofPairs pairs).contains name ↔ ∃ value, (name, value) ∈ pairs := by
  rw [ofPairs, contains_pushAll, or_iff_right]
  exact Bool.false_ne_true

-- The values that pairs give for a name, in their order.
def delivered (name : String) (pairs : List (String × String)) : List String :=
  pairs.filterMap fun pair => if pair.1 = name then some pair.2 else none

theorem delivered_append (name : String) (pairs pairs' : List (String × String)) :
    delivered name (pairs ++ pairs') = delivered name pairs ++ delivered name pairs' :=
  List.filterMap_append

theorem values_push (bag : Bag) (name name' value : String) :
    ((bag.push name value).values.get? name').getD [] =
      (bag.values.get? name').getD [] ++ if name = name' then [value] else [] := by
  rw [push, SortedMap.get?_insert]
  by_cases h : name' = name
  case pos => simp [h]
  case neg => simp [h, Ne.symm h]

theorem values_pushAll (bag : Bag) (pairs : List (String × String)) (name : String) :
    ((pairs.foldl (fun bag pair => bag.push pair.1 pair.2) bag).values.get? name).getD [] =
      (bag.values.get? name).getD [] ++ delivered name pairs := by
  induction pairs generalizing bag with
  | nil => simp [delivered]
  | cons pair pairs ih =>
    rw [List.foldl_cons, ih, values_push, List.append_assoc]
    by_cases h : pair.1 = name
    case pos => simp [delivered, h]
    case neg => simp [delivered, h]

-- None of the values is lost, and no other name's are among them.
theorem get_ofPairs (pairs : List (String × String)) (name : String) :
    (ofPairs pairs).get name = .ofList (delivered name pairs) := by
  rw [get, ofPairs, values_pushAll]
  rfl

theorem delivered_ne_nil_iff : delivered name pairs ≠ [] ↔ (ofPairs pairs).contains name := by
  rw [contains_ofPairs, delivered, ne_eq, List.filterMap_eq_nil_iff]
  simp

theorem contains_ofQuery {query : String} :
    (ofQuery query).contains name ↔ ∃ value, (name, value) ∈ Form.decoded query := by
  rw [ofQuery_eq_ofPairs, contains_ofPairs]

end Bag

end RequestQuery
