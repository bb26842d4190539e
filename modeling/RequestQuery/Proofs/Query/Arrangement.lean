import Mathlib.Data.List.Perm.Basic
import RequestQuery.Proofs.Query.Outcome

namespace RequestQuery

-- Of values that are too many only their number counts.
theorem Given.sole_ofList_perm {vs ws : List String} (h : vs.Perm ws) (parameter : String) :
    (ofList vs).sole parameter = (ofList ws).sole parameter := by
  match vs with
  | []  => rw [h.nil_eq]
  | [v] => rw [List.singleton_perm.mp h]
  | v₁ :: v₂ :: vs =>
    match ws, h.length_eq with
    | w₁ :: w₂ :: ws, _ => rfl

namespace Bag

variable {pairs pairs' : List (String × String)} {bag bag' : Bag}

-- The pairs under the names of the parameters that are interpreted.
def interpreted (pairs : List (String × String)) : List (String × String) :=
  pairs.filter (·.1 ∈ Parameter.all.map Parameter.name)

theorem delivered_interpreted (k : Parameter) (pairs : List (String × String)) :
    delivered k.name (interpreted pairs) = delivered k.name pairs := by
  have hk : k.name ∈ Parameter.all.map Parameter.name := by cases k <;> decide
  rw [delivered, interpreted, List.filterMap_filter]
  refine List.filterMap_congr fun pair _ => ?_
  by_cases h : pair.1 = k.name
  case pos => simp [h, hk]
  case neg => simp [h]

-- Bags in which each parameter is given alike, as far as a reader can tell.
structure Alike (bag bag' : Bag) : Prop where
  contains (k : Parameter) : bag.contains k.name = bag'.contains k.name
  sole (k : Parameter) : (bag.get k.name).sole k.name = (bag'.get k.name).sole k.name

theorem alike_of_perm (h : (interpreted pairs).Perm (interpreted pairs')) :
    (ofPairs pairs).Alike (ofPairs pairs') := by
  have hd (k : Parameter) : (delivered k.name pairs).Perm (delivered k.name pairs') := by
    rw [← delivered_interpreted k pairs, ← delivered_interpreted k pairs']
    exact h.filterMap _
  constructor
  case contains =>
    intro k
    rw [Bool.eq_iff_iff, ← delivered_ne_nil_iff, ← delivered_ne_nil_iff, ← List.length_pos_iff,
      ← List.length_pos_iff, (hd k).length_eq]
  case sole =>
    intro k
    rw [get_ofPairs, get_ofPairs, Given.sole_ofList_perm (hd k)]

end Bag

namespace Query

variable {bag bag' : Bag} {pairs pairs' : List (String × String)}

theorem readIfGiven_congr {α : Type} {read : String → Except Rejection α} (h : bag.Alike bag')
    (k : Parameter) :
    readIfGiven bag k (·.sole k.name >>= read) = readIfGiven bag' k (·.sole k.name >>= read) := by
  rw [readIfGiven, readIfGiven, h.contains, h.sole]

theorem ofBag_congr (entity : Entity) (options : ReadingOptions) (h : bag.Alike bag') :
    ofBag entity options bag = ofBag entity options bag' := by
  have hf : readIfGiven bag .filter (Filter.ofGiven entity) = _ := readIfGiven_congr h .filter
  have ho : readIfGiven bag .order (SortKey.ofGiven entity) = _ := readIfGiven_congr h .order
  have hl : readIfGiven bag .limit (PageNumber.ofGiven .limit options.strictBounds) = _ :=
    readIfGiven_congr h .limit
  have hs : readIfGiven bag .offset (PageNumber.ofGiven .offset options.strictBounds) = _ :=
    readIfGiven_congr h .offset
  rw [ofBag, hf, ho, hl, hs]
  rfl

-- Pairs under other names may come and go wherever they stand, and the rest may be put in any order, pairs
-- of one name among them.
theorem ofBag_ofPairs_eq_of_perm (entity : Entity) (options : ReadingOptions)
    (h : (Bag.interpreted pairs).Perm (Bag.interpreted pairs')) :
    ofBag entity options (.ofPairs pairs) = ofBag entity options (.ofPairs pairs') :=
  ofBag_congr entity options (Bag.alike_of_perm h)

-- Two bounds are too many whichever of them comes first.
theorem ofBag_ofPairs_eq_of_perm_repeated :
    let entity := Entity.ofNames "User" ["age", "name"]
    let pairs := [("limit", "1"), ("debug", ""), ("filter", "age>1"), ("limit", "x"), ("Filter", "?")]
    let pairs' := [("filter", "age>1"), ("limit", "x"), ("utm", "a"), ("limit", "1")]
    (Bag.interpreted pairs).Perm (Bag.interpreted pairs') ∧
      ofBag entity {} (.ofPairs pairs) = ofBag entity {} (.ofPairs pairs') ∧
      ofBag entity {} (.ofPairs pairs) = .error (Cause.repeated "limit").rejection := by
  intro entity pairs pairs'
  have h : (Bag.interpreted pairs).Perm (Bag.interpreted pairs') := by decide +kernel
  exact ⟨h, ofBag_ofPairs_eq_of_perm entity {} h, by decide +kernel⟩

end Query

end RequestQuery
