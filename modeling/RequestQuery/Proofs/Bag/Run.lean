import RequestQuery.Proofs.Bag
import RequestQuery.Proofs.Text.ByteOrder

namespace RequestQuery

open Text

namespace Given

variable {value : String} {values vs : List String}

theorem ofList_eq_missing_iff : ofList values = missing ↔ values = [] := by
  match values with
  | []          => simp [ofList]
  | [_]         => simp [ofList]
  | _ :: _ :: _ => simp [ofList]

theorem ofList_eq_once_iff : ofList values = once value ↔ values = [value] := by
  match values with
  | []          => simp [ofList]
  | [_]         => simp [ofList]
  | _ :: _ :: _ => simp [ofList]

theorem ofList_eq_repeated_iff : ofList values = repeated vs ↔ 2 ≤ values.length ∧ values = vs := by
  match values with
  | []          => simp [ofList]
  | [_]         => simp [ofList]
  | _ :: _ :: _ => simp [ofList]

end Given

namespace Form

theorem pairs_append (cs ds : List Char) : pairs (cs ++ '&' :: ds) = pairs cs ++ pairs ds := by
  have he : Utf8.encode (cs ++ '&' :: ds) = Utf8.encode cs ++ '&'.toUInt8 :: Utf8.encode ds :=
    List.flatMap_append
  rw [pairs, he, List.splitOn_append_cons_self, List.filter_append, List.map_append]
  rfl

theorem decoded_of_head {query : String} {c : Char} {cs : List Char} (h : query.toList = c :: cs)
    (hc : c ≠ '?') : decoded query = pairs query.toList := by
  rw [decoded]
  split
  case h_1 hq => exact absurd (List.cons.inj (h.symm.trans hq)).1 hc
  case h_2    => rfl

-- Only a mark in front of the whole is taken away.
theorem decoded_append (a b : String) : decoded (a ++ "&" ++ b) = decoded a ++ pairs b.toList := by
  have hab : (a ++ "&" ++ b).toList = a.toList ++ '&' :: b.toList := by simp
  match ha : a.toList with
  | [] =>
    rw [decoded, decoded, hab, ha]
    exact pairs_append [] b.toList
  | c :: cs =>
    by_cases hc : c = '?'
    case pos =>
      cases hc
      rw [decoded, decoded, hab, ha]
      exact pairs_append cs b.toList
    case neg =>
      rw [decoded_of_head ha hc, decoded_of_head (hab.trans (by rw [ha]; rfl)) hc, hab]
      exact pairs_append a.toList b.toList

end Form

namespace Bag

variable {bag : Bag} {pairs : List (String × String)}

theorem ofPairs_append (pairs rest : List (String × String)) :
    ofPairs (pairs ++ rest) = rest.foldl (fun bag pair => bag.push pair.1 pair.2) (ofPairs pairs) :=
  List.foldl_append

theorem nodup_names (bag : Bag) : bag.names.Nodup :=
  List.pairwise_map.mpr bag.values.pairwise_ne

inductive Operation
  | parse (query : String)
  | collect (pairs : List (String × String))
  | push (name value : String)

def after (bag : Bag) : Operation → Bag
  | .parse query     => ofQuery query
  | .collect pairs   => ofPairs pairs
  | .push name value => bag.push name value

def run (bag : Bag) (ops : List Operation) : Bag :=
  ops.foldl after bag

-- The pairs that count after an operation, when so far these did.
def record (pairs : List (String × String)) : Operation → List (String × String)
  | .parse query     => Form.decoded query
  | .collect pairs   => pairs
  | .push name value => pairs ++ [(name, value)]

-- The pairs that have come since a bag was last filled anew.
def deliveries (ops : List Operation) : List (String × String) :=
  ops.foldl record []

-- A bag that answers everything as the pairs tell.
structure Holds (bag : Bag) (pairs : List (String × String)) : Prop where
  contains (name : String) : bag.contains name ↔ ∃ value, (name, value) ∈ pairs
  missing (name : String) : bag.get name = .missing ↔ delivered name pairs = []
  once (name value : String) : bag.get name = .once value ↔ delivered name pairs = [value]
  repeated (name : String) (values : List String) :
    bag.get name = .repeated values ↔ 2 ≤ (delivered name pairs).length ∧ delivered name pairs = values
  names (name : String) : name ∈ bag.names ↔ ∃ value, (name, value) ∈ pairs
  nodup : bag.names.Nodup
  ascending : bag.names.Pairwise fun name name' => Utf8.encode name.toList < Utf8.encode name'.toList

theorem holds_ofPairs (pairs : List (String × String)) : (ofPairs pairs).Holds pairs where
  contains _      := contains_ofPairs
  missing name    := by rw [get_ofPairs, Given.ofList_eq_missing_iff]
  once name _     := by rw [get_ofPairs, Given.ofList_eq_once_iff]
  repeated name _ := by rw [get_ofPairs, Given.ofList_eq_repeated_iff]
  names _         := SortedMap.mem_keys_iff.trans contains_ofPairs
  nodup           := nodup_names _
  ascending       := SortedMap.keys_ascending _

theorem after_ofPairs (pairs : List (String × String)) (op : Operation) :
    (ofPairs pairs).after op = ofPairs (record pairs op) := by
  cases op
  case parse query     => exact ofQuery_eq_ofPairs query
  case collect         => rfl
  case push name value => exact (ofPairs_append pairs [(name, value)]).symm

-- By induction on the operations: after each of them the bag is that of the pairs that count.
theorem run_ofPairs (pairs : List (String × String)) (ops : List Operation) :
    (ofPairs pairs).run ops = ofPairs (ops.foldl record pairs) := by
  induction ops generalizing pairs with
  | nil => rfl
  | cons op ops ih => rw [run, List.foldl_cons, ← run, after_ofPairs, ih, List.foldl_cons]

theorem run_holds :
    (∀ ops : List Operation, (run {} ops).Holds (deliveries ops)) ∧
      ∀ query rest : String,
        ofQuery (query ++ "&" ++ rest) =
          (ofQuery query).run ((Form.pairs rest.toList).map fun pair => .push pair.1 pair.2) := by
  constructor
  case left =>
    intro ops
    have h : run {} ops = ofPairs (deliveries ops) := run_ofPairs [] ops
    rw [h]
    exact holds_ofPairs _
  case right =>
    intro query rest
    rw [ofQuery_eq_ofPairs, ofQuery_eq_ofPairs, Form.decoded_append, ofPairs_append, run, List.foldl_map]
    rfl

end Bag

end RequestQuery
