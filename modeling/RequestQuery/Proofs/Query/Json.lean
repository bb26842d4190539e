import RequestQuery.Query
import RequestQuery.Proofs.Data.Members
import RequestQuery.Proofs.Json.Writer

namespace RequestQuery

open Json

namespace Predicate

def ofData? : Data → Option Predicate
  | .text value => some (equals value)
  | .list items => oneOf <$> items.mapM Data.text?
  | .record [(name, .text bound)] =>
    if name = "lt" then some (lessThan bound)
    else if name = "gt" then some (greaterThan bound)
    else none
  | _ => none

theorem ofData?_toData (p : Predicate) : ofData? p.toData = some p := by
  cases p
  case equals      => rfl
  case oneOf       => exact congrArg (oneOf <$> ·) (mapM_map_eq_some (by intro s; rfl))
  case lessThan    => rfl
  case greaterThan => rfl

theorem writable_toData (p : Predicate) : Writable p.toData := by
  cases p
  case equals => exact .text _
  case oneOf values =>
    refine .list fun d hd => ?_
    have ⟨value, _, hv⟩ := List.mem_map.mp hd
    exact hv ▸ .text value
  case lessThan    => exact .record (by simpa using .text _)
  case greaterThan => exact .record (by simpa using .text _)

end Predicate

namespace PageNumber

-- A decimal stands for the number that it is rounded to.
def ofData? : Data → Option PageNumber
  | .integer n =>
    if h : -0x8000000000000000 ≤ n ∧ n ≤ 0xFFFFFFFFFFFFFFFF then some (integer n h) else none
  | .decimal l => real <$> Decimal.Binary64.ofLiteral? l
  | _ => none

theorem ofData?_toData (n : PageNumber) : ofData? n.toData = some n := by
  cases n
  case integer n h => exact dif_pos h
  case real x => rw [toData, ofData?, Decimal.Binary64.ofLiteral?_shortest]; rfl

theorem writable_toData (n : PageNumber) : Writable n.toData := by
  cases n
  case integer n _ => exact .integer n
  case real x =>
    refine .decimal x.complete_shortest (Token.isStrict_shortest x) ?_
    rw [Data.ofLiteral, x.integer?_shortest]

end PageNumber

namespace Filter

def ofData? : Data → Option Filter
  | .record members => .ofList <$> members.mapM fun (field, d) => (field, ·) <$> Predicate.ofData? d
  | _ => none

theorem ofData?_toData (filter : Filter) : ofData? filter.toData = some filter := by
  rw [toData, ofData?, mapM_map_eq_some, Option.map_eq_map, Option.map_some, SortedMap.ofList_entries]
  exact fun e => congrArg ((e.1, ·) <$> ·) e.2.ofData?_toData

theorem writable_toData (filter : Filter) : Writable filter.toData := by
  refine .record fun m hm => ?_
  have ⟨(_, p), _, hp⟩ := List.mem_map.mp hm
  exact hp ▸ p.writable_toData

end Filter

namespace Query

variable {q : Query}

def memberNames : List String :=
  ["where", "order", "limit", "offset"]

def ofData? (d : Data) : Option Query := do
  let member ← d.members? .refused memberNames 0
  return {
    filter := ← member "where" >>= Filter.ofData?
    order  := ← (member "order").mapM Data.text?
    limit  := ← (member "limit").mapM PageNumber.ofData?
    offset := ← (member "offset").mapM PageNumber.ofData?
  }

def ofJson? (text : String) : Option Query :=
  Json.ofText? text >>= ofData?

-- The members that a query is written as.
def rows (q : Query) : List (String × Data) :=
  Data.optional "where" (some q.filter.toData) ++ Data.optional "order" (q.order.map .text)
    ++ Data.optional "limit" (q.limit.map PageNumber.toData)
    ++ Data.optional "offset" (q.offset.map PageNumber.toData)

theorem toData_eq (q : Query) : q.toData = .record q.rows := by
  simp only [toData, rows, Data.optional, Option.map_map, Option.map_some, Option.toList_some]
  rfl

theorem nodup_names_rows (q : Query) : (q.rows.map (·.1)).Nodup := by
  have hs : (q.rows.map (·.1)).Sublist memberNames := by
    simp only [rows, List.map_append]
    exact (((Data.map_optional_sublist ..).append (Data.map_optional_sublist ..)).append
      (Data.map_optional_sublist ..)).append (Data.map_optional_sublist ..)
  exact hs.nodup (by decide)

theorem lookup_rows (q : Query) :
    q.rows.lookup "where" = some q.filter.toData ∧ q.rows.lookup "order" = q.order.map .text ∧
      q.rows.lookup "limit" = q.limit.map PageNumber.toData ∧
      q.rows.lookup "offset" = q.offset.map PageNumber.toData := by
  simp [rows, List.lookup_append, Data.lookup_optional]

theorem ofData?_toData (q : Query) : ofData? q.toData = some q := by
  have ⟨hfilter, horder, hlimit, hoffset⟩ := q.lookup_rows
  have ho : (q.order.map Data.text).mapM Data.text? = some q.order := Data.mapM_map (by intro s; rfl) _
  rw [ofData?, toData_eq, Data.members?_record q.nodup_names_rows]
  simp [hfilter, horder, hlimit, hoffset, Filter.ofData?_toData, ho, Data.mapM_map PageNumber.ofData?_toData]

theorem writable_toData (q : Query) : Writable q.toData := by
  refine toData_eq q ▸ .record fun m hm => ?_
  simp only [rows, List.mem_append, Data.optional, Option.mem_toList, Option.map_eq_some_iff] at hm
  obtain ((⟨_, ⟨⟩, rfl⟩ | ⟨_, ⟨order, _, rfl⟩, rfl⟩) | ⟨_, ⟨n, _, rfl⟩, rfl⟩) |
    ⟨_, ⟨n, _, rfl⟩, rfl⟩ := hm
  · exact q.filter.writable_toData
  · exact .text order
  · exact n.writable_toData
  · exact n.writable_toData

theorem ofJson?_compact (q : Query) : ofJson? (compact q.toData) = some q := by
  rw [ofJson?, Json.ofText?_compact q.writable_toData]
  exact q.ofData?_toData

-- The text tells the query: it can be read back, so that no two queries share one.
theorem ofJson?_compact_and_compact_inj :
    (∀ q : Query, ofJson? (compact q.toData) = some q) ∧
      ∀ q₁ q₂ : Query, compact q₁.toData = compact q₂.toData ↔ q₁ = q₂ where
  left := ofJson?_compact
  right q₁ q₂ := {
    mp h := by
      have h₁ := ofJson?_compact q₁
      rw [h, ofJson?_compact q₂] at h₁
      exact (Option.some.inj h₁).symm
    mpr h := by rw [h]
  }

end Query

end RequestQuery
