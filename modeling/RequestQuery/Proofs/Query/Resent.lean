import RequestQuery.Proofs.Bag.Form
import RequestQuery.Proofs.PageNumber.Text
import RequestQuery.Proofs.Query.Arrangement
import RequestQuery.Proofs.Query.Json

namespace RequestQuery

namespace Query

variable {entity : Entity} {options : ReadingOptions} {q : Query} {pairs others : List (String × String)}

def bound (q : Query) : PageBound → Option PageNumber
  | .limit  => q.limit
  | .offset => q.offset

def withBounds (q : Query) (limit offset : Option PageNumber) : Query :=
  { q with limit, offset }

-- A member of what a query is written as.
def member? (q : Query) (name : String) : Option Data :=
  q.toData.members? .refused memberNames 0 >>= (· name)

-- The page bounds in the JSON of a query, as parameters.
def boundPairs (q : Query) : List (String × String) :=
  [PageBound.limit, .offset].filterMap fun b =>
    (q.member? b.parameter.name).map fun d => (b.parameter.name, Json.compact d)

theorem member?_bound (q : Query) (b : PageBound) :
    q.member? b.parameter.name = (q.bound b).map PageNumber.toData := by
  have ⟨_, _, hl, ho⟩ := q.lookup_rows
  rw [member?, toData_eq, Data.members?_record q.nodup_names_rows]
  cases b
  case limit  => exact hl
  case offset => exact ho

theorem boundPairs_eq (q : Query) :
    q.boundPairs = (q.limit.map fun n => ("limit", n.text)).toList ++
      (q.offset.map fun n => ("offset", n.text)).toList := by
  have hl : q.member? "limit" = q.limit.map PageNumber.toData   := q.member?_bound .limit
  have ho : q.member? "offset" = q.offset.map PageNumber.toData := q.member?_bound .offset
  cases hl' : q.limit <;> cases ho' : q.offset <;>
    simp [boundPairs, PageBound.parameter, Parameter.name, hl, ho, hl', ho', PageNumber.compact_toData]

theorem delivered_boundPairs (q : Query) (b : PageBound) :
    Bag.delivered b.parameter.name q.boundPairs = ((q.bound b).map PageNumber.text).toList := by
  rw [boundPairs_eq]
  cases b <;> cases hl : q.limit <;> cases ho : q.offset <;>
    simp [Bag.delivered, PageBound.parameter, Parameter.name, bound, hl, ho]

theorem delivered_boundPairs_of_ne (q : Query) {k : Parameter} (h : ∀ b : PageBound, b.parameter ≠ k) :
    Bag.delivered k.name q.boundPairs = [] := by
  rw [boundPairs_eq]
  cases k
  case limit  => exact absurd rfl (h .limit)
  case offset => exact absurd rfl (h .offset)
  all_goals
    cases hl : q.limit <;> cases ho : q.offset <;> simp [Bag.delivered, Parameter.name]

theorem readIfGiven_ofPairs {α : Type} (k : Parameter) (read : Given → Except Rejection α)
    (pairs : List (String × String)) :
    readIfGiven (.ofPairs pairs) k read =
      if Bag.delivered k.name pairs = [] then .ok none
      else some <$> read (.ofList (Bag.delivered k.name pairs)) := by
  simp only [readIfGiven, Bag.get_ofPairs, ← Bag.delivered_ne_nil_iff, ite_not]

-- Pairs among which there is no bound.
def Unbounded (pairs : List (String × String)) : Prop :=
  ∀ pair ∈ pairs, ∀ b : PageBound, pair.1 ≠ b.parameter.name

theorem Unbounded.delivered (h : Unbounded others) (b : PageBound) :
    Bag.delivered b.parameter.name others = [] := by
  simp only [Bag.delivered, List.filterMap_eq_nil_iff]
  exact fun pair hp => if_neg (h pair hp b)

-- What is given for a bound is read as that bound, and as none where there is none.
theorem readIfGiven_append_boundPairs {strict : Bool} (h : Unbounded others) (b : PageBound)
    (hn : ∀ n ∈ q.bound b, strict → n.isNatural) :
    readIfGiven (.ofPairs (others ++ q.boundPairs)) b.parameter (PageNumber.ofGiven b.parameter strict) =
      .ok (q.bound b) := by
  rw [readIfGiven_ofPairs, Bag.delivered_append, h.delivered, delivered_boundPairs]
  cases hb : q.bound b
  case none   => rfl
  case some n =>
    have hg := PageNumber.ofGiven_text n b.parameter (hn n hb)
    simp [Given.ofList, hg]

theorem readIfGiven_of_unbounded {α : Type} (h : Unbounded others) (b : PageBound)
    (read : Given → Except Rejection α) : readIfGiven (.ofPairs others) b.parameter read = .ok none := by
  rw [readIfGiven_ofPairs, h.delivered, if_pos rfl]

theorem readIfGiven_append_boundPairs_of_ne {α : Type} {k : Parameter} (others : List (String × String))
    (q : Query) (h : ∀ b : PageBound, b.parameter ≠ k) (read : Given → Except Rejection α) :
    readIfGiven (.ofPairs (others ++ q.boundPairs)) k read = readIfGiven (.ofPairs others) k read := by
  simp only [readIfGiven_ofPairs, Bag.delivered_append, delivered_boundPairs_of_ne q h, List.append_nil]

-- The bounds are added to whatever else the request comes to, and change nothing about a refusal.
theorem ofBag_append_boundPairs (h : Unbounded others)
    (hn : ∀ b, ∀ n ∈ q.bound b, options.strictBounds → n.isNatural) :
    ofBag entity options (.ofPairs (others ++ q.boundPairs)) =
      (·.withBounds q.limit q.offset) <$> ofBag entity options (.ofPairs others) := by
  have hl := readIfGiven_append_boundPairs h .limit (hn .limit)
  have ho := readIfGiven_append_boundPairs h .offset (hn .offset)
  have hf := readIfGiven_append_boundPairs_of_ne (k := .filter) others q (fun b => by cases b <;> decide)
    (Filter.ofGiven entity)
  have hk := readIfGiven_append_boundPairs_of_ne (k := .order) others q (fun b => by cases b <;> decide)
    (SortKey.ofGiven entity)
  have hl' := readIfGiven_of_unbounded h .limit (PageNumber.ofGiven .limit options.strictBounds)
  have ho' := readIfGiven_of_unbounded h .offset (PageNumber.ofGiven .offset options.strictBounds)
  simp only [PageBound.parameter] at hl ho hl' ho'
  rw [ofBag, ofBag, hf, hk, hl, ho, hl', ho']
  cases readIfGiven (.ofPairs others) .filter (Filter.ofGiven entity)
  case error => rfl
  case ok filter =>
    cases readIfGiven (.ofPairs others) .order (SortKey.ofGiven entity) <;> rfl

-- Strict bounds are kept to by what they let pass.
theorem isNatural_of_ofBag {bag : Bag} (h : ofBag entity options bag = .ok q) (b : PageBound) :
    ∀ n ∈ q.bound b, options.strictBounds → n.isNatural := by
  have ha := admissible_of_ofBag h
  cases b
  case limit  => exact fun n hn => PageNumber.bounded_iff.mp (ha.limit n hn)
  case offset => exact fun n hn => PageNumber.bounded_iff.mp (ha.offset n hn)

-- A number is what its text is read as, and the bounds of a query are those of any request in which they are
-- sent again, in any order and beside whatever else is asked for.
theorem ofText?_text_and_ofBag_resent :
    (∀ n : PageNumber, PageNumber.ofText? n.text = some n) ∧
      ∀ entity options bag q, ofBag entity options bag = .ok q →
        ∀ others pairs query, Unbounded others → pairs.Perm (others ++ q.boundPairs) →
          Form.Sends query pairs →
          ofBag entity options (.ofQuery query) =
            (·.withBounds q.limit q.offset) <$> ofBag entity options (.ofPairs others) where
  left := PageNumber.ofText?_text
  right entity options bag q h others pairs query hu hp hs := by
    have ha : (Bag.ofPairs pairs).Alike (.ofPairs (others ++ q.boundPairs)) :=
      Bag.alike_of_perm (hp.filter _)
    rw [Bag.ofQuery_eq_ofPairs, hs.decoded, ofBag_congr entity options ha]
    exact ofBag_append_boundPairs hu (isNatural_of_ofBag h)

-- The plus of an exponent has to be escaped, and the sign of a zero is kept.
theorem ofText?_text_and_ofBag_resent_signs :
    let entity := Entity.ofNames "User" ["age", "name"]
    let received := Bag.ofQuery "limit=0.1e17&filter=age%3E1&offset=-0."
    let query := "offset=-0.0&orderBy=name&limit=1e%2B16"
    ∃ q, ofBag entity {} received = .ok q ∧ q.boundPairs = [("limit", "1e+16"), ("offset", "-0.0")] ∧
      ofBag entity {} (.ofQuery query) =
        .ok { order := some "\"name\"", limit := q.limit, offset := q.offset } := by
  intro entity received query
  have hr : boundPairs <$> ofBag entity {} received = .ok [("limit", "1e+16"), ("offset", "-0.0")] := by
    decide +kernel
  obtain ⟨q, hq, hb⟩ := map_eq_ok_iff.mp hr
  have hplus : Form.Spelled [] '+' ['%', '2', 'B'] := .escaped (.cons 0x2B .lower .upper .nil)
  have hexp : Form.Spells [] "1e+16".toList "1e%2B16".toList :=
    .cons (.raw (by decide) List.not_mem_nil) <| .cons (.raw (by decide) List.not_mem_nil) <|
      .cons hplus (.raw (by decide))
  have hs : Form.Sends query [("offset", "-0.0"), ("orderBy", "name"), ("limit", "1e+16")] := by
    refine ⟨query.toList, ⟨_, .cons (.intro (.raw ?_) (.raw ?_)) (.cons (.intro (.raw ?_) (.raw ?_))
      (.cons (.intro (.raw ?_) hexp) .nil)), ?_⟩, .inr ⟨rfl, ?_⟩⟩
    all_goals decide
  have hu : Unbounded [("orderBy", "name")] := by
    intro pair hp b
    obtain rfl := List.mem_singleton.mp hp
    cases b <;> decide
  have hp : [("offset", "-0.0"), ("orderBy", "name"), ("limit", "1e+16")].Perm
      ([("orderBy", "name")] ++ q.boundPairs) := by
    rw [hb]
    decide
  refine ⟨q, hq, hb, ?_⟩
  rw [ofText?_text_and_ofBag_resent.2 entity {} received q hq _ _ query hu hp hs]
  rfl

end Query

end RequestQuery
