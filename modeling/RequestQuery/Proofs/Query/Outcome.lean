import RequestQuery.Proofs.Query
import RequestQuery.Proofs.Refusal

namespace RequestQuery

-- In the order in which they are read, whatever their order in the request.
def Parameter.all : List Parameter :=
  [filter, order, limit, offset]

-- What is told about a parameter for which certain values are given, to the inside and to the outside.
structure Rejection.Reports (r : Rejection) (k : Parameter) (values : List String) : Prop where
  parameter : r.parameter = some k.name
  repeated  : r.kind = .duplicateParameter ↔ 2 ≤ values.length
  missing   : r.kind = .missingParameter ↔ values = [""]
  kind      : r.kind = .duplicateParameter ∨ r.kind = .missingParameter ∨ r.kind ∈ k.kinds
  status    : r.publicReport.httpStatus = 400
  message   : r.publicReport.message = r.message

theorem Rejection.Fits.reports {r : Rejection} {k : Parameter} {values : List String}
    (h : r.Fits k (.ofList values)) (hv : values ≠ []) : r.Reports k values where
  parameter := h.parameter
  repeated  := by
    rw [h.repeated]
    match values with
    | [v]          => simp [Given.ofList]
    | v₁ :: v₂ :: vs => simp [Given.ofList]
  missing   := by
    rw [h.missing]
    match values with
    | [v]          => simp [Given.ofList]
    | v₁ :: v₂ :: vs => simp [Given.ofList]
  kind      := h.kind
  status    := r.kind.publicCode_httpStatus
  message   := rfl

namespace Query

variable {entity : Entity} {options : ReadingOptions} {bag : Bag} {q : Query} {r : Rejection}
  {k : Parameter}

section

variable {α : Type} {read : Given → Except Rejection α} {a? : Option α}

theorem readIfGiven_eq_error_iff :
    readIfGiven bag k read = .error r ↔ bag.contains k.name ∧ read (bag.get k.name) = .error r := by
  rw [readIfGiven]
  split
  case isTrue h  => simp [map_eq_error_iff, h]
  case isFalse h => simp [h]

theorem accepted_of_readIfGiven (h : readIfGiven bag k read = .ok a?) (hc : bag.contains k.name) :
    refused? (read (bag.get k.name)) = none := by
  rw [readIfGiven, if_pos hc] at h
  obtain ⟨a, ha, _⟩ := map_eq_ok_iff.mp h
  exact refused?_eq_none_iff.mpr ⟨a, ha⟩

-- What comes next is only reached if the parameter is not refused.
theorem refused_or_accepted_of_bind {β : Type} {f : Option α → Except Rejection β}
    (h : readIfGiven bag k read >>= f = .error r) :
    (bag.contains k.name ∧ refused? (read (bag.get k.name)) = some r) ∨
      (bag.contains k.name → refused? (read (bag.get k.name)) = none) ∧ ∃ a?, f a? = .error r := by
  rcases bind_eq_error_iff.mp h with h | ⟨a?, ha, h⟩
  case inl =>
    obtain ⟨hc, hr⟩ := readIfGiven_eq_error_iff.mp h
    exact .inl ⟨hc, refused?_eq_some_iff.mpr hr⟩
  case inr => exact .inr ⟨accepted_of_readIfGiven ha, a?, h⟩

-- A parameter that is given comes to what is made of the value read from it alone, and one that is not
-- given comes to nothing.
def Comes {β : Type} (bag : Bag) (k : Parameter) (read : Given → Except Rejection α) (make : α → β)
    (nothing b : β) : Prop :=
  if bag.contains k.name then ∃ a, read (bag.get k.name) = .ok a ∧ make a = b else b = nothing

theorem comes_of_readIfGiven {β : Type} (make : Option α → β) (h : readIfGiven bag k read = .ok a?) :
    Comes bag k read (make ∘ some) (make none) (make a?) := by
  rw [readIfGiven] at h
  rw [Comes]
  split
  case isTrue hc =>
    rw [if_pos hc] at h
    obtain ⟨a, ha, rfl⟩ := map_eq_ok_iff.mp h
    exact ⟨a, ha, rfl⟩
  case isFalse hc =>
    rw [if_neg hc] at h
    cases h
    rfl

end

-- Why a parameter is refused when it is read alone, if it is.
def refusal? (entity : Entity) (options : ReadingOptions) (bag : Bag) : Parameter → Option Rejection
  | .filter => refused? (Filter.ofGiven entity (bag.get "filter"))
  | .order  => refused? (SortKey.ofGiven entity (bag.get "orderBy"))
  | .limit  => refused? (PageNumber.ofGiven .limit options.strictBounds (bag.get "limit"))
  | .offset => refused? (PageNumber.ofGiven .offset options.strictBounds (bag.get "offset"))

-- A parameter that is not given is never refused.
def Accepts (entity : Entity) (options : ReadingOptions) (bag : Bag) (k : Parameter) : Prop :=
  bag.contains k.name → refusal? entity options bag k = none

-- Each part of a query is what its parameter comes to alone.
structure Parts (entity : Entity) (options : ReadingOptions) (bag : Bag) (q : Query) : Prop where
  filter : Comes bag .filter (Filter.ofGiven entity) id ∅ q.filter
  order  : Comes bag .order (SortKey.ofGiven entity) (some ∘ SortKey.text) none q.order
  limit  : Comes bag .limit (PageNumber.ofGiven .limit options.strictBounds) some none q.limit
  offset : Comes bag .offset (PageNumber.ofGiven .offset options.strictBounds) some none q.offset

theorem parts_of_ofBag (h : ofBag entity options bag = .ok q) : q.Parts entity options bag := by
  obtain ⟨filter, key, limit, offset, hf, hk, hl, ho, rfl⟩ := ofBag_eq_ok_iff.mp h
  constructor
  case filter => exact comes_of_readIfGiven (Option.getD · ∅) hf
  case order  => exact comes_of_readIfGiven (Option.map SortKey.text) hk
  case limit  => exact comes_of_readIfGiven id hl
  case offset => exact comes_of_readIfGiven id ho

theorem accepts_of_ofBag (h : ofBag entity options bag = .ok q) (k : Parameter) :
    Accepts entity options bag k := by
  obtain ⟨filter, key, limit, offset, hf, hk, hl, ho, rfl⟩ := ofBag_eq_ok_iff.mp h
  cases k
  case filter => exact accepted_of_readIfGiven hf
  case order  => exact accepted_of_readIfGiven hk
  case limit  => exact accepted_of_readIfGiven hl
  case offset => exact accepted_of_readIfGiven ho

-- Parameters behind the first one that is refused are not read, whether they are given or not.
theorem refused_of_ofBag (h : ofBag entity options bag = .error r) :
    ∃ before k after, Parameter.all = before ++ k :: after ∧
      (∀ k' ∈ before, Accepts entity options bag k') ∧ bag.contains k.name ∧
      refusal? entity options bag k = some r := by
  rw [ofBag] at h
  rcases refused_or_accepted_of_bind h with ⟨hc, hr⟩ | ⟨hf, _, h⟩
  · exact ⟨[], .filter, _, rfl, by simp, hc, hr⟩
  have hf : Accepts entity options bag .filter := hf
  rcases refused_or_accepted_of_bind h with ⟨hc, hr⟩ | ⟨hk, _, h⟩
  · exact ⟨[.filter], .order, _, rfl, by simp [hf], hc, hr⟩
  have hk : Accepts entity options bag .order := hk
  rcases refused_or_accepted_of_bind h with ⟨hc, hr⟩ | ⟨hl, _, h⟩
  · exact ⟨[.filter, .order], .limit, _, rfl, by simp [hf, hk], hc, hr⟩
  have hl : Accepts entity options bag .limit := hl
  rcases refused_or_accepted_of_bind h with ⟨hc, hr⟩ | ⟨_, _, h⟩
  · exact ⟨[.filter, .order, .limit], .offset, _, rfl, by simp [hf, hk, hl], hc, hr⟩
  · cases h

-- No parameter in front of it is refused.
def Reached (entity : Entity) (options : ReadingOptions) (bag : Bag) (k : Parameter) : Prop :=
  ∃ before after, Parameter.all = before ++ k :: after ∧ ∀ k' ∈ before, Accepts entity options bag k'

-- There is only one refusal that is reached.
theorem Reached.findSome?_refusal? (h : Reached entity options bag k) (hc : bag.contains k.name)
    (hr : refusal? entity options bag k = some r) :
    (Parameter.all.findSome? fun k =>
      if bag.contains k.name then refusal? entity options bag k else none) = some r := by
  obtain ⟨before, after, ha, hb⟩ := h
  refine List.findSome?_eq_some_iff.mpr ⟨before, k, after, ha, ?_, fun k' hk => ?_⟩
  · rw [if_pos hc, hr]
  · split
    case isTrue hc  => exact hb k' hk hc
    case isFalse hc => rfl

theorem ofBag_eq_error_iff :
    ofBag entity options bag = .error r ↔
      ∃ k, Reached entity options bag k ∧ bag.contains k.name ∧
        refusal? entity options bag k = some r where
  mp h := by
    obtain ⟨before, k, after, ha, hb, hc, hr⟩ := refused_of_ofBag h
    exact ⟨k, ⟨before, after, ha, hb⟩, hc, hr⟩
  mpr h := by
    obtain ⟨k, hk, hc, hr⟩ := h
    cases hq : ofBag entity options bag
    case ok q =>
      have hn : refusal? entity options bag k = none := accepts_of_ofBag hq k hc
      cases hn.symm.trans hr
    case error r' =>
      obtain ⟨before, k', after, ha, hb, hc', hr'⟩ := refused_of_ofBag hq
      have hk' : Reached entity options bag k' := ⟨before, after, ha, hb⟩
      cases (hk.findSome?_refusal? hc hr).symm.trans (hk'.findSome?_refusal? hc' hr')
      rfl

theorem fits_of_refusal? (h : refusal? entity options bag k = some r) :
    r.Fits k (bag.get k.name) := by
  cases k <;> replace h := refused?_eq_some_iff.mp h
  case filter => exact Rejection.fits_of_sole Filter.rejection_ofValue h
  case order  => exact Rejection.fits_of_sole SortKey.rejection_ofValue h
  case limit  => exact Rejection.fits_of_sole (PageNumber.rejection_ofValue .limit) h
  case offset => exact Rejection.fits_of_sole (PageNumber.rejection_ofValue .offset) h

-- Every bag is filled from pairs, so that a parameter that is in it has at least one value.
theorem ofBag_ofPairs_eq_parts (entity : Entity) (options : ReadingOptions)
    (pairs : List (String × String)) :
    let bag := Bag.ofPairs pairs
    match ofBag entity options bag with
    | .ok q    => (∀ k, Accepts entity options bag k) ∧ q.Parts entity options bag
    | .error r =>
      ∃ before k after, Parameter.all = before ++ k :: after ∧
        (∀ k' ∈ before, Accepts entity options bag k') ∧ bag.contains k.name ∧
        refusal? entity options bag k = some r ∧ r.Reports k (Bag.delivered k.name pairs) := by
  intro bag
  split
  case h_1 q h => exact ⟨accepts_of_ofBag h, parts_of_ofBag h⟩
  case h_2 r h =>
    have ⟨before, k, after, ha, hb, hc, hr⟩ := refused_of_ofBag h
    refine ⟨before, k, after, ha, hb, hc, hr, ?_⟩
    have hf : r.Fits k (.ofList (Bag.delivered k.name pairs)) :=
      Bag.get_ofPairs pairs k.name ▸ fits_of_refusal? hr
    exact hf.reports (Bag.delivered_ne_nil_iff.mpr hc)

end Query

end RequestQuery
