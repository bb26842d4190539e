import Mathlib.Data.List.Induction
import RequestQuery.Proofs.Query.Outcome

namespace RequestQuery.Query

inductive Step
  | filter (entity : Entity) (given : Given)
  | order (entity : Entity) (given : Given)
  | bound (bound : PageBound) (strict : Bool) (given : Given)
  -- without a text that they are read from
  | conditions (filter : Filter)
  | fresh

namespace Step

def isFresh : Step → Bool
  | fresh => true
  | _     => false

-- The step that reads a parameter of a request.
def ofParameter (entity : Entity) (options : ReadingOptions) (bag : Bag) (k : Parameter) : Step :=
  let given := bag.get k.name
  match k with
  | .filter => filter entity given
  | .order  => order entity given
  | .limit  => bound .limit options.strictBounds given
  | .offset => bound .offset options.strictBounds given

-- The part of a query that a step is about. A fresh start is about all of them.
def parameter? : Step → Option Parameter
  | filter ..    => some .filter
  | order ..     => some .order
  | bound b ..   => some b.parameter
  | conditions _ => some .filter
  | fresh        => none

-- The conditions that a step adds, unless it is refused.
def conditions? : Step → Option Filter
  | filter entity given => (Filter.ofGiven entity given).toOption
  | conditions f        => some f
  | _                   => none

def order? : Step → Option String
  | order entity given => (SortKey.ofGiven entity given).toOption.map SortKey.text
  | _                  => none

def bound? (b : PageBound) : Step → Option PageNumber
  | bound b' strict given =>
    if b' = b then (PageNumber.ofGiven b'.parameter strict given).toOption else none
  | _ => none

end Step

-- The query that a step asks for.
def attempt (q : Query) : Step → Except Rejection Query
  | .filter entity given  => q.withFilter <$> Filter.ofGiven entity given
  | .order entity given   => q.withOrder <$> SortKey.ofGiven entity given
  | .bound b strict given => q.withBound b <$> PageNumber.ofGiven b.parameter strict given
  | .conditions filter    => .ok (q.withFilter filter)
  | .fresh                => .ok {}

def after (q : Query) (step : Step) : Query :=
  (q.attempt step).toOption.getD q

def run (q : Query) (steps : List Step) : Query :=
  steps.foldl after q

-- The steps since the last fresh start, the newest first.
def recent (steps : List Step) : List Step :=
  steps.reverse.takeWhile (!·.isFresh)

-- A query that holds what the steps wrote, where a newer one stands in front of an older one.
structure Reflects (q : Query) (steps : List Step) : Prop where
  filter (field : String) :
    q.filter.get? field = steps.findSome? fun step => step.conditions?.bind (·.get? field)
  order  : q.order = steps.findSome? Step.order?
  limit  : q.limit = steps.findSome? (Step.bound? .limit)
  offset : q.offset = steps.findSome? (Step.bound? .offset)

def Part : Parameter → Type
  | .filter          => Filter
  | .order           => Option String
  | .limit | .offset => Option PageNumber

def part (q : Query) : (k : Parameter) → Part k
  | .filter => q.filter
  | .order  => q.order
  | .limit  => q.limit
  | .offset => q.offset

-- A step for each parameter that is given, in the order in which they are read.
def requested (entity : Entity) (options : ReadingOptions) (bag : Bag) : List Step :=
  (Parameter.all.filter (bag.contains ·.name)).map (.ofParameter entity options bag)

variable {q q' : Query} {s s' : Step} {steps : List Step} {k k' : Parameter} {r : Rejection}

theorem after_of_attempt_error (h : q.attempt s = .error r) : q.after s = q := by
  rw [after, h]
  rfl

theorem after_of_attempt_ok (h : q.attempt s = .ok q') : q.after s = q' := by
  rw [after, h]
  rfl

-- All that a step does, whether it is refused or not.
theorem after_eq (q : Query) (h : s.isFresh = false) :
    q.after s = {
      filter := s.conditions?.elim q.filter q.filter.override
      order  := s.order?.or q.order
      limit  := (s.bound? .limit).or q.limit
      offset := (s.bound? .offset).or q.offset
    } := by
  cases s
  case filter entity given =>
    rw [after, attempt, Step.conditions?]
    cases Filter.ofGiven entity given <;> rfl
  case order entity given =>
    rw [after, attempt, Step.order?]
    cases SortKey.ofGiven entity given <;> rfl
  case bound b strict given =>
    rw [after, attempt, Step.bound?, Step.bound?]
    cases b <;> cases PageNumber.ofGiven _ strict given <;> rfl
  case conditions => rfl
  case fresh      => cases h

theorem reflects_empty : Reflects {} [] where
  filter _ := rfl
  order    := rfl
  limit    := rfl
  offset   := rfl

theorem Reflects.after (h : q.Reflects steps) (hs : s.isFresh = false) :
    (q.after s).Reflects (s :: steps) := by
  rw [after_eq q hs]
  constructor
  case filter =>
    intro field
    rw [findSome?_cons_eq_or, ← h.filter]
    cases s.conditions?
    case none   => rfl
    case some f => exact SortedMap.get?_override q.filter f field
  case order  => rw [findSome?_cons_eq_or, ← h.order]
  case limit  => rw [findSome?_cons_eq_or, ← h.limit]
  case offset => rw [findSome?_cons_eq_or, ← h.offset]

theorem run_append (q : Query) (steps steps' : List Step) :
    q.run (steps ++ steps') = (q.run steps).run steps' :=
  List.foldl_append

theorem recent_append (steps : List Step) (s : Step) :
    recent (steps ++ [s]) = if s.isFresh then [] else s :: recent steps := by
  rw [recent, List.reverse_append, List.reverse_singleton, List.singleton_append, List.takeWhile_cons]
  cases s.isFresh <;> rfl

-- By induction on the steps, where the newest one comes last.
theorem reflects_run (steps : List Step) : (run {} steps).Reflects (recent steps) := by
  induction steps using List.reverseRecOn with
  | nil => exact reflects_empty
  | append_singleton steps s ih =>
    rw [run_append, recent_append]
    split
    case isTrue h =>
      cases s <;> cases h
      exact reflects_empty
    case isFalse h => exact ih.after (Bool.eq_false_iff.mpr h)

-- Conditions can have been read or put in without there being any.
theorem Reflects.isEmpty_iff (h : q.Reflects steps) :
    q.isEmpty ↔
      ∀ s ∈ steps, (∀ filter, s.conditions? = some filter → filter = ∅) ∧ s.order? = none ∧
        ∀ b, s.bound? b = none := by
  have hq : q.isEmpty ↔
      (∀ field, q.filter.get? field = none) ∧ q.order = none ∧ q.limit = none ∧ q.offset = none := by
    rw [← SortedMap.isEmpty_iff_get?, isEmpty]
    simp only [Bool.and_eq_true, Option.isNone_iff_eq_none, and_assoc]
  rw [hq, h.order, h.limit, h.offset]
  simp only [h.filter, List.findSome?_eq_none_iff]
  refine ⟨?mp, ?mpr⟩
  case mp =>
    rintro ⟨hf, ho, hl, hs⟩ s hm
    refine ⟨fun filter hc => SortedMap.ext_get? fun field => ?_, ho s hm, fun b => ?_⟩
    · simpa [hc] using hf field s hm
    · cases b
      case limit  => exact hl s hm
      case offset => exact hs s hm
  case mpr =>
    intro h
    refine ⟨fun field s hm => ?_, fun s hm => (h s hm).2.1, fun s hm => (h s hm).2.2 _,
      fun s hm => (h s hm).2.2 _⟩
    rw [Option.bind_eq_none_iff]
    intro filter hc
    rw [(h s hm).1 filter hc, SortedMap.get?_empty]

theorem ext_part (h : ∀ k, q.part k = q'.part k) : q = q' := by
  cases q
  cases q'
  cases h .filter
  cases h .order
  cases h .limit
  cases h .offset
  rfl

-- The other parts stay as they were.
theorem part_after_of_ne (q : Query) (h : s.parameter? = some k) (hk : k' ≠ k) :
    (q.after s).part k' = q.part k' := by
  cases s
  case fresh => cases h
  case bound b strict given =>
    rw [after_eq q rfl]
    cases b <;> cases h <;> cases k' <;> first | rfl | exact absurd rfl hk
  all_goals
    rw [after_eq q rfl]
    cases h
    cases k' <;> first | rfl | exact absurd rfl hk

-- What a step makes of a part depends on no other part.
theorem part_after_congr (h : q.part k = q'.part k) (s : Step) :
    (q.after s).part k = (q'.after s).part k := by
  cases hs : s.isFresh
  case true =>
    cases s <;> cases hs
    rfl
  case false =>
    rw [after_eq q hs, after_eq q' hs]
    cases k <;> simp only [part] at h ⊢ <;> rw [h]

theorem part_after_after (q : Query) (s : Step) (h : s'.parameter? = some k) (hk : k' ≠ k) :
    ((q.after s).after s').part k' = ((q.after s').after s).part k' := by
  calc ((q.after s).after s').part k'
    _ = (q.after s).part k'            := part_after_of_ne _ h hk
    _ = ((q.after s').after s).part k' := part_after_congr (part_after_of_ne _ h hk).symm s

-- One of the two leaves a part alone, whichever part it is.
theorem after_comm (q : Query) (h : s.parameter? = some k) (h' : s'.parameter? = some k')
    (hk : k ≠ k') : (q.after s).after s' = (q.after s').after s := by
  refine ext_part fun i => ?_
  by_cases hi : i = k'
  case pos => exact (part_after_after q s' h (hi ▸ hk.symm)).symm
  case neg => exact part_after_after q s h' hi

theorem run_cons (q : Query) (s : Step) (steps : List Step) : q.run (s :: steps) = (q.after s).run steps :=
  rfl

theorem run_swap (q : Query) (h : s.parameter? = some k) (h' : s'.parameter? = some k') (hk : k ≠ k')
    (before rest : List Step) : q.run (before ++ s :: s' :: rest) = q.run (before ++ s' :: s :: rest) := by
  simp only [run_append, run_cons]
  rw [after_comm _ h h' hk]

theorem run_of_foldlM (h : steps.foldlM attempt q = .ok q') : q.run steps = q' := by
  induction steps generalizing q with
  | nil => exact Except.ok.inj h
  | cons s steps ih =>
    rw [List.foldlM_cons] at h
    have ⟨q₁, h₁, h⟩ := bind_eq_ok_iff.mp h
    rw [run_cons, after_of_attempt_ok h₁, ih h]

theorem withFilter_empty (filter : Filter) : withFilter {} filter = { filter } :=
  congrArg (fun filter => ({ filter } : Query)) filter.ofList_entries

-- A parameter that is not given leaves a query as it is.
theorem ite_eq_map_readIfGiven {α : Type} (bag : Bag) (k : Parameter) (read : Given → Except Rejection α)
    (make : α → Query) (q : Query) :
    (if bag.contains k.name then make <$> read (bag.get k.name) else pure q) =
      (·.elim q make) <$> readIfGiven bag k read := by
  rw [readIfGiven]
  split
  case isTrue  => cases read (bag.get k.name) <;> rfl
  case isFalse => rfl

-- A request is read step by step, up to the first step that is refused.
theorem ofBag_eq_foldlM (entity : Entity) (options : ReadingOptions) (bag : Bag) :
    ofBag entity options bag = (requested entity options bag).foldlM attempt {} := by
  rw [requested, List.foldlM_map, List.foldlM_filter, Parameter.all, ofBag]
  simp only [List.foldlM_cons, List.foldlM_nil, Step.ofParameter, attempt, ite_eq_map_readIfGiven,
    bind_map_left]
  refine bind_congr fun filter => bind_congr fun key => bind_congr fun limit => bind_congr fun offset =>
    congrArg pure ?_
  cases filter
  case none        => cases key <;> cases limit <;> cases offset <;> rfl
  case some filter =>
    rw [Option.elim_some, withFilter_empty]
    cases key <;> cases limit <;> cases offset <;> rfl

theorem run_lastWrites (steps : List Step) :
    let q := run {} steps
    q.Reflects (recent steps) ∧
      (q.isEmpty ↔
        ∀ s ∈ recent steps, (∀ filter, s.conditions? = some filter → filter = ∅) ∧ s.order? = none ∧
          ∀ b, s.bound? b = none) ∧
      (∀ s r, q.attempt s = .error r → q.after s = q) ∧
      (∀ s k k', s.parameter? = some k → k' ≠ k → (q.after s).part k' = q.part k') ∧
      (∀ s s' k k' rest, s.parameter? = some k → s'.parameter? = some k' → k ≠ k' →
        run {} (steps ++ s :: s' :: rest) = run {} (steps ++ s' :: s :: rest)) ∧
      ∀ entity options bag q',
        ofBag entity options bag = .ok q' → run {} (requested entity options bag) = q' := by
  intro q
  refine ⟨reflects_run steps, (reflects_run steps).isEmpty_iff, ?refused, ?frame, ?swap, ?request⟩
  case refused => exact fun _ _ => after_of_attempt_error
  case frame   => exact fun _ _ _ => part_after_of_ne q
  case swap    => exact fun _ _ _ _ rest h h' hk => run_swap {} h h' hk steps rest
  case request =>
    intro entity options bag q' h
    exact run_of_foldlM (ofBag_eq_foldlM entity options bag ▸ h)

end RequestQuery.Query
