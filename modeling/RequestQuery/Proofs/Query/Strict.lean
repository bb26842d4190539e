import RequestQuery.Proofs.PageNumber.Strict
import RequestQuery.Proofs.Query.Outcome

namespace RequestQuery

-- Answers that are the same but for what is refused because it is out of range.
inductive Narrows {α : Type} : Except Rejection α → Except Rejection α → Prop
  | same (x : Except Rejection α) : Narrows x x
  | outOfRange {r : Rejection} (h : r.kind = .outOfRange) (x : Except Rejection α) :
      Narrows (.error r) x

namespace Narrows

variable {α β : Type} {x y : Except Rejection α} {f g : α → Except Rejection β} {a : α}
  {r : Rejection}

theorem iff_sameUnless : Narrows x y ↔ SameUnless (·.kind = .outOfRange) x y where
  mp h := by
    cases h
    case same         => exact .same _
    case outOfRange h =>
      refine .excused ?_ _
      exact h
  mpr h := by
    cases h
    case same      => exact .same _
    case excused h => exact .outOfRange h _

theorem bind (h : Narrows x y) (hf : ∀ a, Narrows (f a) (g a)) : Narrows (x >>= f) (y >>= g) :=
  iff_sameUnless.mpr ((iff_sameUnless.mp h).bind fun a => iff_sameUnless.mp (hf a))

theorem eq_ok (h : Narrows x y) (hx : x = .ok a) : y = .ok a :=
  (iff_sameUnless.mp h).eq_ok hx

theorem eq_error (h : Narrows x y) (hx : x = .error r) (hr : r.kind ≠ .outOfRange) :
    y = .error r := by
  cases h
  case same         => exact hx
  case outOfRange h => cases hx; exact absurd h hr

end Narrows

theorem PageNumber.Bounding.narrows {k : Parameter} {given : Given}
    {strict lenient : Except Rejection PageNumber} (h : Bounding k given strict lenient) :
    Narrows strict lenient := by
  cases h
  case refused => exact .same _
  case kept    => exact .same _
  case dropped => exact .outOfRange rfl _

theorem Parameter.name_inj {k k' : Parameter} (h : k.name = k'.name) : k = k' := by
  cases k <;> cases k' <;> first | rfl | exact absurd h (by decide)

-- Only the bounds of a page can be out of range.
theorem Parameter.bound_of_outOfRange {k : Parameter} (h : .outOfRange ∈ k.kinds) :
    ∃ bound : PageBound, k = bound.parameter := by
  cases k
  case filter => exact absurd h (by decide)
  case order  => exact absurd h (by decide)
  case limit  => exact ⟨.limit, rfl⟩
  case offset => exact ⟨.offset, rfl⟩

namespace Query

variable {entity : Entity} {options : ReadingOptions} {bag : Bag} {k : Parameter} {r : Rejection}
  {q : Query}

theorem narrows_readIfGiven {α : Type} {read read' : Given → Except Rejection α}
    (h : ∀ given, Narrows (read given) (read' given)) (bag : Bag) (k : Parameter) :
    Narrows (readIfGiven bag k read) (readIfGiven bag k read') :=
  Narrows.iff_sameUnless.mpr <|
    sameUnless_readIfGiven (fun given => Narrows.iff_sameUnless.mp (h given)) bag k

-- Where strict bounds stop at one bound, the other one may still be refused without them.
theorem narrows_ofBag (entity : Entity) (bag : Bag) :
    Narrows (ofBag entity { strictBounds := true } bag)
      (ofBag entity { strictBounds := false } bag) := by
  have hb (k : Parameter) :=
    narrows_readIfGiven (fun given => (PageNumber.bounding k given).narrows) bag k
  exact (Narrows.same _).bind fun _ => (Narrows.same _).bind fun _ =>
    (hb .limit).bind fun _ => (hb .offset).bind fun _ => .same _

theorem verbatim_of_ofBag (h : ofBag entity { strictBounds := true } bag = .ok q) :
    (∀ n ∈ q.limit, n.Verbatim (bag.get "limit")) ∧ ∀ n ∈ q.offset, n.Verbatim (bag.get "offset") := by
  obtain ⟨_, _, limit, offset, _, _, hl, ho, rfl⟩ := ofBag_eq_ok_iff.mp h
  refine ⟨?limit, ?offset⟩
  case limit =>
    rintro n rfl
    exact PageNumber.verbatim_of_ofGiven (readIfGiven_eq_ok_some_iff.mp hl).2
  case offset =>
    rintro n rfl
    exact PageNumber.verbatim_of_ofGiven (readIfGiven_eq_ok_some_iff.mp ho).2

theorem refusal?_bound (entity : Entity) (options : ReadingOptions) (bag : Bag) (bound : PageBound) :
    refusal? entity options bag bound.parameter =
      refused? (PageNumber.ofGiven bound.parameter options.strictBounds (bag.get bound.parameter.name)) := by
  cases bound <;> rfl

theorem bound_of_refusal? (h : refusal? entity options bag k = some r) (hr : r.kind = .outOfRange) :
    ∃ bound : PageBound, k = bound.parameter := by
  refine Parameter.bound_of_outOfRange ?_
  have hk := (fits_of_refusal? h).kind
  rw [hr] at hk
  simpa using hk

-- A bound is out of range if it is reached and only strict bounds refuse it.
theorem outOfRange_iff (bound : PageBound) :
    let k := bound.parameter
    (∃ r, ofBag entity { strictBounds := true } bag = .error r ∧ r.kind = .outOfRange ∧
        r.parameter = some k.name) ↔
      Reached entity { strictBounds := true } bag k ∧
        ∃ text, bag.get k.name = .once text ∧
          (∃ n, PageNumber.ofGiven k false (bag.get k.name) = .ok n) ∧ ¬PageNumber.Natural text := by
  intro k
  refine ⟨?mp, ?mpr⟩
  case mp =>
    rintro ⟨r, h, hr, hk⟩
    obtain ⟨k', hb, hc, hr'⟩ := ofBag_eq_error_iff.mp h
    obtain rfl : k' = k :=
      Parameter.name_inj (Option.some_inj.mp ((fits_of_refusal? hr').parameter.symm.trans hk))
    rw [refusal?_bound, refused?_eq_some_iff] at hr'
    exact ⟨hb, PageNumber.outOfRange_iff.mp ⟨r, hr', hr⟩⟩
  case mpr =>
    rintro ⟨hb, text, ht, hn⟩
    obtain ⟨r, h, hr⟩ := PageNumber.outOfRange_iff.mpr ⟨text, ht, hn⟩
    have hr' : refusal? entity { strictBounds := true } bag k = some r := by
      rw [refusal?_bound, refused?_eq_some_iff]
      exact h
    have hc : bag.contains k.name := Bag.contains_of_get_once ht
    exact ⟨r, ofBag_eq_error_iff.mpr ⟨k, hb, hc, hr'⟩, hr, (fits_of_refusal? hr').parameter⟩

-- Strict bounds only take answers away, and what is left for a bound is the number that the client wrote.
theorem ofBag_strictBounds (entity : Entity) (bag : Bag) :
    let strict := ofBag entity { strictBounds := true } bag
    let lenient := ofBag entity { strictBounds := false } bag
    (∀ q, strict = .ok q → lenient = .ok q ∧ (∀ n ∈ q.limit, n.Verbatim (bag.get "limit")) ∧
        ∀ n ∈ q.offset, n.Verbatim (bag.get "offset")) ∧
      (∀ r, strict = .error r → r.kind ≠ .outOfRange → lenient = .error r) ∧
      (∀ r, strict = .error r → r.kind = .outOfRange →
        ∃ bound : PageBound, r.parameter = some bound.parameter.name) ∧
      ∀ bound : PageBound,
        let k := bound.parameter
        (∃ r, strict = .error r ∧ r.kind = .outOfRange ∧ r.parameter = some k.name) ↔
          Reached entity { strictBounds := true } bag k ∧
            ∃ text, bag.get k.name = .once text ∧
              (∃ n, PageNumber.ofGiven k false (bag.get k.name) = .ok n) ∧
              ¬PageNumber.Natural text := by
  intro strict lenient
  have hn : Narrows strict lenient := narrows_ofBag entity bag
  refine ⟨fun q h => ⟨hn.eq_ok h, verbatim_of_ofBag h⟩, fun r => hn.eq_error, fun r h hr => ?_,
    outOfRange_iff⟩
  obtain ⟨k, _, _, hr'⟩ := ofBag_eq_error_iff.mp h
  obtain ⟨bound, rfl⟩ := bound_of_refusal? hr' hr
  exact ⟨bound, (fits_of_refusal? hr').parameter⟩

end Query

end RequestQuery
