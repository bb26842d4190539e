namespace RequestQuery

section Except

variable {ε α β : Type} {x : Except ε α}

theorem bind_eq_ok_iff {f : α → Except ε β} {b : β} :
    x >>= f = .ok b ↔ ∃ a, x = .ok a ∧ f a = .ok b := by
  cases x <;> simp [bind, Except.bind]

theorem map_eq_ok_iff {f : α → β} {b : β} : f <$> x = .ok b ↔ ∃ a, x = .ok a ∧ f a = b := by
  cases x <;> simp [Functor.map, Except.map]

theorem bind_eq_error_iff {f : α → Except ε β} {e : ε} :
    x >>= f = .error e ↔ x = .error e ∨ ∃ a, x = .ok a ∧ f a = .error e := by
  cases x <;> simp [bind, Except.bind]

theorem map_eq_error_iff {f : α → β} {e : ε} : f <$> x = .error e ↔ x = .error e := by
  cases x <;> simp [Functor.map, Except.map]

theorem mapError_eq_ok_iff {ε' : Type} {f : ε → ε'} {a : α} :
    x.mapError f = .ok a ↔ x = .ok a := by
  cases x
  case error => exact ⟨nofun, nofun⟩
  case ok    =>
    exact ⟨fun h => congrArg Except.ok (Except.ok.inj h), fun h => congrArg Except.ok (Except.ok.inj h)⟩

theorem mapError_eq_error_iff {ε' : Type} {f : ε → ε'} {e' : ε'} :
    x.mapError f = .error e' ↔ ∃ e, x = .error e ∧ f e = e' where
  mp h := by
    cases x
    case error e => exact ⟨e, rfl, Except.error.inj h⟩
    case ok      => cases h
  mpr h := by
    obtain ⟨e, rfl, rfl⟩ := h
    rfl

end Except

variable {ε α β : Type} {f : α → Except ε β} {xs : List α} {ys : List β} {e : ε}

-- Why there is no result.
def refused? : Except ε α → Option ε
  | .ok _    => none
  | .error e => some e

theorem refused?_eq_some_iff {x : Except ε α} : refused? x = some e ↔ x = .error e := by
  cases x <;> simp [refused?]

theorem refused?_eq_none_iff {x : Except ε α} : refused? x = none ↔ ∃ a, x = .ok a := by
  cases x <;> simp [refused?]

-- What comes next is refused or not, whatever it follows.
theorem refused?_bind {x : Except ε α} {f : α → Except ε β} {e? : Option ε}
    (h : ∀ a, refused? (f a) = e?) : refused? (x >>= f) = (refused? x).or e? := by
  cases x
  case error e => rfl
  case ok a    => exact h a

theorem findSome?_cons_eq_or (f : α → Option β) (a : α) (as : List α) :
    (a :: as).findSome? f = (f a).or (as.findSome? f) := by
  rw [List.findSome?_cons]
  cases f a <;> rfl

theorem mapM_cons_ok {x : α} {y : β} (h : f x = .ok y) :
    (x :: xs).mapM f = (y :: ·) <$> xs.mapM f := by
  rw [List.mapM_cons, h]
  cases xs.mapM f <;> rfl

theorem mapM_cons_error {x : α} (h : f x = .error e) : (x :: xs).mapM f = .error e := by
  rw [List.mapM_cons, h]
  rfl

theorem mapM_eq_ok_iff : xs.mapM f = .ok ys ↔ xs.map f = ys.map .ok := by
  induction xs generalizing ys with
  | nil => cases ys <;> simp [pure, Except.pure]
  | cons x xs ih =>
    cases hx : f x
    case error e =>
      rw [mapM_cons_error hx]
      cases ys <;> simp [hx]
    case ok y =>
      rw [mapM_cons_ok hx]
      cases hs : xs.mapM f
      case error => cases ys <;> simp [Functor.map, Except.map, hx, ← ih, hs]
      case ok    => cases ys <;> simp [Functor.map, Except.map, hx, ← ih, hs]

-- Items behind the first one that is refused are not looked at.
theorem mapM_eq_error_iff : xs.mapM f = .error e ↔ xs.findSome? (refused? ∘ f) = some e := by
  induction xs with
  | nil => simp [pure, Except.pure]
  | cons x xs ih =>
    cases hx : f x
    case error => simp [mapM_cons_error hx, refused?, hx]
    case ok y =>
      rw [mapM_cons_ok hx, List.findSome?_cons, Function.comp, hx, refused?, ← ih]
      cases xs.mapM f <;> simp [Functor.map, Except.map]

-- What is looked for among the results may be looked for among the items.
theorem findSome?_eq_of_map_eq {γ : Type} {g : β → Option γ} (h : xs.map f = ys.map .ok) :
    ys.findSome? g = xs.findSome? fun x => (f x).toOption.bind g := by
  calc ys.findSome? g
    _ = (ys.map Except.ok).findSome? fun r : Except ε β => r.toOption.bind g := by
      rw [List.findSome?_map]
      rfl
    _ = xs.findSome? fun x => (f x).toOption.bind g := by
      rw [← h, List.findSome?_map]
      rfl

section StateM

variable {σ : Type} {act : α → ExceptT ε (StateM σ) PUnit} {x : α} {s s' : σ}

theorem run_forM_cons (x : α) (xs : List α) (act : α → ExceptT ε (StateM σ) PUnit) (s : σ) :
    (forM (x :: xs) act).run.run s =
      match (act x).run.run s with
      | (.ok (), s)   => (forM xs act).run.run s
      | (.error e, s) => (.error e, s) := by
  rw [List.forM_cons]
  simp only [ExceptT.run_bind, StateT.run_bind]
  rcases (act x).run.run s with ⟨_ | _, _⟩ <;> rfl

theorem run_forM_cons_eq_ok_iff :
    (forM (x :: xs) act).run.run s = (.ok (), s') ↔
      ∃ s₁, (act x).run.run s = (.ok (), s₁) ∧ (forM xs act).run.run s₁ = (.ok (), s') := by
  rw [run_forM_cons]
  rcases (act x).run.run s with ⟨_ | ⟨⟨⟩⟩, s₁⟩
  case error => exact ⟨nofun, nofun⟩
  case ok    =>
    constructor
    · exact fun h => ⟨s₁, rfl, h⟩
    · rintro ⟨_, ⟨⟩, h⟩
      exact h

-- Nothing is done for the items behind the first one that fails.
theorem exists_of_run_forM_eq_error (h : (forM xs act).run.run s = (.error e, s')) :
    ∃ before x after s₁, xs = before ++ x :: after ∧ (forM before act).run.run s = (.ok (), s₁) ∧
      (act x).run.run s₁ = (.error e, s') := by
  induction xs generalizing s with
  | nil => cases h
  | cons x xs ih =>
    rw [run_forM_cons] at h
    split at h
    case h_1 s₁ hx =>
      obtain ⟨before, x', after, s₂, rfl, hb, hx'⟩ := ih h
      exact ⟨x :: before, x', after, s₂, rfl, run_forM_cons_eq_ok_iff.mpr ⟨s₁, hx, hb⟩, hx'⟩
    case h_2 hx =>
      cases h
      exact ⟨[], x, xs, s, rfl, rfl, hx⟩

end StateM

-- Readings that come to the same, unless the first one is refused for an excused reason.
inductive SameUnless (excused : ε → Prop) : Except ε α → Except ε α → Prop
  | same (x : Except ε α) : SameUnless excused x x
  | excused {e : ε} (h : excused e) (x : Except ε α) : SameUnless excused (.error e) x

namespace SameUnless

variable {excused : ε → Prop} {x y : Except ε α} {a : α}

theorem bind {f g : α → Except ε β} (h : SameUnless excused x y)
    (hf : ∀ a, SameUnless excused (f a) (g a)) : SameUnless excused (x >>= f) (y >>= g) := by
  cases h
  case excused e h => exact .excused h _
  case same =>
    cases x
    case error e => exact .same _
    case ok a    => exact hf a

theorem map (h : SameUnless excused x y) (f : α → β) : SameUnless excused (f <$> x) (f <$> y) := by
  cases h
  case excused e h => exact .excused h _
  case same        => exact .same _

-- Of two traversals the items are compared one by one.
theorem mapM {f g : α → Except ε β} (h : ∀ a, SameUnless excused (f a) (g a)) (as : List α) :
    SameUnless excused (as.mapM f) (as.mapM g) := by
  induction as with
  | nil => exact .same _
  | cons a as ih =>
    rw [List.mapM_cons, List.mapM_cons]
    exact (h a).bind fun _ => ih.bind fun _ => .same _

theorem eq_ok (h : SameUnless excused x y) (hx : x = .ok a) : y = .ok a := by
  cases h
  case same    => exact hx
  case excused => cases hx

theorem eq_or (h : SameUnless excused x y) : y = x ∨ ∃ e, excused e ∧ x = .error e := by
  cases h
  case same          => exact .inl rfl
  case excused e h   => exact .inr ⟨e, h, rfl⟩

end SameUnless

-- What was written item by item can be read item by item.
theorem mapM_map_eq_some {α β : Type} {read : β → Option α} {write : α → β}
    (h : ∀ a, read (write a) = some a) {as : List α} : (as.map write).mapM read = some as := by
  induction as with
  | nil => rfl
  | cons a as ih =>
    rw [List.map_cons, List.mapM_cons, h, ih]
    rfl

end RequestQuery
