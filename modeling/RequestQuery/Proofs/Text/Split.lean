namespace RequestQuery.Text

variable {α : Type} {p : α → Bool} {xs piece : List α}

theorem splitOn_eq_singleton {c : Char} {cs : List Char} (h : c ∉ cs) : cs.splitOn c = [cs] := by
  apply List.splitOnP_eq_singleton
  exact fun x hx => beq_false_of_ne fun he => h (he ▸ hx)

-- A piece holds elements of the list, and none at which the list is cut.
theorem mem_and_not_of_mem_splitOnP (h : piece ∈ xs.splitOnP p) :
    ∀ x ∈ piece, x ∈ xs ∧ p x = false := by
  induction xs generalizing piece with
  | nil => simp at h; simp [h]
  | cons y ys ih =>
    have ih' {piece} (h : piece ∈ ys.splitOnP p) : ∀ x ∈ piece, x ∈ y :: ys ∧ p x = false :=
      fun x hx => (ih h x hx).imp_left (List.mem_cons_of_mem _)
    rw [List.splitOnP_cons_eq_if_modifyHead] at h
    cases hy : p y
    case true =>
      simp only [hy, if_true, List.mem_cons] at h
      cases h
      case inl h => simp [h]
      case inr h => exact ih' h
    case false =>
      have ⟨hd, tl, hs⟩ := List.exists_cons_of_ne_nil (List.splitOnP_ne_nil p ys)
      simp only [hy, hs, List.modifyHead_cons, List.mem_cons, Bool.false_eq_true, if_false] at h
      cases h
      case inl h =>
        have hm := ih' (hs ▸ List.mem_cons_self : hd ∈ ys.splitOnP p)
        simpa [h, hy] using hm
      case inr h => exact ih' (hs ▸ List.mem_cons_of_mem _ h)

theorem splitOnP_eq_takeWhile_cons (xs : List α) :
    xs.splitOnP p = xs.takeWhile (!p ·) ::
      match xs.dropWhile (!p ·) with
      | []        => []
      | _ :: rest => rest.splitOnP p := by
  induction xs with
  | nil => simp
  | cons x xs ih =>
    rw [List.splitOnP_cons_eq_if_modifyHead]
    cases hx : p x
    case true => simp [hx]
    case false => simp [hx, ih]

theorem length_splitOnP (xs : List α) : (xs.splitOnP p).length = xs.countP p + 1 := by
  induction xs with
  | nil => simp
  | cons x xs ih =>
    rw [List.splitOnP_cons_eq_if_modifyHead]
    cases hx : p x
    case true => simp [hx, ih]
    case false => simp [hx, ih]

-- The last piece is empty only behind an element at which the list is cut.
theorem nil_notMem_getLast?_splitOnP (hx : xs ≠ []) (hp : ∀ x ∈ xs.getLast?, p x = false) :
    [] ∉ (xs.splitOnP p).getLast? := by
  induction xs with
  | nil => contradiction
  | cons x xs ih =>
    rw [List.splitOnP_cons_eq_if_modifyHead]
    cases xs
    case nil =>
      have hx : p x = false := hp x rfl
      simp [hx]
    case cons y ys =>
      have ih := ih (List.cons_ne_nil y ys) hp
      have ⟨hd, tl, hs⟩ := List.exists_cons_of_ne_nil (List.splitOnP_ne_nil p (y :: ys))
      rw [hs] at ih ⊢
      cases p x
      case true => simpa using ih
      case false =>
        cases tl
        case nil => simp
        case cons => simpa using ih

theorem filter_intercalate {x : α} (hx : p x = false) (pieces : List (List α)) :
    ([x].intercalate pieces).filter p = pieces.flatMap (List.filter p) := by
  induction pieces with
  | nil => rfl
  | cons piece pieces ih =>
    cases pieces with
    | nil => simp
    | cons =>
      rw [List.intercalate_cons_cons, List.filter_append, List.filter_append, ih]
      simp [hx]

-- The only element of a kind, and what stands on either side of it.
theorem exists_append_of_countP (h : xs.countP p = 1) :
    ∃ before x after, xs = before ++ x :: after ∧ p x ∧ (∀ y ∈ before, p y = false) ∧
      ∀ y ∈ after, p y = false := by
  rw [List.countP_eq_length_filter, List.length_eq_one_iff] at h
  obtain ⟨x, h⟩ := h
  obtain ⟨before, after, rfl, hb, hx, ha⟩ := List.filter_eq_cons_iff.mp h
  refine ⟨before, x, after, rfl, hx, fun y hy => ?_, fun y hy => ?_⟩
  · simpa using hb y hy
  · simpa using List.filter_eq_nil_iff.mp ha y hy

end RequestQuery.Text
