import RequestQuery.Text.Shape

namespace RequestQuery.Text

variable {step : Step} {shape : Shape} {rest : List Char → Option (List Char)}
variable {P : Char → Prop} {c : Char} {cs kept : List Char}

namespace Step

theorem keep_eq_id (h : step.kept = false) (c : Char) : step.keep c = id := by
  funext kept
  simp [keep, h]

theorem once?_cons (h : step.kept = false) (rest : List Char → Option (List Char)) (c : Char)
    (cs : List Char) : step.once? rest (c :: cs) = if step.kind c then rest cs else none := by
  rw [once?, keep_eq_id h, Option.map_id, id]

theorem once?_eq_some_iff (h : step.kept = false) :
    step.once? rest cs = some kept ↔
      ∃ c behind, cs = c :: behind ∧ step.kind c ∧ rest behind = some kept := by
  cases cs with
  | nil => simp [once?]
  | cons c cs =>
    rw [once?_cons h, Option.ite_none_right_eq_some]
    constructor
    case mp => exact fun ⟨hc, hr⟩ => ⟨c, cs, rfl, hc, hr⟩
    case mpr =>
      intro ⟨d, behind, he, hd, hr⟩
      obtain ⟨rfl, rfl⟩ := List.cons_eq_cons.mp he
      exact ⟨hd, hr⟩

theorem mem_keep (h : ∀ c, step.kept → step.kind c → P c) (hc : step.kind c)
    (hk : ∀ x ∈ kept, x ∈ cs ∧ P x) : ∀ x ∈ step.keep c kept, x ∈ c :: cs ∧ P x := by
  intro x hx
  rw [keep] at hx
  split at hx
  case isTrue hs =>
    cases List.mem_cons.mp hx
    case inl he => exact ⟨he ▸ List.mem_cons_self, he ▸ h c hs hc⟩
    case inr hx => exact (hk x hx).imp_left (List.mem_cons_of_mem _)
  case isFalse => exact (hk x hx).imp_left (List.mem_cons_of_mem _)

theorem mem_of_once? (hs : ∀ c, step.kept → step.kind c → P c)
    (hr : ∀ cs kept, rest cs = some kept → ∀ x ∈ kept, x ∈ cs ∧ P x)
    (h : step.once? rest cs = some kept) : ∀ x ∈ kept, x ∈ cs ∧ P x := by
  cases cs with
  | nil => simp [once?] at h
  | cons c cs =>
    rw [once?] at h
    split at h
    case isTrue hc =>
      have ⟨kept', hk, he⟩ := Option.map_eq_some_iff.mp h
      exact he ▸ mem_keep hs hc (hr _ _ hk)
    case isFalse => cases h

theorem mem_of_run? (hs : ∀ c, step.kept → step.kind c → P c)
    (hr : ∀ cs kept, rest cs = some kept → ∀ x ∈ kept, x ∈ cs ∧ P x)
    (h : step.run? rest cs = some kept) : ∀ x ∈ kept, x ∈ cs ∧ P x := by
  induction cs generalizing kept with
  | nil => exact hr _ _ h
  | cons c cs ih =>
    rw [run?] at h
    split at h
    case isTrue hc =>
      split at h
      case h_1 kept' hk => exact Option.some.inj h ▸ mem_keep hs hc (ih hk)
      case h_2 => exact hr _ _ h
    case isFalse => exact hr _ _ h

theorem run?_cons (step : Step) (rest : List Char → Option (List Char)) (c : Char) (cs : List Char) :
    step.run? rest (c :: cs) =
      ((if step.kind c then step.run? rest cs else none).map (step.keep c)).or (rest (c :: cs)) := by
  rw [run?]
  cases step.kind c
  case false => simp
  case true  => cases step.run? rest cs <;> simp

-- No run is followed by what the rest fits.
theorem run?_eq_none_iff :
    step.run? rest cs = none ↔
      ∀ run behind, cs = run ++ behind → (∀ c ∈ run, step.kind c) → rest behind = none := by
  induction cs with
  | nil =>
    constructor
    case mp =>
      intro h run behind he _
      obtain ⟨rfl, rfl⟩ := List.append_eq_nil_iff.mp he.symm
      exact h
    case mpr => exact fun h => h [] [] rfl (by simp)
  | cons c cs ih =>
    rw [run?_cons, Option.or_eq_none_iff, Option.map_eq_none_iff, ite_eq_right_iff]
    constructor
    case mp =>
      intro ⟨hs, hn⟩ run behind he hr
      cases run with
      | nil => exact (show c :: cs = behind from he) ▸ hn
      | cons d run =>
        have ⟨hd, hrun⟩ := List.forall_mem_cons.mp hr
        obtain ⟨rfl, rfl⟩ := List.cons_eq_cons.mp he
        exact ih.mp (hs hd) run behind rfl hrun
    case mpr =>
      intro h
      refine ⟨fun hc => ih.mpr fun run behind he hr => ?_, h [] _ rfl (by simp)⟩
      exact h (c :: run) behind (by rw [he]; rfl) (List.forall_mem_cons.mpr ⟨hc, hr⟩)

-- The rest does not fit any further on, as long as the run could go on.
def Ends (step : Step) (rest : List Char → Option (List Char)) (cs : List Char) : Prop :=
  ∀ more behind, more ≠ [] → cs = more ++ behind → (∀ c ∈ more, step.kind c) → rest behind = none

theorem ends_nil : step.Ends rest [] :=
  fun _ _ hne he _ => absurd (List.append_eq_nil_iff.mp he.symm).1 hne

theorem ends_cons_iff : step.Ends rest (c :: cs) ↔ (step.kind c → step.run? rest cs = none) where
  mp h hc := by
    refine run?_eq_none_iff.mpr fun run behind he hr => ?_
    exact h (c :: run) behind (by simp) (by rw [he]; rfl) (List.forall_mem_cons.mpr ⟨hc, hr⟩)
  mpr h more behind hne he hm := by
    cases more with
    | nil => contradiction
    | cons d more =>
      have ⟨hd, hmore⟩ := List.forall_mem_cons.mp hm
      obtain ⟨rfl, rfl⟩ := List.cons_eq_cons.mp he
      exact run?_eq_none_iff.mp (h hd) more behind rfl hmore

-- The run that is kept is the longest one behind which the rest fits.
theorem run?_eq_some_iff (hk : step.kept) :
    step.run? rest cs = some kept ↔
      ∃ run behind kept', cs = run ++ behind ∧ kept = run ++ kept' ∧ (∀ c ∈ run, step.kind c) ∧
        rest behind = some kept' ∧ step.Ends rest behind := by
  induction cs generalizing kept with
  | nil =>
    constructor
    case mp  => exact fun h => ⟨[], [], kept, rfl, rfl, by simp, h, ends_nil⟩
    case mpr =>
      intro ⟨run, behind, kept', he, hkept, _, hr, _⟩
      obtain ⟨rfl, rfl⟩ := List.append_eq_nil_iff.mp he.symm
      exact hkept ▸ hr
  | cons c cs ih =>
    have hkeep (kept : List Char) : step.keep c kept = c :: kept := by simp [keep, hk]
    rw [run?_cons, Option.or_eq_some_iff, Option.map_eq_some_iff, Option.map_eq_none_iff]
    simp only [Option.ite_none_right_eq_some, ite_eq_right_iff, ← ends_cons_iff]
    constructor
    case mp =>
      rintro (⟨kept, ⟨hc, hs⟩, rfl⟩ | ⟨hn, hs⟩)
      case inl =>
        obtain ⟨run, behind, kept', rfl, rfl, hr, hb, hm⟩ := ih.mp hs
        exact ⟨c :: run, behind, kept', rfl, hkeep _, List.forall_mem_cons.mpr ⟨hc, hr⟩, hb, hm⟩
      case inr => exact ⟨[], c :: cs, kept, rfl, rfl, by simp, hs, hn⟩
    case mpr =>
      intro ⟨run, behind, kept', he, hkept, hr, hb, hm⟩
      cases run with
      | nil =>
        obtain rfl : c :: cs = behind := he
        obtain rfl : kept = kept' := hkept
        exact .inr ⟨hm, hb⟩
      | cons d run =>
        have ⟨hd, hrun⟩ := List.forall_mem_cons.mp hr
        obtain ⟨rfl, rfl⟩ := List.cons_eq_cons.mp he
        have hs := ih.mpr ⟨run, behind, kept', rfl, rfl, hrun, hb, hm⟩
        exact .inl ⟨run ++ kept', ⟨hd, hs⟩, by rw [hkeep, hkept]; rfl⟩

theorem run?_eq_dropWhile (hk : step.kept = false) (h : ∀ c cs, step.kind c → rest (c :: cs) = none)
    (cs : List Char) : step.run? rest cs = rest (cs.dropWhile step.kind) := by
  induction cs with
  | nil => rfl
  | cons c cs ih =>
    rw [run?]
    split
    case isTrue hc =>
      rw [List.dropWhile_cons_of_pos hc, ← ih, h c cs hc]
      cases step.run? rest cs <;> simp [keep_eq_id hk]
    case isFalse hc => rw [List.dropWhile_cons_of_neg hc]

theorem run?_end (hk : step.kept = false) (cs : List Char) :
    step.run? (fun _ => some []) cs = some [] := by
  induction cs with
  | nil => rfl
  | cons c cs ih => simp [run?, ih, keep_eq_id hk]

end Step

namespace Shape

theorem mem_of_fit? (hs : ∀ step ∈ shape, ∀ c, step.kept → step.kind c → P c)
    (h : fit? shape cs = some kept) : ∀ x ∈ kept, x ∈ cs ∧ P x := by
  induction shape generalizing cs kept with
  | nil => simp [← Option.some.inj h]
  | cons step shape ih =>
    have hd := hs step List.mem_cons_self
    have ih (cs kept) (h : fit? shape cs = some kept) : ∀ x ∈ kept, x ∈ cs ∧ P x :=
      ih (fun s hm => hs s (List.mem_cons_of_mem _ hm)) h
    rw [fit?] at h
    split at h
    case isTrue  => exact step.mem_of_run? hd ih h
    case isFalse => exact step.mem_of_once? hd ih h

end Shape

end RequestQuery.Text
