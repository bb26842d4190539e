import Mathlib.Data.Option.Basic
import RequestQuery.Toml.Token

namespace RequestQuery.Toml.Token

variable {c : Char} {cs w rest : List Char}

theorem scan_of_step {mode mode' : Mode} {tokens : List Token}
    (h : step mode c = some (tokens, mode')) :
    scan mode (c :: rest) = (tokens ++ ·) <$> scan mode' rest := by
  rw [scan, h]
  exact bind_pure_comp (tokens ++ ·) (scan mode' rest)

theorem scan_of_silent_step {mode mode' : Mode} (h : step mode c = some ([], mode')) :
    scan mode (c :: rest) = scan mode' rest := by
  rw [scan_of_step h]
  cases scan mode' rest <;> rfl

-- A character that ends what comes before it is read as if nothing came before.
theorem scan_of_startAfter {mode : Mode} {tokens : List Token} (h : step mode c = startAfter tokens c) :
    scan mode (c :: rest) = (tokens ++ ·) <$> scan .between (c :: rest) := by
  rw [scan, scan, h, startAfter, step]
  cases start c <;> simp

theorem step_between_word (h : endsWord c = false) : step .between c = some ([], .word [c]) := by
  simp only [endsWord, Bool.or_eq_false_iff, beq_eq_false_iff_ne, Option.isSome_eq_false_iff,
    Option.isNone_iff_eq_none] at h
  obtain ⟨⟨⟨⟨⟨hm, hs⟩, hr⟩, hd⟩, hq⟩, hc⟩ := h
  simp [step, start, hm, hs, hr, hd, hq, hc]

theorem scan_word (hw : ∀ x ∈ w, endsWord x = false) (he : endsWord c = true)
    (hd : isReversedDate (w.reverse ++ cs) = false) :
    scan (.word cs) (w ++ c :: rest) = (word (cs.reverse ++ w) :: ·) <$> scan .between (c :: rest) := by
  induction w generalizing cs with
  | nil =>
    have hs : step (.word cs) c = startAfter [word cs.reverse] c := by
      rw [step, if_neg fun h => Bool.false_ne_true (hd.symm.trans h.2), if_pos he]
    rw [List.append_nil]
    exact scan_of_startAfter hs
  | cons x w ih =>
    have ⟨hx, hw⟩ := List.forall_mem_cons.mp hw
    have hs : ¬(x = ' ' ∧ isReversedDate cs) := by
      rintro ⟨rfl, _⟩
      cases hx
    rw [List.cons_append, scan_of_silent_step (by rw [step, if_neg hs, if_neg (by simp [hx])]), ih hw,
      List.reverse_cons, List.append_assoc, List.singleton_append]
    rw [List.reverse_cons, List.append_assoc] at hd
    exact hd

-- A word is cut off where it ends; a space behind a date is another matter.
theorem scan_between_word (hne : w ≠ []) (hw : ∀ x ∈ w, endsWord x = false) (he : endsWord c = true)
    (hd : isReversedDate w.reverse = false) :
    scan .between (w ++ c :: rest) = (word w :: ·) <$> scan .between (c :: rest) := by
  obtain ⟨x, w, rfl⟩ := List.exists_cons_of_ne_nil hne
  have ⟨hx, hw⟩ := List.forall_mem_cons.mp hw
  rw [List.cons_append, scan_of_silent_step (step_between_word hx), scan_word hw he]
  · rfl
  · rwa [← List.reverse_cons]

theorem isReversedDate_eq_false (h : '-' ∉ cs) : isReversedDate cs = false := by
  rw [Bool.eq_false_iff]
  intro hd
  have ⟨hl, ha⟩ := Bool.and_eq_true_iff.mp hd
  have hl : 2 < cs.length := by rw [beq_iff_eq.mp hl]; decide
  have hm : (cs[2], 2) ∈ cs.zipIdx := List.mk_mem_zipIdx_iff_getElem?.mpr (List.getElem?_eq_getElem hl)
  have hc : cs[2] = '-' := by simpa using List.all_eq_true.mp ha _ hm
  exact h (hc ▸ List.getElem_mem hl)

end RequestQuery.Toml.Token
