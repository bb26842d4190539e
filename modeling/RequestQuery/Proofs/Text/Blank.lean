import RequestQuery.Proofs.Text.Split
import RequestQuery.Text.Blank

namespace RequestQuery.Text

variable {c : Char} {cs word : List Char}

-- No blank stands at either end.
structure Trimmed (cs : List Char) : Prop where
  head : ∀ c ∈ cs.head?, isBlank c = false
  last : ∀ c ∈ cs.getLast?, isBlank c = false

theorem Trimmed.of_ends {first last : Char} (hf : isBlank first = false) (hl : isBlank last = false)
    (cs : List Char) : Trimmed (first :: cs ++ [last]) where
  head := by simpa using hf
  last c h := by
    rw [List.getLast?_concat] at h
    exact Option.some.inj h ▸ hl

-- From the exclamation mark to the tilde there is no blank.
theorem not_blank_of_toNat (hl : 0x21 ≤ c.toNat) (hu : c.toNat ≤ 0x7E) : isBlank c = false := by
  simp [isBlank, blankRanges]
  omega

theorem not_blank_of_isAlphanum (h : c.isAlphanum) : isBlank c = false := by
  have h : decide (65 ≤ c.val ∧ c.val ≤ 90) || 97 ≤ c.val && c.val ≤ 122 || 48 ≤ c.val && c.val ≤ 57 := h
  have hc : c.val.toNat = c.toNat := rfl
  simp [UInt32.le_iff_toNat_le, hc] at h
  exact not_blank_of_toNat (by omega) (by omega)

theorem Trimmed.of_forall (h : ∀ c ∈ cs, isBlank c = false) : Trimmed cs where
  head c hc := h c (List.mem_of_mem_head? hc)
  last c hc := h c (List.mem_of_mem_getLast? hc)

theorem trimLeft_isSuffix (cs : List Char) : trimLeft cs <:+ cs :=
  List.dropWhile_suffix _

theorem trimRight_isPrefix (cs : List Char) : trimRight cs <+: cs := by
  have h := List.dropWhile_suffix (l := cs.reverse) isBlank
  simpa [trimRight] using List.reverse_prefix.mpr h

theorem mem_of_mem_trim (h : c ∈ trim cs) : c ∈ cs :=
  (trimLeft_isSuffix cs).mem ((trimRight_isPrefix _).mem h)

theorem not_blank_of_mem_head?_dropWhile (h : c ∈ (cs.dropWhile isBlank).head?) :
    isBlank c = false := by
  have := List.head?_dropWhile_not isBlank cs
  simpa [Option.mem_def.mp h] using this

theorem trimmed_trim (cs : List Char) : Trimmed (trim cs) where
  head c h := by
    have ⟨rest, hr⟩ := trimRight_isPrefix (trimLeft cs)
    have ht : (trimRight (trimLeft cs)).head? = some c := h
    have hl : (trimLeft cs).head? = some c := by rw [← hr, List.head?_append, ht, Option.some_or]
    exact not_blank_of_mem_head?_dropWhile hl
  last c h := by
    rw [trim, trimRight, List.getLast?_reverse] at h
    exact not_blank_of_mem_head?_dropWhile h

theorem trimLeft_eq_self (h : ∀ c ∈ cs.head?, isBlank c = false) : trimLeft cs = cs := by
  cases cs
  case nil => rfl
  case cons c cs => simp [trimLeft, h c rfl]

theorem trimRight_eq_self (h : ∀ c ∈ cs.getLast?, isBlank c = false) : trimRight cs = cs := by
  have hr : cs.reverse.dropWhile isBlank = cs.reverse := trimLeft_eq_self (by simpa using h)
  rw [trimRight, hr, List.reverse_reverse]

theorem trim_eq_self_iff : trim cs = cs ↔ Trimmed cs where
  mp h  := h ▸ trimmed_trim cs
  mpr h := by rw [trim, trimLeft_eq_self h.head, trimRight_eq_self h.last]

-- A last character that is not blank stays the last one.
theorem getLast?_trim (hl : cs.getLast? = some c) (hc : isBlank c = false) :
    (trim cs).getLast? = some c := by
  obtain ⟨ds, rfl⟩ := List.getLast?_eq_some_iff.mp hl
  have ht : (trimLeft (ds ++ [c])).getLast? = some c := by
    rw [trimLeft, List.dropWhile_append]
    split
    case isTrue  => simp [hc]
    case isFalse => exact List.getLast?_concat
  rw [trim, trimRight_eq_self (by simp [ht, hc]), ht]

-- Trimming takes away nothing but blanks.
theorem filter_trim {p : Char → Bool} (h : ∀ c, p c → isBlank c = false) (cs : List Char) :
    (trim cs).filter p = cs.filter p := by
  have hd (cs : List Char) : (cs.dropWhile isBlank).filter p = cs.filter p := by
    have hn : (cs.takeWhile isBlank).filter p = [] := by
      refine List.filter_eq_nil_iff.mpr fun c hc hp => ?_
      have hb := List.all_eq_true.mp List.all_takeWhile c hc
      simp [h c hp] at hb
    calc (cs.dropWhile isBlank).filter p
      _ = (cs.takeWhile isBlank ++ cs.dropWhile isBlank).filter p := by
        rw [List.filter_append, hn, List.nil_append]
      _ = cs.filter p := by rw [List.takeWhile_append_dropWhile]
  rw [trim, trimRight, List.filter_reverse, hd, ← List.filter_reverse, List.reverse_reverse, trimLeft,
    hd]

theorem not_blank_of_mem_words (h : word ∈ words cs) : ∀ c ∈ word, isBlank c = false :=
  fun c hc => (mem_and_not_of_mem_splitOnP (List.mem_filter.mp h).1 c hc).2

theorem words_eq_singleton (hne : cs ≠ []) (h : ∀ c ∈ cs, isBlank c = false) : words cs = [cs] := by
  rw [words, List.splitOnP_eq_singleton h]
  simp [hne]

end RequestQuery.Text
