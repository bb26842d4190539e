import RequestQuery.Proofs.Text.Blank

namespace RequestQuery.Text

variable {c : Char} {cs word blanks rest : List Char} {ws : List (List Char)}

-- A text of words with blanks around them. A word goes on up to the next blank.
inductive Spaced : List Char → List (List Char) → Prop
  | blank {cs : List Char} (hb : ∀ c ∈ cs, isBlank c) : Spaced cs []
  | word {blanks word rest : List Char} {ws : List (List Char)} (hb : ∀ c ∈ blanks, isBlank c)
    (hne : word ≠ []) (hw : ∀ c ∈ word, isBlank c = false) (hr : ∀ c ∈ rest.head?, isBlank c)
    (h : Spaced rest ws) : Spaced (blanks ++ word ++ rest) (word :: ws)

theorem words_cons_blank (hc : isBlank c) (cs : List Char) : words (c :: cs) = words cs := by
  rw [words, List.splitOnP_cons_eq_if_modifyHead, if_pos hc]
  rfl

theorem words_append_blanks (hb : ∀ c ∈ blanks, isBlank c) (cs : List Char) :
    words (blanks ++ cs) = words cs := by
  induction blanks with
  | nil => rfl
  | cons c blanks ih =>
    have ⟨hc, hb⟩ := List.forall_mem_cons.mp hb
    rw [List.cons_append, words_cons_blank hc, ih hb]

theorem words_append_word (hne : word ≠ []) (hw : ∀ c ∈ word, isBlank c = false)
    (hr : ∀ c ∈ rest.head?, isBlank c) : words (word ++ rest) = word :: words rest := by
  cases rest with
  | nil => rw [List.append_nil, words_eq_singleton hne hw]; rfl
  | cons c rest =>
    have hc : isBlank c := hr c rfl
    rw [words_cons_blank hc, words, List.splitOnP_append_cons_of_forall_mem hw c hc]
    simp [words, hne]

theorem Spaced.words_eq (h : Spaced cs ws) : words cs = ws := by
  induction h with
  | @blank cs hb =>
    rw [← List.append_nil cs, words_append_blanks hb]
    rfl
  | word hb hne hw hr _ ih =>
    rw [List.append_assoc, words_append_blanks hb, words_append_word hne hw hr, ih]

structure IsWord (cs : List Char) : Prop where
  ne_nil  : cs ≠ []
  unblank : ∀ c ∈ cs, isBlank c = false

theorem isWord_of_mem_words (h : word ∈ words cs) : IsWord word where
  ne_nil  := by simpa using (List.mem_filter.mp h).2
  unblank := not_blank_of_mem_words h

theorem IsWord.quoted (h : IsWord cs) : IsWord ('"' :: cs ++ ['"']) where
  ne_nil  := List.cons_ne_nil _ _
  unblank := by
    simp only [List.cons_append, List.forall_mem_cons, List.forall_mem_append]
    exact ⟨by decide, h.unblank, by decide, nofun⟩

theorem head?_flatMap_space (ws : List (List Char)) : ∀ c ∈ (ws.flatMap (' ' :: ·)).head?, c = ' ' := by
  cases ws <;> simp

-- A text of words with one space between two of them.
theorem words_append_flatMap_space (hw : IsWord word) (h : ∀ w ∈ ws, IsWord w) :
    words (word ++ ws.flatMap (' ' :: ·)) = word :: ws := by
  have hr (ws : List (List Char)) : ∀ c ∈ (ws.flatMap (' ' :: ·)).head?, isBlank c :=
    fun c hc => head?_flatMap_space ws c hc ▸ rfl
  induction ws generalizing word with
  | nil => exact words_append_word hw.ne_nil hw.unblank (hr [])
  | cons w ws ih =>
    have ⟨hw', h⟩ := List.forall_mem_cons.mp h
    rw [words_append_word hw.ne_nil hw.unblank (hr _), List.flatMap_cons, List.cons_append,
      words_cons_blank rfl, ih hw' h]

-- One more character in front is a blank, the first one of a word, or a word of its own.
theorem Spaced.cons (c : Char) (h : Spaced cs ws) : ∃ ws', Spaced (c :: cs) ws' := by
  by_cases hc : isBlank c
  case pos =>
    cases h with
    | blank hb => exact ⟨[], .blank (List.forall_mem_cons.mpr ⟨hc, hb⟩)⟩
    | word hb hne hw hr h => exact ⟨_, .word (List.forall_mem_cons.mpr ⟨hc, hb⟩) hne hw hr h⟩
  case neg =>
    have hc : isBlank c = false := by simpa using hc
    by_cases hr : ∀ d ∈ cs.head?, isBlank d
    case pos =>
      have hs : Spaced ([] ++ [c] ++ cs) ([c] :: ws) :=
        .word (List.forall_mem_nil _) (List.cons_ne_nil c []) (by simpa using hc) hr h
      exact ⟨_, hs⟩
    case neg =>
      cases h with
      | blank hb => exact absurd (fun d hd => hb d (List.mem_of_mem_head? hd)) hr
      | @word blanks word rest ws hb hne hw hr' h =>
        cases blanks with
        | nil =>
          have hs : Spaced ([] ++ (c :: word) ++ rest) ((c :: word) :: ws) :=
            .word (List.forall_mem_nil _) (List.cons_ne_nil c word)
              (List.forall_mem_cons.mpr ⟨hc, hw⟩) hr' h
          exact ⟨_, hs⟩
        | cons b blanks => exact absurd (by simpa using hb b List.mem_cons_self) hr

theorem spaced_words (cs : List Char) : Spaced cs (words cs) := by
  have he : ∃ ws, Spaced cs ws := by
    induction cs with
    | nil => exact ⟨[], .blank (List.forall_mem_nil _)⟩
    | cons c cs ih =>
      have ⟨ws, h⟩ := ih
      exact h.cons c
  have ⟨ws, h⟩ := he
  exact h.words_eq ▸ h

end RequestQuery.Text
