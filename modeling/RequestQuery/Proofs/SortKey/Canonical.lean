import Mathlib.Control.Monad.Basic
import RequestQuery.Proofs.SortKey
import RequestQuery.Proofs.Text.Words

namespace RequestQuery.SortKey

open Text

variable {entity entity' : Entity} {text text' : String} {key key' : SortKey}

-- A text without its first character and without the quote that ends what is before its first space.
def unquoted? (fragment : String) : Option String :=
  let word := fragment.toList.takeWhile (· != ' ')
  let rest := fragment.toList.dropWhile (· != ' ')
  if word.getLast? = some '"' then some (.ofList (word.tail.dropLast ++ rest)) else none

-- None of the words of a key is empty or has a blank in it.
structure Worded (key : SortKey) : Prop where
  field : IsWord key.field.toList
  words : ∀ word ∈ key.words.map String.toList, IsWord word

theorem words_of_ofText (h : ofText entity text = .ok key) :
    Text.words text.toList = key.field.toList :: key.words.map String.toList := by
  obtain ⟨-, -, hw⟩ := ofText_eq_ok_iff.mp h
  simpa [Function.comp_def] using congrArg (List.map String.toList) hw

theorem worded_of_ofText (h : ofText entity text = .ok key) : key.Worded := by
  have hw (word) (hm : word ∈ key.field.toList :: key.words.map String.toList) : IsWord word :=
    isWord_of_mem_words (words_of_ofText h ▸ hm)
  have ⟨hf, hw⟩ := List.forall_mem_cons.mp hw
  exact ⟨hf, hw⟩

-- What a text is read as is told by its words.
theorem ofText_of_words (h : ofText entity text = .ok key)
    (hw : Text.words text'.toList = Text.words text.toList) : ofText entity text' = .ok key := by
  obtain ⟨hf, hs, ht⟩ := ofText_eq_ok_iff.mp h
  exact ofText_eq_ok_iff.mpr ⟨hf, hs, hw ▸ ht⟩

theorem eq_of_words (h : ofText entity text = .ok key) (h' : ofText entity' text' = .ok key')
    (hw : Text.words text.toList = Text.words text'.toList) : key = key' := by
  obtain ⟨hf, -, ht⟩ := ofText_eq_ok_iff.mp h
  obtain ⟨-, hs', ht'⟩ := ofText_eq_ok_iff.mp h'
  have he : key.field = key'.field := (List.cons.inj (ht.symm.trans (hw ▸ ht'))).1
  have hr : ofText entity text = .ok key' := ofText_eq_ok_iff.mpr ⟨he ▸ hf, hs', hw ▸ ht'⟩
  exact Except.ok.inj (h.symm.trans hr)

theorem toList_text (key : SortKey) :
    key.text.toList =
      '"' :: key.field.toList ++ ['"'] ++ (key.words.map String.toList).flatMap (' ' :: ·) := by
  simp [text, List.flatMap_map]

-- The quotes belong to the first word.
theorem Worded.words_text (h : key.Worded) :
    Text.words key.text.toList = ('"' :: key.field.toList ++ ['"']) :: key.words.map String.toList := by
  rw [toList_text]
  exact words_append_flatMap_space h.field.quoted h.words

theorem Worded.unquoted?_text (h : key.Worded) :
    unquoted? key.text =
      some (.ofList (key.field.toList ++ (key.words.map String.toList).flatMap (' ' :: ·))) := by
  have hq : ∀ c ∈ '"' :: key.field.toList ++ ['"'], c != ' ' := by
    intro c hc
    have hb := h.field.quoted.unblank c hc
    rw [bne_iff_ne]
    rintro rfl
    cases hb
  have hr := head?_flatMap_space (key.words.map String.toList)
  rw [unquoted?, toList_text]
  generalize (key.words.map String.toList).flatMap (' ' :: ·) = rest at hr
  have ht : rest.takeWhile (· != ' ') = [] ∧ rest.dropWhile (· != ' ') = rest := by
    cases rest
    case nil         => exact ⟨rfl, rfl⟩
    case cons c rest => simp [hr c rfl]
  rw [List.takeWhile_append_of_pos hq, List.dropWhile_append_of_pos hq, ht.1, ht.2,
    List.append_nil, if_pos List.getLast?_concat]
  simp

theorem Worded.text_inj (h : key.Worded) (h' : key'.Worded) (ht : key.text = key'.text) :
    key.field.toList = key'.field.toList ∧ key.words.map String.toList = key'.words.map String.toList := by
  have hw := congrArg (Text.words <| String.toList ·) ht
  simp only [h.words_text, h'.words_text] at hw
  have ⟨hq, hs⟩ := List.cons.inj hw
  exact ⟨(List.cons.inj (List.append_cancel_right hq)).2, hs⟩

-- A key is read again from what is left of its text without the quotes. Keys with one text, of whatever
-- entities, are the same key.
theorem ofGiven_unquoted_and_text_inj (h : ofGiven entity (.once text) = .ok key) :
    (∃ unquoted, unquoted? key.text = some unquoted ∧ ofGiven entity (.once unquoted) = .ok key) ∧
      ∀ entity' text' key', ofGiven entity' (.once text') = .ok key' →
        (key.text = key'.text ↔ Text.words text.toList = Text.words text'.toList) ∧
          (key.text = key'.text → key = key') := by
  rw [ofGiven_once_eq_ok_iff] at h
  have hk := worded_of_ofText h
  have hw := words_of_ofText h
  refine ⟨⟨_, hk.unquoted?_text, ?_⟩, fun entity' text' key' h' => ?_⟩
  · refine ofGiven_once_eq_ok_iff.mpr (ofText_of_words h ?_)
    rw [String.toList_ofList, words_append_flatMap_space hk.field hk.words, hw]
  · rw [ofGiven_once_eq_ok_iff] at h'
    have hw' := words_of_ofText h'
    have ht (he : key.text = key'.text) : Text.words text.toList = Text.words text'.toList := by
      have ⟨hf, hs⟩ := hk.text_inj (worded_of_ofText h') he
      rw [hw, hw', hf, hs]
    refine ⟨⟨ht, fun he => ?_⟩, fun he => eq_of_words h h' (ht he)⟩
    rw [eq_of_words h h' he]

-- The quote within the field stays where it is, and a keyword in other letters makes another text.
theorem ofGiven_unquoted_and_text_inj_quote :
    let entity := Entity.ofNames "User" ["a\"b", "id"]
    let key : SortKey := ⟨"a\"b", some .descending, some .last, ["DESC", "Nulls", "last"]⟩
    let key' : SortKey := ⟨"a\"b", some .descending, some .last, ["desc", "Nulls", "last"]⟩
    ofGiven entity (.once "\ta\"b\u3000DESC  Nulls last") = .ok key ∧
      ofGiven entity (.once "a\"b desc Nulls last") = .ok key' ∧
      unquoted? key.text = some "a\"b DESC Nulls last" ∧
      ofGiven entity (.once "a\"b DESC Nulls last") = .ok key ∧ key.text ≠ key'.text := by
  intro entity key key'
  have h : ofGiven entity (.once "\ta\"b\u3000DESC  Nulls last") = .ok key := by decide +kernel
  have h' : ofGiven entity (.once "a\"b desc Nulls last") = .ok key' := by decide +kernel
  have hu : unquoted? key.text = some "a\"b DESC Nulls last" := by decide +kernel
  have ⟨⟨unquoted, ht, hr⟩, hi⟩ := ofGiven_unquoted_and_text_inj h
  obtain rfl := Option.some.inj (ht.symm.trans hu)
  exact ⟨h, h', hu, hr, fun he => absurd ((hi entity _ key' h').1.mp he) (by decide +kernel)⟩

end RequestQuery.SortKey
