import RequestQuery.SortKey
import RequestQuery.Proofs.Bag
import RequestQuery.Proofs.Traversal
import RequestQuery.Proofs.Text.Blank

namespace RequestQuery

theorem toLower_eq (s : String) : s.toLower = .ofList (s.toList.map Char.toLower) := by
  have h : s.toLower = s.map Char.toLower := rfl
  rw [h, ← String.toList_inj, String.toList_map, String.toList_ofList]

theorem sameWord_iff {a b : String} : sameWord a b ↔ a.toLower = b.toLower := by
  rw [sameWord, beq_iff_eq, toLower_eq, toLower_eq, String.ofList_inj]

-- Of things with different keywords, the one that a word names is found by its keyword.
theorem find?_sameWord_eq_some_iff {α : Type} {all : List α} {name keyword : α → String}
    {word : String} {a : α} (hm : ∀ a, a ∈ all) (hn : ∀ a, (name a).toLower = keyword a)
    (hk : ∀ a b, keyword a = keyword b → a = b) :
    all.find? (sameWord word <| name ·) = some a ↔ word.toLower = keyword a where
  mp h := by
    have ha := List.find?_some h
    rw [sameWord_iff.mp ha, hn a]
  mpr h := by
    have ha : sameWord word (name a) := sameWord_iff.mpr (h.trans (hn a).symm)
    cases hf : all.find? (sameWord word <| name ·)
    case none => exact absurd ha (List.find?_eq_none.mp hf a (hm a))
    case some b =>
      have hb := List.find?_some hf
      rw [sameWord_iff, hn b, h] at hb
      rw [hk a b hb]

theorem isSome_find?_sameWord_iff {α : Type} {all : List α} {name keyword : α → String}
    {word : String} (hn : ∀ a, (name a).toLower = keyword a) :
    (all.find? (sameWord word <| name ·)).isSome ↔ word.toLower ∈ all.map keyword := by
  simp only [List.find?_isSome, sameWord_iff, hn, List.mem_map, eq_comm (b := word.toLower)]

-- The words of a request that name a direction or a placement, in small letters.
def Direction.keyword : Direction → String
  | ascending  => "asc"
  | descending => "desc"

def NullsPlacement.keyword : NullsPlacement → String
  | first => "first"
  | last  => "last"

theorem Direction.toLower_name (direction : Direction) :
    direction.name.toLower = direction.keyword := by
  rw [toLower_eq]
  cases direction <;> rfl

theorem NullsPlacement.toLower_name (nulls : NullsPlacement) :
    nulls.name.toLower = nulls.keyword := by
  rw [toLower_eq]
  cases nulls <;> rfl

theorem Direction.ofWord?_eq_some_iff {word : String} {direction : Direction} :
    ofWord? word = some direction ↔ word.toLower = direction.keyword := by
  refine find?_sameWord_eq_some_iff (fun d => ?_) toLower_name fun d d' => ?_
  · cases d <;> decide
  · cases d <;> cases d' <;> decide

theorem NullsPlacement.ofWord?_eq_some_iff {word : String} {nulls : NullsPlacement} :
    ofWord? word = some nulls ↔ word.toLower = nulls.keyword := by
  refine find?_sameWord_eq_some_iff (fun n => ?_) toLower_name fun n n' => ?_
  · cases n <;> decide
  · cases n <;> cases n' <;> decide

namespace SortKey

variable {entity : Entity} {text field word keyword : String} {key key' : SortKey} {given : Given}
  {direction : Direction} {nulls : NullsPlacement}

-- The words of a key say what its direction and its placement are.
inductive Spelled : SortKey → Prop
  | plain {field : String} : Spelled { field }
  | directed {field word : String} {direction : Direction}
    (hd : Direction.ofWord? word = some direction) : Spelled (directed { field } direction word)
  | placing {field word keyword placement : String} {direction : Direction} {nulls : NullsPlacement}
    (hd : Direction.ofWord? word = some direction) (hk : sameWord keyword "nulls")
    (hn : NullsPlacement.ofWord? placement = some nulls) :
    Spelled (SortKey.placing (SortKey.directed { field } direction word) nulls keyword placement)

theorem ofField_eq_ok_iff :
    ofField entity field = .ok key ↔ entity.hasField field ∧ { field } = key := by
  rw [ofField]
  split <;> simp_all

theorem readDirection_eq_ok_iff :
    readDirection word key = .ok key' ↔
      ∃ direction, Direction.ofWord? word = some direction ∧ key.directed direction word = key' := by
  rw [readDirection]
  split <;> simp_all

theorem readNulls_eq_ok_iff :
    readNulls keyword word key = .ok key' ↔
      sameWord keyword "nulls" ∧
        ∃ nulls, NullsPlacement.ofWord? word = some nulls ∧ key.placing nulls keyword word = key' := by
  rw [readNulls]
  split
  case isTrue => split <;> simp_all
  case isFalse h => simp [h]

-- All words of the text are words of the key, in their order and as they are.
theorem ofText_eq_ok_iff :
    ofText entity text = .ok key ↔
      entity.hasField key.field ∧ key.Spelled ∧
        (Text.words text.toList).map String.ofList = key.field :: key.words where
  mp h := by
    rw [ofText] at h
    split at h
    case h_1 field hw =>
      obtain ⟨hf, rfl⟩ := ofField_eq_ok_iff.mp h
      exact ⟨hf, .plain, hw⟩
    case h_2 field word hw =>
      simp only [bind_eq_ok_iff, ofField_eq_ok_iff, readDirection_eq_ok_iff] at h
      obtain ⟨_, ⟨hf, rfl⟩, direction, hd, rfl⟩ := h
      exact ⟨hf, .directed hd, hw⟩
    case h_3 field word keyword placement hw =>
      simp only [bind_eq_ok_iff, ofField_eq_ok_iff, readDirection_eq_ok_iff,
        readNulls_eq_ok_iff] at h
      obtain ⟨_, ⟨_, ⟨hf, rfl⟩, direction, hd, rfl⟩, hk, nulls, hn, rfl⟩ := h
      exact ⟨hf, .placing hd hk hn, hw⟩
    case h_4 => cases h
  mpr h := by
    obtain ⟨hf, hs, hw⟩ := h
    rw [ofText, hw]
    cases hs
    case plain => exact ofField_eq_ok_iff.mpr ⟨hf, rfl⟩
    case directed direction hd =>
      simp only [bind_eq_ok_iff, ofField_eq_ok_iff, readDirection_eq_ok_iff, directed,
        List.nil_append]
      exact ⟨_, ⟨hf, rfl⟩, direction, hd, rfl⟩
    case placing direction nulls hd hk hn =>
      simp only [bind_eq_ok_iff, ofField_eq_ok_iff, readDirection_eq_ok_iff, readNulls_eq_ok_iff,
        placing, directed, List.nil_append, List.cons_append]
      exact ⟨_, ⟨_, ⟨hf, rfl⟩, direction, hd, rfl⟩, hk, nulls, hn, rfl⟩

-- A text that is empty has no words.
theorem ofGiven_once_eq_ok_iff :
    ofGiven entity (.once text) = .ok key ↔ ofText entity text = .ok key := by
  by_cases h : text = ""
  case pos =>
    subst h
    exact ⟨nofun, nofun⟩
  case neg =>
    have hs : ofGiven entity (.once text) =
      ((Given.once text).sole Parameter.order.name >>= ofText entity) := rfl
    rw [hs, Given.sole_once h]
    rfl

-- What stands behind the quoted field.
def ending (words : List String) : String :=
  .ofList <| words.flatMap fun word => ' ' :: word.toList

theorem text_eq (key : SortKey) : key.text = "\"" ++ key.field ++ "\"" ++ ending key.words := by
  simp [text, ending, ← String.toList_inj]

theorem toLower_ending (words : List String) :
    (ending words).toLower = ending (words.map String.toLower) := by
  simp only [ending, toLower_eq, String.toList_ofList, List.map_flatMap, List.flatMap_map,
    List.map_cons]
  rfl

-- The endings in small letters.
def endings : List String :=
  ["", " asc", " desc", " asc nulls first", " asc nulls last", " desc nulls first",
   " desc nulls last"]

-- In small letters each word is known, and in each case they make up one of the endings.
theorem Spelled.toLower_ending (h : key.Spelled) : (ending key.words).toLower ∈ endings := by
  rw [SortKey.toLower_ending]
  cases h
  case plain field => exact List.mem_cons_self
  case directed field word direction hd =>
    change ending [word.toLower] ∈ endings
    rw [Direction.ofWord?_eq_some_iff.mp hd]
    cases direction <;> decide
  case placing field word keyword placement direction nulls hd hk hn =>
    change ending [word.toLower, keyword.toLower, placement.toLower] ∈ endings
    have hk : keyword.toLower = "nulls" := by
      rw [sameWord_iff.mp hk, toLower_eq]
      decide
    rw [Direction.ofWord?_eq_some_iff.mp hd, hk, NullsPlacement.ofWord?_eq_some_iff.mp hn]
    cases direction <;> cases nulls <;> decide

-- A field in double quotes, and behind it one of the endings in letters of any case.
structure Fragment (entity : Entity) (text field ending : String) : Prop where
  text    : text = "\"" ++ field ++ "\"" ++ ending
  known   : entity.hasField field
  unblank : ∀ c ∈ field.toList, Text.isBlank c = false
  ending  : ending.toLower ∈ endings

theorem fragment_of_ofGiven (h : ofGiven entity given = .ok key) :
    Fragment entity key.text key.field (ending key.words) := by
  have ⟨text, _, ht⟩ := bind_eq_ok_iff.mp h
  have ⟨hf, hs, hw⟩ := ofText_eq_ok_iff.mp ht
  refine ⟨text_eq key, hf, ?_, hs.toLower_ending⟩
  have ⟨word, hm, he⟩ := List.mem_map.mp (hw ▸ List.mem_cons_self : key.field ∈ _)
  rw [← he, String.toList_ofList]
  exact Text.not_blank_of_mem_words hm

end SortKey

end RequestQuery
