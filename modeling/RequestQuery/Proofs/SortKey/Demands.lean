import RequestQuery.Proofs.SortKey
import RequestQuery.Proofs.Text.Words

namespace RequestQuery.SortKey

variable {entity : Entity} {text field word keyword : String} {ws : List String} {key : SortKey}

-- Something that has to hold, and what is told if it does not.
structure Demand where
  holds     : Bool
  rejection : Rejection

namespace Demand

def refusal? (demand : Demand) : Option Rejection :=
  if demand.holds then none else some demand.rejection

def told (kind : Cause.Kind) (message : String) : Rejection :=
  { message, kind, parameter := some "orderBy" }

-- A key of three words would have a keyword without a placement.
def count (text : String) (ws : List String) : Demand where
  holds     := ws.length = 1 ∨ ws.length = 2 ∨ ws.length = 4
  rejection := told .malformedClause s!"Invalid orderBy parameter: {text}"

def known (entity : Entity) (field : String) : Demand where
  holds     := entity.hasField field
  rejection := told .unknownField s!"The {field} is not a valid field in the {entity.name}"

-- A word, if there is one, is one of the keywords in letters of any case.
def among (keywords : List String) (word? : Option String) : Demand where
  holds     := word?.all (·.toLower ∈ keywords)
  rejection :=
    let word := word?.getD ""
    told .unsupportedArgument s!"The {word} is not supported in orderBy parameter"

end Demand

open Demand

-- In the order in which they are made.
def demands (entity : Entity) (text : String) (ws : List String) : List Demand :=
  [count text ws, known entity (ws[0]?.getD ""), among ["asc", "desc"] ws[1]?, among ["nulls"] ws[2]?,
   among ["first", "last"] ws[3]?]

theorem refused?_ofField (entity : Entity) (field : String) :
    refused? (ofField entity field) = (known entity field).refusal? := by
  rw [ofField, refusal?, known]
  cases entity.hasField field <;> rfl

theorem unsupported_eq (word : String) :
    unsupported word =
      told .unsupportedArgument s!"The {word} is not supported in orderBy parameter" := by
  have hl : " is not supported in " ++ ("orderBy" ++ " parameter") =
      " is not supported in orderBy parameter" := by decide
  have hm : "The " ++ word ++ " is not supported in " ++ "orderBy" ++ " parameter" =
      "The " ++ word ++ " is not supported in orderBy parameter" := by
    rw [String.append_assoc, String.append_assoc, hl]
  exact congrArg (told .unsupportedArgument) hm

theorem refusal?_among (keywords : List String) (word : String) :
    (among keywords (some word)).refusal? =
      if word.toLower ∈ keywords then none else some (unsupported word) := by
  by_cases h : word.toLower ∈ keywords
  case pos => simp [refusal?, among, h]
  case neg => simp [refusal?, among, h, unsupported_eq]

theorem isSome_direction_iff : (Direction.ofWord? word).isSome ↔ word.toLower ∈ ["asc", "desc"] :=
  isSome_find?_sameWord_iff Direction.toLower_name

theorem isSome_nulls_iff :
    (NullsPlacement.ofWord? word).isSome ↔ word.toLower ∈ ["first", "last"] :=
  isSome_find?_sameWord_iff NullsPlacement.toLower_name

theorem refused?_readDirection (word : String) (key : SortKey) :
    refused? (readDirection word key) = (among ["asc", "desc"] (some word)).refusal? := by
  simp only [refusal?_among, ← isSome_direction_iff]
  rw [readDirection]
  cases Direction.ofWord? word <;> rfl

theorem refused?_readNulls (keyword word : String) (key : SortKey) :
    refused? (readNulls keyword word key) =
      (among ["nulls"] (some keyword)).refusal?.or (among ["first", "last"] (some word)).refusal? := by
  have hk : sameWord keyword "nulls" ↔ keyword.toLower ∈ ["nulls"] := by
    rw [sameWord_iff, toLower_eq "nulls", List.mem_singleton]
    exact Iff.rfl
  simp only [refusal?_among, ← isSome_nulls_iff, ← hk]
  rw [readNulls]
  cases sameWord keyword "nulls"
  case false => rfl
  case true  => cases NullsPlacement.ofWord? word <;> rfl

theorem refusal?_count (text : String) (ws : List String) :
    (count text ws).refusal? =
      if ws.length = 1 ∨ ws.length = 2 ∨ ws.length = 4 then
        none
      else
        some ((Cause.malformedOrder text).rejection.within Parameter.order.name) := by
  simp only [refusal?, count, decide_eq_true_eq]
  rfl

-- A demand on a word that is not there is met.
theorem refusal?_among_none (keywords : List String) : (among keywords none).refusal? = none :=
  rfl

-- The words are read one after the other, so that the first demand that is not met decides.
theorem refused?_ofText (entity : Entity) (hw : (Text.words text.toList).map String.ofList = ws) :
    refused? (ofText entity text) = (demands entity text ws).findSome? refusal? := by
  simp only [demands, findSome?_cons_eq_or, List.findSome?_nil, refusal?_count]
  rw [ofText, hw]
  rcases ws with _ | ⟨field, _ | ⟨direction, _ | ⟨keyword, _ | ⟨placement, _ | _⟩⟩⟩⟩
  case nil => rfl
  case cons.nil => simp [refused?_ofField, refusal?_among_none]
  case cons.cons.nil =>
    simp [refused?_bind (refused?_readDirection direction), refused?_ofField, refusal?_among_none]
  case cons.cons.cons.nil => rfl
  case cons.cons.cons.cons.nil =>
    change refused?
      (ofField entity field >>= readDirection direction >>= readNulls keyword placement) = _
    rw [refused?_bind (refused?_readNulls keyword placement),
      refused?_bind (refused?_readDirection direction), refused?_ofField]
    simp [Option.or_assoc]
  case cons.cons.cons.cons.cons => simp [refused?]

-- A key is made of its words: the field, what the words behind it stand for, and these words as they
-- are.
structure Tells (key : SortKey) (ws : List String) : Prop where
  field     : ws.head? = some key.field
  direction : key.direction.map Direction.keyword = ws[1]?.map String.toLower
  nulls     : key.nulls.map NullsPlacement.keyword = ws[3]?.map String.toLower
  text      : key.text = "\"" ++ key.field ++ "\"" ++ ending ws.tail

theorem Spelled.tells (h : key.Spelled) : key.Tells (key.field :: key.words) := by
  have ht : key.text = "\"" ++ key.field ++ "\"" ++ ending key.words := text_eq key
  cases h
  case plain => exact ⟨rfl, rfl, rfl, ht⟩
  case directed field word direction hd =>
    have hd := Direction.ofWord?_eq_some_iff.mp hd
    exact ⟨rfl, congrArg some hd.symm, rfl, ht⟩
  case placing field word keyword placement direction nulls hd hk hn =>
    have hd := Direction.ofWord?_eq_some_iff.mp hd
    have hn := NullsPlacement.ofWord?_eq_some_iff.mp hn
    exact ⟨rfl, congrArg some hd.symm, congrArg some hn.symm, ht⟩

theorem ofGiven_once_eq_demands (entity : Entity) (h : text ≠ "") :
    let read := ofGiven entity (.once text)
    ∃ ws : List String, Text.Spaced text.toList (ws.map String.toList) ∧
      ((∃ key, read = .ok key) ↔ ∀ demand ∈ demands entity text ws, demand.holds) ∧
      (∀ key, read = .ok key → key.Tells ws) ∧
      ∀ before demand after, demands entity text ws = before ++ demand :: after →
        (∀ earlier ∈ before, earlier.holds) → demand.holds = false →
          read = .error demand.rejection := by
  intro read
  have hr : read = ofText entity text := by
    rw [show read = ofGiven entity (.once text) from rfl, ofGiven, Given.sole_once h]
    rfl
  let ws := (Text.words text.toList).map String.ofList
  have hs : refused? read = (demands entity text ws).findSome? refusal? :=
    hr ▸ refused?_ofText entity rfl
  refine ⟨ws, ?_, ?_, fun key hk => ?_, fun before demand after hd hb hn => ?_⟩
  · simpa [ws] using Text.spaced_words text.toList
  · rw [← refused?_eq_none_iff, hs, List.findSome?_eq_none_iff]
    simp [refusal?]
  · have ⟨_, hsp, hw⟩ := ofText_eq_ok_iff.mp (hr ▸ hk)
    exact (show ws = key.field :: key.words from hw) ▸ hsp.tells
  · rw [← refused?_eq_some_iff, hs, List.findSome?_eq_some_iff]
    refine ⟨before, demand, after, hd, by simp [refusal?, hn], fun earlier he => ?_⟩
    simp [refusal?, hb earlier he]

-- Of four words the first three are as they should be.
theorem ofGiven_once_eq_demands_placement :
    let entity := Entity.ofNames "User" ["id", "name"]
    let text := "\tname\u3000DESC Nulls sideways "
    text ≠ "" ∧ ofGiven entity (.once text) =
      .error (told .unsupportedArgument "The sideways is not supported in orderBy parameter") := by
  intro entity text
  have h : text ≠ "" := by decide
  obtain ⟨ws, hs, _, _, he⟩ := ofGiven_once_eq_demands entity h
  have hw : ws = (Text.words text.toList).map String.ofList := by
    rw [hs.words_eq]
    simp
  have hw : ws = ["name", "DESC", "Nulls", "sideways"] := hw.trans (by decide +kernel)
  subst hw
  have hd : demands entity text ["name", "DESC", "Nulls", "sideways"] =
      (demands entity text ["name", "DESC", "Nulls", "sideways"]).take 4 ++
        among ["first", "last"] (some "sideways") :: [] := rfl
  exact ⟨h, he _ _ [] hd (by decide +kernel) (by decide +kernel)⟩

end RequestQuery.SortKey
