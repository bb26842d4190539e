import Mathlib.Control.Monad.Basic
import RequestQuery.Proofs.SortKey
import RequestQuery.Schema.Registry

namespace RequestQuery

namespace Identifier

variable {cs name rest : List Char}

-- A name as it stands between quotes: a quote in it is written twice.
def doubled (name : List Char) : List Char :=
  name.flatMap fun c => if c = '"' then ['"', '"'] else [c]

-- Behind the opening quote: the name up to the quote that closes it, and what stands behind that.
def closed? : List Char → Option (List Char × List Char)
  | []               => none
  | '"' :: '"' :: cs => Prod.map ('"' :: ·) id <$> closed? cs
  | '"' :: cs        => some ([], cs)
  | c :: cs          => Prod.map (c :: ·) id <$> closed? cs

-- The name that the quoted identifier in front of a text denotes, and what stands behind the identifier.
def read? : List Char → Option (List Char × List Char)
  | '"' :: cs => closed? cs
  | _         => none

theorem closed?_doubled (hr : rest.head? ≠ some '"') :
    closed? (doubled name ++ '"' :: rest) = some (name, rest) := by
  induction name with
  | nil =>
    cases rest
    case nil => rfl
    case cons c rest =>
      have hc : c ≠ '"' := by simpa using hr
      simp [doubled, closed?, hc]
  | cons c name ih =>
    by_cases hc : c = '"'
    case pos => simpa [doubled, hc, closed?] using ih
    case neg => simpa [doubled, hc, closed?] using ih

theorem closed?_eq_some_iff :
    closed? cs = some (name, rest) ↔ cs = doubled name ++ '"' :: rest ∧ rest.head? ≠ some '"' where
  mp h := by
    fun_induction closed? cs generalizing name with
    | case1 => cases h
    | case2 cs ih =>
      obtain ⟨⟨name, rest⟩, hc, he⟩ := Option.map_eq_some_iff.mp h
      cases he
      have ⟨he, hr⟩ := ih hc
      exact ⟨by simp [doubled, he], hr⟩
    | case3 cs hn =>
      cases h
      refine ⟨rfl, fun hr => ?_⟩
      have ⟨tail, ht⟩ := List.head?_eq_some_iff.mp hr
      exact hn tail ht
    | case4 c cs _ hq ih =>
      obtain ⟨⟨name, rest⟩, hc, he⟩ := Option.map_eq_some_iff.mp h
      cases he
      have ⟨he, hr⟩ := ih hc
      exact ⟨by simp [doubled, he, show c ≠ '"' from hq], hr⟩
  mpr := by
    rintro ⟨rfl, hr⟩
    exact closed?_doubled hr

theorem count_doubled (name : List Char) : (doubled name).count '"' = 2 * name.count '"' := by
  induction name with
  | nil => rfl
  | cons c name ih =>
    rw [doubled, List.flatMap_cons, List.count_append, ← doubled, ih]
    by_cases hc : c = '"'
    case pos => simp [hc]; omega
    case neg => simp [hc]

theorem doubled_eq_self (h : '"' ∉ name) : doubled name = name := by
  induction name with
  | nil => rfl
  | cons c name ih =>
    have ⟨hc, hn⟩ := not_or.mp (mt List.mem_cons.mpr h)
    rw [doubled, List.flatMap_cons, if_neg (Ne.symm hc), ← doubled, ih hn]
    rfl

-- A name that is written between quotes as it is denotes itself only if there is no quote in it: its quotes
-- would have to be there twice.
theorem read?_quoted_iff (hr : '"' ∉ rest) :
    read? ('"' :: name ++ '"' :: rest) = some (name, rest) ↔ '"' ∉ name := by
  rw [List.cons_append, read?, closed?_eq_some_iff]
  constructor
  case mp =>
    rintro ⟨hd, _⟩
    have hc := congrArg (List.count '"') hd
    rw [List.count_append, List.count_append, count_doubled] at hc
    exact List.count_eq_zero.mp (by omega)
  case mpr =>
    intro hn
    rw [doubled_eq_self hn]
    exact ⟨rfl, fun hh => hr (List.mem_of_mem_head? hh)⟩

end Identifier

namespace SortKey

variable {entity : Entity} {given : Given} {key : SortKey}

-- The text of a key is one identifier, which denotes the field, and behind it nothing but the keywords of the
-- key, one space before each.
structure Delimited (key : SortKey) : Prop where
  identifier : Identifier.read? key.text.toList = some (key.field.toList, (ending key.words).toList)
  keywords   : (ending key.words).toLower ∈ endings

theorem quote_notMem_ending {words : List String} (h : (ending words).toLower ∈ endings) :
    '"' ∉ (ending words).toList := by
  intro hm
  have hq : '"' ∈ (ending words).toLower.toList := by
    rw [toLower_eq, String.toList_ofList]
    exact List.mem_map_of_mem hm
  have he : ∀ ending ∈ endings, '"' ∉ ending.toList := by decide
  exact he _ h hq

theorem delimited_iff (h : ofGiven entity given = .ok key) :
    key.Delimited ↔ '"' ∉ key.field.toList := by
  have hf := fragment_of_ofGiven h
  have ht : key.text.toList = '"' :: key.field.toList ++ '"' :: (ending key.words).toList := by
    simp [hf.text]
  rw [← Identifier.read?_quoted_iff (quote_notMem_ending hf.ending), ← ht]
  exact ⟨fun hd => hd.identifier, fun hi => ⟨hi, hf.ending⟩⟩

-- Other quotes than the one that delimits an identifier do no harm.
theorem delimited_iff_apostrophe :
    let entity := Entity.ofNames "User" ["d'été", "id"]
    let key : SortKey := ⟨"d'été", some .descending, some .first, ["DESC", "Nulls", "first"]⟩
    ofGiven entity (.once " d'été\u3000DESC Nulls first") = .ok key ∧ key.Delimited := by
  intro entity key
  have h : ofGiven entity (.once " d'été\u3000DESC Nulls first") = .ok key := by decide +kernel
  exact ⟨h, (delimited_iff h).mpr (by decide +kernel)⟩

-- In `"a"b"` the identifier ends behind the first letter, although a registry takes the field.
theorem not_forall_delimited :
    ¬∀ (r r' : Registry) (entity : Entity) (text : String) (key : SortKey),
      (Registry.register entity).run.run r = (.ok (), r') → ofGiven entity (.once text) = .ok key →
        key.Delimited := by
  intro h
  let entity := Entity.ofNames "User" ["a\"b"]
  have hr : (Registry.register entity).run.run {} = (.ok (), ⟨[entity]⟩) :=
    Prod.ext (by decide +kernel) (by decide +kernel)
  have hk : ofGiven entity (.once "a\"b") = .ok { field := "a\"b" } := by decide +kernel
  exact absurd (h _ _ entity _ _ hr hk).identifier (by decide +kernel)

end SortKey

end RequestQuery
