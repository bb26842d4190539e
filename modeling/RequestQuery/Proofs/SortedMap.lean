import RequestQuery.SortedMap

namespace RequestQuery.SortedMap

variable {α : Type} {m m₁ m₂ : SortedMap α} {key : String} {value : α}

theorem lookup_cons {κ : Type} [DecidableEq κ] (key : κ) (e : κ × α) (entries : List (κ × α)) :
    (e :: entries).lookup key = if key = e.1 then some e.2 else entries.lookup key := by
  rw [List.lookup_cons]
  split <;> simp_all

-- Where no two entries have the same key, each one is found under its key.
theorem lookup_eq_some_iff_mem {κ : Type} [DecidableEq κ] {key : κ} {entries : List (κ × α)}
    (h : entries.Pairwise (·.1 ≠ ·.1)) :
    entries.lookup key = some value ↔ (key, value) ∈ entries := by
  induction entries with
  | nil => simp
  | cons e tl ih =>
    have ⟨hd, htl⟩ := List.pairwise_cons.mp h
    rw [lookup_cons, List.mem_cons]
    split
    case isTrue hk =>
      have hn : (key, value) ∉ tl := fun hm => hd _ hm hk.symm
      rw [or_iff_left hn, Prod.ext_iff, and_iff_right hk, Option.some_inj, eq_comm]
    case isFalse hk =>
      have hn : (key, value) ≠ e := fun he => hk (congrArg Prod.fst he)
      rw [or_iff_right hn, ih htl]

theorem eq_empty_iff : m = ∅ ↔ m.entries = [] where
  mp h := h ▸ rfl
  mpr h := ext h

@[simp]
theorem get?_empty (key : String) : (∅ : SortedMap α).get? key = none :=
  rfl

theorem pairwise_ne (m : SortedMap α) : m.entries.Pairwise (·.1 ≠ ·.1) := by
  apply m.ascending.imp
  intro e₁ e₂ hlt he
  exact String.lt_irrefl e₂.1 (he ▸ hlt)

theorem mem_entries_iff : (key, value) ∈ m.entries ↔ m.get? key = some value :=
  (lookup_eq_some_iff_mem m.pairwise_ne).symm

theorem contains_eq : m.contains key = (m.get? key).isSome := by
  rw [Bool.eq_iff_iff, get?, List.lookup_isSome_iff, contains, List.any_eq_true]
  simp only [beq_iff_eq, eq_comm (a := key)]

theorem mem_keys_iff {key : String} : key ∈ m.keys ↔ m.contains key := by
  rw [keys, contains, List.mem_map, List.any_eq_true]
  simp only [beq_iff_eq]

theorem nodup_entries (m : SortedMap α) : m.entries.Nodup :=
  m.pairwise_ne.imp fun h he => h (congrArg Prod.fst he)

-- What a map answers tells its entries, and these stand in the only order they can.
theorem ext_get? (h : ∀ key, m₁.get? key = m₂.get? key) : m₁ = m₂ := by
  have hm (e) : e ∈ m₁.entries ↔ e ∈ m₂.entries := by
    rw [mem_entries_iff, mem_entries_iff, h]
  have hp := (List.perm_ext_iff_of_nodup m₁.nodup_entries m₂.nodup_entries).mpr @hm
  refine ext (hp.eq_of_pairwise (fun e₁ e₂ _ _ h₁ h₂ => ?_) m₁.ascending m₂.ascending)
  exact absurd (String.lt_trans h₁ h₂) (String.lt_irrefl _)

theorem isEmpty_iff_get? : m.isEmpty ↔ ∀ key, m.get? key = none := by
  rw [isEmpty, List.isEmpty_iff, ← eq_empty_iff]
  exact ⟨fun h _ => h ▸ rfl, fun h => ext_get? h⟩

theorem lookup_insertEntry (key key' : String) (value : α) (entries : List (String × α)) :
    (insertEntry key value entries).lookup key' =
      if key' = key then some value else entries.lookup key' := by
  induction entries with
  | nil => simp [insertEntry, lookup_cons]
  | cons e tl ih =>
    rw [insertEntry]
    split
    case isTrue => simp [lookup_cons]
    case isFalse =>
      split
      case isTrue h => by_cases hk : key' = key <;> simp [lookup_cons, ← h, hk]
      case isFalse h =>
        rw [lookup_cons, lookup_cons, ih]
        by_cases hk : key' = key <;> simp [hk, h]

theorem get?_insert (m : SortedMap α) (key key' : String) (value : α) :
    (m.insert key value).get? key' = if key' = key then some value else m.get? key' :=
  lookup_insertEntry ..

-- Of two pairs with the same key the later one holds.
theorem get?_insertAll (m : SortedMap α) (pairs : List (String × α)) (key : String) :
    (m.insertAll pairs).get? key = (pairs.reverse.lookup key).or (m.get? key) := by
  induction pairs generalizing m with
  | nil => rfl
  | cons p tl ih =>
    rw [insertAll, List.foldl_cons, ← insertAll, ih, get?_insert, List.reverse_cons,
      List.lookup_append]
    cases tl.reverse.lookup key <;> by_cases h : key = p.1 <;> simp [lookup_cons, h]

theorem get?_ofList (pairs : List (String × α)) (key : String) :
    (ofList pairs).get? key = pairs.reverse.lookup key := by
  rw [ofList, get?_insertAll, get?_empty, Option.or_none]

theorem entries_ofList_singleton (e : String × α) : (ofList [e]).entries = [e] :=
  rfl

-- A pair may be lost to a later one of its key, but none comes from elsewhere.
theorem mem_of_mem_entries_ofList {pairs : List (String × α)} {e : String × α}
    (h : e ∈ (ofList pairs).entries) : e ∈ pairs := by
  rw [mem_entries_iff, get?_ofList, List.lookup_eq_some_iff] at h
  have ⟨before, after, h, _⟩ := h
  exact List.mem_reverse.mp (h ▸ by simp)

theorem lookup_reverse_entries (m : SortedMap α) (key : String) :
    m.entries.reverse.lookup key = m.get? key := by
  have hr : m.entries.reverse.Pairwise (·.1 ≠ ·.1) :=
    List.pairwise_reverse.mpr (m.pairwise_ne.imp Ne.symm)
  refine Option.ext fun value => ?_
  rw [lookup_eq_some_iff_mem hr, List.mem_reverse, mem_entries_iff]

-- No two entries have the same key, so that none is lost.
theorem ofList_entries (m : SortedMap α) : ofList m.entries = m := by
  refine ext_get? fun key => ?_
  rw [get?_ofList, lookup_reverse_entries]

theorem get?_override (older newer : SortedMap α) (key : String) :
    (older.override newer).get? key = (newer.get? key).or (older.get? key) := by
  rw [override, get?_insertAll, lookup_reverse_entries]

theorem ofList_append (pairs₁ pairs₂ : List (String × α)) :
    ofList (pairs₁ ++ pairs₂) = (ofList pairs₁).override (ofList pairs₂) := by
  refine ext_get? fun key => ?_
  simp only [get?_override, get?_ofList, List.reverse_append, List.lookup_append]

theorem override_self (m : SortedMap α) : m.override m = m := by
  refine ext_get? fun key => ?_
  rw [get?_override, Option.or_self]

theorem override_assoc (m₁ m₂ m₃ : SortedMap α) :
    (m₁.override m₂).override m₃ = m₁.override (m₂.override m₃) := by
  refine ext_get? fun key => ?_
  simp only [get?_override, Option.or_assoc]

-- Where no key is in both maps, there is nothing to override.
theorem override_comm (h : ∀ key, m₁.contains key → m₂.contains key = false) :
    m₁.override m₂ = m₂.override m₁ := by
  refine ext_get? fun key => ?_
  have hk := h key
  rw [contains_eq, contains_eq] at hk
  rw [get?_override, get?_override]
  cases h₁ : m₁.get? key
  case none   => rw [Option.none_or, Option.or_none]
  case some v =>
    have h₂ : m₂.get? key = none := by simpa [h₁] using hk
    rw [h₂, Option.none_or, Option.or_none]

end RequestQuery.SortedMap
