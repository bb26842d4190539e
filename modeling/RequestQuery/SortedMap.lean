namespace RequestQuery

-- The order of the keys is that of code points, which is also that of the UTF-8 bytes.
structure SortedMap (α : Type) where
  entries : List (String × α)
  ascending : entries.Pairwise (·.1 < ·.1)
  deriving DecidableEq

namespace SortedMap

variable {α : Type}

@[ext]
theorem ext {m₁ m₂ : SortedMap α} (h : m₁.entries = m₂.entries) : m₁ = m₂ := by
  cases m₁; cases m₂; cases h; rfl

def empty : SortedMap α :=
  ⟨[], .nil⟩

instance : EmptyCollection (SortedMap α) := ⟨empty⟩

instance : Inhabited (SortedMap α) := ⟨∅⟩

def isEmpty (m : SortedMap α) : Bool :=
  m.entries.isEmpty

def keys (m : SortedMap α) : List String :=
  m.entries.map (·.1)

def get? (m : SortedMap α) (key : String) : Option α :=
  m.entries.lookup key

def contains (m : SortedMap α) (key : String) : Bool :=
  m.entries.any (·.1 == key)

-- Puts an entry into its place, over an entry of the same key if there is one.
def insertEntry (key : String) (value : α) : List (String × α) → List (String × α)
  | [] => [(key, value)]
  | entry :: rest =>
    if key < entry.1 then
      (key, value) :: entry :: rest
    else if key = entry.1 then
      (key, value) :: rest
    else
      entry :: insertEntry key value rest

theorem mem_insertEntry {key : String} {value : α} {e : String × α} {entries : List (String × α)}
    (h : e ∈ insertEntry key value entries) : e = (key, value) ∨ e ∈ entries := by
  induction entries with
  | nil => simpa [insertEntry] using h
  | cons hd tl ih =>
    rw [insertEntry] at h
    split at h
    case isTrue => simpa using h
    case isFalse =>
      split at h
      case isTrue => simp only [List.mem_cons] at h ⊢; exact h.imp_right .inr
      case isFalse =>
        simp only [List.mem_cons] at h ⊢
        rcases h with rfl | h
        · exact .inr (.inl rfl)
        · exact (ih h).imp_right .inr

theorem ascending_insertEntry (key : String) (value : α) {entries : List (String × α)}
    (h : entries.Pairwise (·.1 < ·.1)) : (insertEntry key value entries).Pairwise (·.1 < ·.1) := by
  induction entries with
  | nil => simp [insertEntry]
  | cons hd tl ih =>
    obtain ⟨head, tail⟩ := List.pairwise_cons.mp h
    rw [insertEntry]
    split
    case isTrue lt =>
      refine List.pairwise_cons.mpr ⟨fun e he => ?_, h⟩
      rcases List.mem_cons.mp he with rfl | he
      · exact lt
      · exact String.lt_trans lt (head e he)
    case isFalse nlt =>
      split
      case isTrue eq => exact List.pairwise_cons.mpr ⟨fun e he => eq ▸ head e he, tail⟩
      case isFalse ne =>
        refine List.pairwise_cons.mpr ⟨fun e he => ?_, ih tail⟩
        rcases mem_insertEntry he with rfl | he
        · exact Std.lt_of_le_of_ne (String.not_lt.mp nlt) (Ne.symm ne)
        · exact head e he

def insert (m : SortedMap α) (key : String) (value : α) : SortedMap α :=
  ⟨insertEntry key value m.entries, ascending_insertEntry key value m.ascending⟩

-- Enters the pairs in order: the last one of a key stays.
def insertAll (m : SortedMap α) (pairs : List (String × α)) : SortedMap α :=
  pairs.foldl (fun m pair => m.insert pair.1 pair.2) m

def ofList (pairs : List (String × α)) : SortedMap α :=
  insertAll ∅ pairs

-- The entries of both, those of `newer` where both have one.
def override (older newer : SortedMap α) : SortedMap α :=
  older.insertAll newer.entries

end SortedMap

end RequestQuery
