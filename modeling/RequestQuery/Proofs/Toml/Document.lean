import RequestQuery.Toml.Document

namespace RequestQuery.Toml

-- Names with their values.
abbrev Rows := List (String × Data)

def Rows.names (rows : Rows) : List String :=
  rows.map (·.1)

namespace Table

variable {name : String} {f : Option Node → Option Node} {t : Table} {rows : Rows} {d : Data}

def names (t : Table) : List String :=
  t.map (·.1)

theorem alter_of_not_mem (h : name ∉ t.names) :
    t.alter name f = (fun node => t ++ [(name, node)]) <$> f none := by
  induction t with
  | nil => exact bind_pure_comp (fun node => [(name, node)]) (f none)
  | cons e t ih =>
    have ⟨hn, ht⟩ := not_or.mp (mt List.mem_cons.mpr h)
    rw [alter, if_neg (Ne.symm hn), ih ht]
    cases f none <;> rfl

theorem alter_last {node : Node} (h : name ∉ t.names) :
    (t ++ [(name, node)]).alter name f = (fun node => t ++ [(name, node)]) <$> f (some node) := by
  induction t with
  | nil =>
    rw [List.nil_append, alter, if_pos rfl]
    exact bind_pure_comp (fun node => [(name, node)]) (f (some node))
  | cons e t ih =>
    have ⟨hn, ht⟩ := not_or.mp (mt List.mem_cons.mpr h)
    rw [List.cons_append, alter, if_neg (Ne.symm hn), ih ht]
    cases f (some node) <;> rfl

def leaves (rows : Rows) : Table :=
  rows.map fun row => (row.1, .leaf row.2)

end Table

namespace Statement

def assignments (rows : Rows) : List Statement :=
  rows.map fun row => .assignment [row.1] row.2

def ofSection (s : String × Rows) : List Statement :=
  .table [s.1] :: assignments s.2

end Statement

namespace Builder

open Statement

variable {t root : Table} {rows : Rows} {current : List String} {name : String}

-- The rows go into the table that the current path leads to; `plug` is the rest of the document.
theorem foldlM_assignments {plug : Table → Table}
    (hp : ∀ f t, (plug t).within f current = plug <$> f t) (h : (t.names ++ rows.names).Nodup) :
    (assignments rows).foldlM step ⟨plug t, current⟩ = some ⟨plug (t ++ Table.leaves rows), current⟩ := by
  induction rows generalizing t with
  | nil => simp [assignments, Table.leaves]
  | cons row rows ih =>
    have hn : row.1 ∉ t.names := fun hm =>
      (List.nodup_append.mp h).2.2 _ hm _ List.mem_cons_self rfl
    have hs : step ⟨plug t, current⟩ (.assignment [row.1] row.2) =
        some ⟨plug (t ++ [(row.1, .leaf row.2)]), current⟩ := by
      rw [step, hp, Table.assign, Table.alter_of_not_mem hn]
      rfl
    have ht : (Table.names (t ++ [(row.1, .leaf row.2)]) ++ Rows.names rows).Nodup := by
      simpa [Table.names, Rows.names] using h
    have hr := ih ht
    rw [List.append_assoc] at hr
    rw [assignments, List.map_cons, List.foldlM_cons, hs]
    exact hr

theorem foldlM_ofSection {s : String × Rows} (hn : s.1 ∉ root.names) (hs : s.2.names.Nodup) :
    (ofSection s).foldlM step ⟨root, current⟩ =
      some ⟨root ++ [(s.1, .table .header (Table.leaves s.2))], [s.1]⟩ := by
  have hd : step ⟨root, current⟩ (.table [s.1]) = some ⟨root ++ [(s.1, .table .header [])], [s.1]⟩ := by
    have ht : root.within (Table.declare s.1) [] = some (root ++ [(s.1, .table .header [])]) :=
      Table.alter_of_not_mem hn
    simp [step, ht]
  have hp (f t) : Table.within f [s.1] (root ++ [(s.1, .table .header t)]) =
      (fun t => root ++ [(s.1, .table .header t)]) <$> f t := by
    rw [Table.within, Table.alter_last hn]
    simp only [Table.within]
    cases f t <;> rfl
  rw [ofSection, List.foldlM_cons, hd]
  exact foldlM_assignments hp hs

theorem foldlM_flatMap_ofSection (current : List String) {sections : List (String × Rows)}
    (hn : (root.names ++ sections.map (·.1)).Nodup) (hs : ∀ s ∈ sections, s.2.names.Nodup) :
    ∃ path, (sections.flatMap ofSection).foldlM step ⟨root, current⟩ =
      some ⟨root ++ sections.map fun s => (s.1, .table .header (Table.leaves s.2)), path⟩ := by
  induction sections generalizing root current with
  | nil => exact ⟨current, by simp⟩
  | cons s sections ih =>
    have ⟨hs, hss⟩ := List.forall_mem_cons.mp hs
    have hm : s.1 ∉ root.names := fun hm =>
      (List.nodup_append.mp hn).2.2 _ hm _ List.mem_cons_self rfl
    have ht : (Table.names (root ++ [(s.1, .table .header (Table.leaves s.2))]) ++
        sections.map (·.1)).Nodup := by
      simpa [Table.names] using hn
    have ⟨path, hr⟩ := ih [s.1] ht hss
    rw [List.append_assoc] at hr
    rw [List.flatMap_cons, List.foldlM_append, foldlM_ofSection hm hs]
    exact ⟨path, hr⟩

end Builder

namespace Node

theorem membersData_append (t₁ t₂ : Table) :
    membersData (t₁ ++ t₂) = membersData t₁ ++ membersData t₂ := by
  induction t₁ with
  | nil => rfl
  | cons e t ih => rw [List.cons_append, membersData, ih]; rfl

theorem membersData_leaves (rows : Rows) : membersData (Table.leaves rows) = rows := by
  induction rows with
  | nil => rfl
  | cons row rows ih => rw [Table.leaves, List.map_cons, membersData, ← Table.leaves, ih]; rfl

theorem membersData_sections (sections : List (String × Rows)) :
    membersData (sections.map fun s => (s.1, .table .header (Table.leaves s.2))) =
      sections.map fun s => (s.1, .record s.2) := by
  induction sections with
  | nil => rfl
  | cons s sections ih => rw [List.map_cons, membersData, ih, data, membersData_leaves]; rfl

end Node

theorem ofStatements?_sections {rows : Rows} {sections : List (String × Rows)}
    (hn : (rows.names ++ sections.map (·.1)).Nodup) (hs : ∀ s ∈ sections, s.2.names.Nodup) :
    ofStatements? (Statement.assignments rows ++ sections.flatMap Statement.ofSection) =
      some (.record (rows ++ sections.map fun s => (s.1, .record s.2))) := by
  have hp (f : Table → Option Table) (t : Table) : (id t).within f [] = id <$> f t := (id_map (f t)).symm
  have hr : (Statement.assignments rows).foldlM Builder.step {} = some ⟨Table.leaves rows, []⟩ :=
    Builder.foldlM_assignments hp (List.nodup_append.mp hn).1
  have hm : (Table.leaves rows).names = rows.names := by simp [Table.leaves, Table.names, Rows.names]
  have ⟨path, hs⟩ := Builder.foldlM_flatMap_ofSection [] (hm ▸ hn) hs
  rw [ofStatements?, List.foldlM_append, hr]
  simp only [Option.bind_eq_bind, Option.bind_some, hs, Table.data, Node.membersData_append,
    Node.membersData_leaves, Node.membersData_sections]
  rfl

end RequestQuery.Toml
