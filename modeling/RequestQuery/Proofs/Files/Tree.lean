import Mathlib.Data.List.Basic
import RequestQuery.Proofs.Files.Place

namespace RequestQuery.FileTree

variable {tree tree' : FileTree} {location location' : Location} {node : FileNode}
variable {path name : String} {bytes : List UInt8}

theorem node?_of_ne_nil (h : location ≠ []) : tree.node? location = tree.nodes.lookup location := by
  cases location
  case nil => contradiction
  case cons => rfl

theorem node?_put_self (h : location ≠ []) : (tree.put location node).node? location = some node := by
  rw [node?_of_ne_nil h, put, List.lookup_cons_self]

theorem lookup_filter_ne (h : location' ≠ location) (nodes : List (Location × FileNode)) :
    (nodes.filter (·.1 != location)).lookup location' = nodes.lookup location' := by
  induction nodes with
  | nil => rfl
  | cons n nodes ih =>
    have ⟨l, node⟩ := n
    by_cases hl : l = location
    case pos =>
      have hn : location' ≠ l := hl ▸ h
      simp [hl, List.lookup_cons, beq_false_of_ne h, ih]
    case neg => simp [hl, List.lookup_cons, ih]

theorem node?_put_of_ne (h : location' ≠ location) :
    (tree.put location node).node? location' = tree.node? location' := by
  by_cases hl : location' = []
  case pos => rw [hl]; rfl
  case neg =>
    rw [node?_of_ne_nil hl, node?_of_ne_nil hl, put, List.lookup_cons, beq_false_of_ne h]
    exact lookup_filter_ne h tree.nodes

theorem node?_erase_self (h : location ≠ []) : (tree.erase location).node? location = none := by
  rw [node?_of_ne_nil h, erase, List.lookup_eq_none_iff]
  intro n hn
  have ⟨_, hl⟩ := List.mem_filter.mp hn
  exact bne_iff_ne.mpr (bne_iff_ne.mp hl).symm

theorem node?_erase_of_ne (h : location' ≠ location) :
    (tree.erase location).node? location' = tree.node? location' := by
  by_cases hl : location' = []
  case pos => rw [hl]; rfl
  case neg =>
    rw [node?_of_ne_nil hl, node?_of_ne_nil hl]
    exact lookup_filter_ne h tree.nodes

theorem ne_nil_of_node?_ne (h : tree.node? location ≠ some .directory) : location ≠ [] := by
  rintro rfl
  exact h rfl

theorem workingDirectory_put (tree : FileTree) (location : Location) (node : FileNode) :
    (tree.put location node).workingDirectory = tree.workingDirectory :=
  rfl

-- A file takes the place of no directory, so that every directory that was there still is.
theorem node?_put_of_directory (h : tree.node? location ≠ some .directory)
    (hd : tree.node? location' = some .directory) :
    (tree.put location node).node? location' = some .directory := by
  have hn : location' ≠ location := by
    rintro rfl
    exact h hd
  rw [node?_put_of_ne hn, hd]

theorem resolve_put (h : tree.node? location ≠ some .directory) (hr : tree.resolve path = .ok location') :
    (tree.put location node).resolve path = .ok location' :=
  resolve_of_visited (tree.workingDirectory_put ..) (fun _ _ => node?_put_of_directory h) hr

-- The path of a file, or of nothing in a directory that is there.
structure LeadsTo (tree : FileTree) (path : String) (location : Location) : Prop where
  slash   : endsInSlash path = false
  resolve : tree.resolve path = .ok location
  node    : tree.node? location ≠ some .directory

-- Without a slash at the end there is a last name.
theorem steps_eq_concat (h : endsInSlash path = false) (hp : path ≠ "") :
    ∃ names name, steps path = names ++ [name] ∧ name.isEmpty = false := by
  have hc : path.toList ≠ [] := by simpa using hp
  have hl : ∀ c ∈ path.toList.getLast?, (c == '/') = false := by
    intro c hc
    simpa [endsInSlash, Option.mem_def.mp hc] using h
  have hn := Text.nil_notMem_getLast?_splitOnP hc hl
  have ⟨pieces, last, hs⟩ := (path.toList.splitOn '/').eq_nil_or_concat'.resolve_left
    (List.splitOnP_ne_nil _ _)
  rw [← List.splitOn, hs, List.getLast?_concat] at hn
  refine ⟨pieces.map .ofList, .ofList last, ?_, ?_⟩
  · rw [steps, hs, List.map_append, List.map_singleton]
  · simpa using hn

theorem checkDirectory_bind_step {α : Type} (f : Location → Except FileFault α) :
    (do tree.checkDirectory location; tree.step location name >>= f) = tree.step location name >>= f := by
  rw [step]
  cases tree.checkDirectory location <;> rfl

-- The tree after writing to a place.
def store (tree : FileTree) (bytes : List UInt8) (location : Location) : Except FileFault FileTree :=
  if tree.node? location = some .directory then .error .isDirectory
  else .ok (tree.put location (.file bytes))

-- Where a path without a slash at the end leads is where its file is written.
theorem write_eq (h : endsInSlash path = false) :
    tree.write path bytes = tree.resolve path >>= tree.store bytes := by
  by_cases hp : path = ""
  case pos => rw [hp]; rfl
  case neg =>
    have ⟨names, name, hs, hn⟩ := steps_eq_concat h hp
    have hr : ((steps path).reverse.dropWhile String.isEmpty).reverse = names ++ [name] := by
      simp [hs, hn]
    rw [write, resolve, hr, hs]
    simp only [List.dropLast_concat, List.getLastD_concat, List.foldlM_append, List.foldlM_cons,
      List.foldlM_nil, bind_assoc, bind_pure, checkDirectory_bind_step, h, Bool.false_eq_true, if_false]
    rfl

theorem write_eq_ok_iff :
    tree.write path bytes = .ok tree' ↔
      ∃ location, tree.LeadsTo path location ∧ tree.put location (.file bytes) = tree' where
  mp h := by
    have hs : endsInSlash path = false := by
      rw [Bool.eq_false_iff]
      intro hs
      simp [write, bind_eq_ok_iff, hs] at h
    rw [write_eq hs, bind_eq_ok_iff] at h
    have ⟨location, hr, h⟩ := h
    rw [store] at h
    split at h
    case isTrue     => cases h
    case isFalse hn => exact ⟨location, ⟨hs, hr, hn⟩, Except.ok.inj h⟩
  mpr h := by
    have ⟨location, hl, hp⟩ := h
    rw [write_eq hl.slash, hl.resolve, ← hp]
    exact if_neg hl.node

theorem read_write (h : tree.write path bytes = .ok tree') : tree'.read path = .ok bytes := by
  have ⟨location, hl, hp⟩ := write_eq_ok_iff.mp h
  rw [← hp, read_eq_ok_iff]
  exact ⟨location, resolve_put hl.node hl.resolve, node?_put_self (ne_nil_of_node?_ne hl.node)⟩

end RequestQuery.FileTree
