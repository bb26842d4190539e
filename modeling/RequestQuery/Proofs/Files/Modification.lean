import RequestQuery.Proofs.Files.Tree

namespace RequestQuery

namespace FileTree

variable {tree tree' tree'' : FileTree} {location : Location} {node : FileNode} {path name : String}
variable {bytes : List UInt8} {files ways : Location → Prop}

-- All that may change is the files at some places, and some places may become directories.
structure ModifiesOnly (files ways : Location → Prop) (tree tree' : FileTree) : Prop where
  here : tree'.workingDirectory = tree.workingDirectory
  kept : ∀ l, tree.node? l = some .directory → tree'.node? l = some .directory
  made : ∀ l, tree'.node? l = some .directory → tree.node? l = some .directory ∨ ways l
  file : ∀ l bytes, ¬files l → (tree'.node? l = some (.file bytes) ↔ tree.node? l = some (.file bytes))

namespace ModifiesOnly

theorem refl (files ways : Location → Prop) (tree : FileTree) : ModifiesOnly files ways tree tree where
  here         := rfl
  kept _ h     := h
  made _ h     := .inl h
  file _ _ _   := .rfl

theorem trans (h : ModifiesOnly files ways tree tree') (h' : ModifiesOnly files ways tree' tree'') :
    ModifiesOnly files ways tree tree'' where
  here            := h'.here.trans h.here
  kept l hl       := h'.kept l (h.kept l hl)
  made l hl       := (h'.made l hl).elim (h.made l) .inr
  file l bytes hl := (h'.file l bytes hl).trans (h.file l bytes hl)

theorem weaken {files' : Location → Prop} (h : ModifiesOnly files ways tree tree')
    (hf : ∀ l, files l → files' l) : ModifiesOnly files' ways tree tree' where
  here            := h.here
  kept            := h.kept
  made            := h.made
  file l bytes hl := h.file l bytes (mt (hf _) hl)

-- A tree that is changed at one place only.
theorem of_node?_eq (here : tree'.workingDirectory = tree.workingDirectory)
    (h : ∀ l ≠ location, tree'.node? l = tree.node? l)
    (kept : tree.node? location = some .directory → tree'.node? location = some .directory)
    (made : tree'.node? location = some .directory →
      tree.node? location = some .directory ∨ ways location)
    (file : ∀ bytes, ¬files location →
      (tree'.node? location = some (.file bytes) ↔ tree.node? location = some (.file bytes))) :
    ModifiesOnly files ways tree tree' := by
  refine ⟨here, fun l hd => ?kept, fun l hd => ?made, fun l bytes hf => ?file⟩
  case kept =>
    obtain rfl | hl := eq_or_ne l location
    · exact kept hd
    · exact (h l hl).trans hd
  case made =>
    obtain rfl | hl := eq_or_ne l location
    · exact made hd
    · exact .inl ((h l hl).symm.trans hd)
  case file =>
    obtain rfl | hl := eq_or_ne l location
    · exact file bytes hf
    · rw [h l hl]

theorem putFile (h : tree.node? location ≠ some .directory) (hf : files location) :
    ModifiesOnly files ways tree (tree.put location (.file bytes)) := by
  refine of_node?_eq rfl (fun l => node?_put_of_ne) (absurd · h) ?_ (fun _ => absurd hf)
  simp [node?_put_self (ne_nil_of_node?_ne h)]

theorem erase (h : tree.node? location = some (.file bytes)) (hf : files location) :
    ModifiesOnly files ways tree (tree.erase location) := by
  have hd : tree.node? location ≠ some .directory := by simp [h]
  refine of_node?_eq rfl (fun l => node?_erase_of_ne) (absurd · hd) ?_ (fun _ => absurd hf)
  simp [node?_erase_self (ne_nil_of_node?_ne hd)]

-- What lies clear of all changes is read as before.
theorem read_eq_ok_iff (h : ModifiesOnly files ways tree tree')
    (hw : ∀ l, ways l → l ∈ visited tree.workingDirectory path → tree.checkDirectory l = .ok ())
    (hf : ¬files (destination tree.workingDirectory path)) :
    tree'.read path = .ok bytes ↔ tree.read path = .ok bytes where
  mp  := by
    refine read_of_visited h.here.symm (fun l hl hd => ?_) ?_
    · rw [h.here] at hl
      exact (h.made l hd).elim id fun hm => checkDirectory_eq_ok_iff.mp (hw l hm hl)
    · rw [h.here]
      exact (h.file _ bytes hf).mp
  mpr := read_of_visited h.here (fun l _ => h.kept l) (h.file _ bytes hf).mpr

end ModifiesOnly

end FileTree

end RequestQuery
