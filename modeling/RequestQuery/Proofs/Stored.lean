import RequestQuery.Stored
import RequestQuery.Proofs.Files.Tree
import RequestQuery.Proofs.Settings
import RequestQuery.Proofs.Text.Utf8

namespace RequestQuery

open Text (Utf8.encode)

variable {tree tree' : FileTree} {location : Location} {path : String} {bytes : List UInt8}

theorem textOf_encode (text : String) : textOf (Utf8.encode text.toList) = .ok text := by
  rw [textOf, Text.Utf8.decode?_encode]
  exact congrArg Except.ok text.ofList_toList

theorem FileTree.run_bind {α β : Type} (x : StateM FileTree α) (f : α → StateM FileTree β)
    (tree : FileTree) : (x >>= f).run tree = (f (x.run tree).1).run (x.run tree).2 :=
  rfl

theorem run_readText (path : String) (tree : FileTree) :
    (readText path : StateM FileTree _).run tree =
      ((tree.read path >>= textOf).mapError FileFault.failure, tree) :=
  rfl

theorem run_readText_of_read {text : String} (h : tree.read path = .ok (Utf8.encode text.toList)) :
    (readText path : StateM FileTree _).run tree = (.ok text, tree) := by
  have ht : (tree.read path >>= textOf) = .ok text := bind_eq_ok_iff.mpr ⟨_, h, textOf_encode text⟩
  rw [run_readText, ht]
  rfl

theorem run_write (h : tree.write path bytes = .ok tree') :
    (FileAccess.write path bytes : StateM FileTree _).run tree = (.ok (), tree') := by
  simp only [FileAccess.write, StateT.run_bind, StateT.run_get, pure_bind, h]
  rfl

-- What the text of a file is read as.
def FileTree.Holds {α : Type} (tree : FileTree) (path : String) (ofText : String → Except Failure α)
    (a : α) : Prop :=
  ∃ bytes text, tree.read path = .ok bytes ∧ textOf bytes = .ok text ∧ ofText text = .ok a

namespace Settings

variable (s : Settings)

theorem run_save (h : tree.write path (Utf8.encode s.toml.toList) = .ok tree') :
    (s.save path : StateM FileTree _).run tree = (.ok (), tree') := by
  rw [save, StateT.run_bind, run_write h]
  rfl

theorem run_load (h : tree.read path = .ok (Utf8.encode s.toml.toList)) :
    (load path : StateM FileTree _).run tree = (.ok s, tree) := by
  rw [load, StateT.run_bind, run_readText_of_read h]
  exact congrArg (·, tree) s.ofToml_toml

-- Whatever the file held before, the settings that are read from it are those that were written last.
theorem load_save (h : tree.LeadsTo path location) :
    ∃ tree', (s.save path : StateM FileTree _).run tree = (.ok (), tree') ∧
      (load path : StateM FileTree _).run tree' = (.ok s, tree') := by
  let bytes := Utf8.encode s.toml.toList
  have hw : tree.write path bytes = .ok (tree.put location (.file bytes)) :=
    FileTree.write_eq_ok_iff.mpr ⟨location, h, rfl⟩
  exact ⟨_, s.run_save hw, s.run_load (FileTree.read_write hw)⟩

-- The path starts at the root, and the file is nowhere below the working directory.
theorem load_save_replacing :
    let tree : FileTree := {
      nodes := [(["home"], .directory), (["tmp"], .directory), (["tmp", "query.toml"], .file [0xFF, 0x0A])]
      workingDirectory := ["home"] }
    let s : Settings := {
      schemaPath := some "C:\\schemas\\\"users\".toml"
      log := { dir := some "\'\'\'", file := "a\nb\r\u007F", maxFileSize := 18446744073709551615 }
      reading := { strictBounds := true } }
    tree.LeadsTo "/tmp/query.toml" ["tmp", "query.toml"] ∧
      ∃ tree', (s.save "/tmp/query.toml" : StateM FileTree _).run tree = (.ok (), tree') ∧
        (load "/tmp/query.toml" : StateM FileTree _).run tree' = (.ok s, tree') := by
  intro tree s
  have h : tree.LeadsTo "/tmp/query.toml" ["tmp", "query.toml"] := ⟨by decide, by decide, by decide⟩
  exact ⟨h, s.load_save h⟩

end Settings

end RequestQuery
