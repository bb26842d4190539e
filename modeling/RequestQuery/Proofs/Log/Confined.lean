import Mathlib.Data.List.Sort
import RequestQuery.Log.Channel
import RequestQuery.Proofs.Decimal.Literal
import RequestQuery.Proofs.Files.Confined

namespace RequestQuery

open FileTree (Confined destination)

namespace Log

variable {base directory name : String} {names : List String} {here : Location} {ways : Location → Prop}

-- Where the log files of a base may be, as seen from a working directory.
inductive FilePlace (here : Location) (directory base : String) : Location → Prop
  | current : FilePlace here directory base (destination here (directory ++ "/" ++ FileName.current base))
  | numbered (n : Nat) :
      FilePlace here directory base (destination here (directory ++ "/" ++ FileName.numbered base n))
  | putAside {extension name : String} (he : extension = "log" ∨ extension = "gz")
      (h : FileName.isPutAside base extension name) :
      FilePlace here directory base (destination here directory ++ [name])

theorem filePlace_of_mem_putAside (h : name ∈ FileName.putAside base names) :
    FilePlace here directory base (destination here directory ++ [name]) := by
  simp only [FileName.putAside, List.mem_flatMap, List.mem_mergeSort, List.mem_filter] at h
  obtain ⟨extension, he, _, h⟩ := h
  exact .putAside (by simpa using he) h

namespace Rotation

variable {r : Rotation} {line : String}

theorem confined_cleanUp :
    Confined here (FilePlace here r.directory r.base) ways r.cleanUp fun _ => True :=
  FileTree.confined_names.bind fun _ _ => .forIn fun _ hn =>
    FileTree.confined_remove (filePlace_of_mem_putAside (List.mem_of_mem_drop hn))

theorem confined_nextNumber :
    Confined here (FilePlace here r.directory r.base) ways r.nextNumber fun _ => True := by
  rw [nextNumber]
  cases r.next
  case some n => exact .pure trivial
  case none   =>
    exact FileTree.confined_names.bind fun _ _ => confined_cleanUp.bind fun _ _ => .pure trivial

def Belongs (directory base : String) (r : Rotation) : Prop :=
  r.directory = directory ∧ r.base = base

theorem confined_writeLine (h : r.Belongs directory base) :
    Confined here (FilePlace here directory base) ways (r.writeLine line) (Belongs directory base) := by
  obtain ⟨rfl, rfl⟩ := h
  refine confined_nextNumber.bind fun n _ => FileTree.confined_read.bind fun found _ => ?_
  dsimp only
  split_ifs
  case pos =>
    refine (FileTree.confined_write (.numbered n)).discard.bind fun _ _ => ?_
    refine (FileTree.confined_write .current).discard.bind fun _ _ => ?_
    exact confined_cleanUp.bind fun _ _ => .pure ⟨rfl, rfl⟩
  case neg => exact (FileTree.confined_write .current).discard.bind fun _ _ => .pure ⟨rfl, rfl⟩

theorem confined_foldlM_writeLine {lines : List String} (h : r.Belongs directory base) :
    Confined here (FilePlace here directory base) ways (lines.foldlM writeLine r) fun _ => True :=
  (Confined.foldlM (fun _ _ _ => confined_writeLine) h).mono fun _ _ => trivial

end Rotation

end Log

namespace LogSettings

def Writes (s : LogSettings) (here location : Location) : Prop :=
  ∃ directory ∈ s.dir, Log.FilePlace here directory s.file location

variable {s : LogSettings} {tree : FileTree} {directory path : String} {here location : Location}

end LogSettings

namespace Log.Channel

variable {s : LogSettings} {c : Channel} {records : List Record}
variable {here : Location} {ways : Location → Prop}

-- Its files are those of the settings.
def Belongs (s : LogSettings) (c : Channel) : Prop :=
  ∀ r ∈ c.files, ∃ directory ∈ s.dir, r.Belongs directory s.file

theorem confined_write (h : c.Belongs s) :
    Confined here (s.Writes here) ways (c.write records) fun _ => True := by
  rw [write]
  cases hf : c.files
  case none   => exact .pure trivial
  case some r =>
    obtain ⟨directory, hd, hr⟩ := h r hf
    refine (Rotation.confined_foldlM_writeLine hr).weaken ?_ |>.bind fun _ _ => .pure trivial
    exact fun l hl => ⟨directory, hd, hl⟩

end Log.Channel

end RequestQuery
