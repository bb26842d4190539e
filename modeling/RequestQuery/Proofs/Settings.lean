import RequestQuery.Settings.Document
import RequestQuery.Proofs.Data.Members
import RequestQuery.Proofs.Toml.Statement

namespace RequestQuery

open Toml (Rows Bare Says Statement)

variable {surplus : Surplus}

theorem Data.size?_integer (n : UInt64) : size? (integer n.toNat) = some n := by
  have h : (0 : Int) ≤ n.toNat ∧ (n.toNat : Int) < UInt64.size := by
    have h := n.toNat_lt
    simp [UInt64.size]
    omega
  rw [size?, if_pos h]
  simp

theorem Data.orElse_size? (n absent : UInt64) : orElse size? absent (some (.integer n.toNat)) = some n := by
  rw [orElse_some, size?_integer]

namespace LogSettings

variable (s : LogSettings)

def rows : Rows :=
  ("level", .text s.level) :: textMember? "dir" s.dir ++ [("file", .text s.file),
    ("max_file_size", .integer s.maxFileSize.toNat), ("max_files", .integer s.maxFiles.toNat)]

theorem toData_eq : s.toData = .record s.rows :=
  rfl

theorem nodup_names_rows : s.rows.names.Nodup := by
  rcases s with ⟨_, _ | _, _, _, _⟩ <;> simp [rows, Rows.names, textMember?]

theorem lookup_rows :
    s.rows.lookup "level" = some (.text s.level) ∧ s.rows.lookup "dir" = s.dir.map .text ∧
      s.rows.lookup "file" = some (.text s.file) ∧
      s.rows.lookup "max_file_size" = some (.integer s.maxFileSize.toNat) ∧
      s.rows.lookup "max_files" = some (.integer s.maxFiles.toNat) := by
  rcases s with ⟨_, _ | _, _, _, _⟩ <;> simp [rows, textMember?, SortedMap.lookup_cons]

theorem ofData?_toData : ofData? surplus s.toData = some s := by
  have ⟨hlevel, hdir, hfile, hsize, hfiles⟩ := s.lookup_rows
  rw [ofData?, toData_eq, Data.members?_record s.nodup_names_rows]
  simp only [Option.bind_eq_bind, Option.bind_some, hlevel, hdir, hfile, hsize, hfiles, Data.orElse_some,
    Data.orElse_optionalText?, Data.text?, Data.size?_integer]
  rfl

end LogSettings

theorem ReadingOptions.ofData?_toData (o : ReadingOptions) : ofData? surplus o.toData = some o := by
  have hn : ([("strict_bounds", Data.boolean o.strictBounds)].map (·.1)).Nodup := List.nodup_singleton _
  rw [ofData?, toData, Data.members?_record hn]
  simp [SortedMap.lookup_cons, Data.orElse_some, Data.boolean?]

namespace Settings

variable (s : Settings)

def rows : Rows :=
  textMember? "schema_path" s.schemaPath

def sections : List (String × Rows) :=
  [("log", s.log.rows), ("parser", [("strict_bounds", .boolean s.reading.strictBounds)])]

def members : Rows :=
  s.rows ++ s.sections.map fun s => (s.1, .record s.2)

theorem toData_eq : s.toData = .record s.members :=
  rfl

theorem nodup_names : (s.rows.names ++ s.sections.map (·.1)).Nodup := by
  rcases s with ⟨_ | _, _, _⟩ <;> simp [rows, sections, Rows.names, textMember?]

theorem lookup_members :
    s.members.lookup "schema_path" = s.schemaPath.map .text ∧
      s.members.lookup "log" = some s.log.toData ∧ s.members.lookup "parser" = some s.reading.toData := by
  rcases s with ⟨_ | _, _, _⟩ <;>
    simp [members, rows, sections, textMember?, SortedMap.lookup_cons, LogSettings.toData_eq,
      ReadingOptions.toData]

theorem ofData?_toData : ofData? surplus s.toData = some s := by
  have hn : s.members.map (·.1) = s.rows.names ++ s.sections.map (·.1) := by
    rw [members, List.map_append, List.map_map]
    rfl
  have ⟨hpath, hlog, hparser⟩ := s.lookup_members
  rw [ofData?, toData_eq, Data.members?_record (hn ▸ s.nodup_names)]
  simp only [Option.bind_eq_bind, Option.bind_some, hpath, hlog, hparser, Data.orElse_some,
    Data.orElse_optionalText?, LogSettings.ofData?_toData, ReadingOptions.ofData?_toData]
  rfl

theorem says_textLine (key : String) (h : Bare key) (value : String) :
    Says (textLine key value) (Statement.assignments [(key, .text value)]) := by
  have hr := Says.row h (Toml.denotes_chars value.toList)
  rwa [String.ofList_toList] at hr

theorem says_sizeLine (key : String) (h : Bare key) (n : UInt64) :
    Says (sizeLine key n) (Statement.assignments [(key, .integer n.toNat)]) :=
  Says.row h (Toml.denotes_size n)

theorem says_logLines (s : LogSettings) : Says (logLines s) (Statement.ofSection ("log", s.rows)) := by
  have hlog : Says "[log]\n".toList [.table ["log"]] := Says.header "log" (by decide)
  have hdir : Says ((s.dir.map (textLine "dir")).getD [])
      (Statement.assignments (textMember? "dir" s.dir)) := by
    cases s.dir
    case none => exact .nil
    case some dir => exact says_textLine "dir" (by decide) dir
  have hlevel := says_textLine "level" (by decide) s.level
  have hfile := says_textLine "file" (by decide) s.file
  have hsize := says_sizeLine "max_file_size" (by decide) s.maxFileSize
  have hfiles := says_sizeLine "max_files" (by decide) s.maxFiles
  have hs := ((((hlog.append hlevel).append hdir).append hfile).append hsize).append hfiles
  have he : Statement.ofSection ("log", s.rows) =
      [Statement.table ["log"]] ++ Statement.assignments [("level", .text s.level)] ++
        Statement.assignments (textMember? "dir" s.dir) ++ Statement.assignments [("file", .text s.file)] ++
        Statement.assignments [("max_file_size", .integer s.maxFileSize.toNat)] ++
        Statement.assignments [("max_files", .integer s.maxFiles.toNat)] := by
    simp [Statement.ofSection, Statement.assignments, LogSettings.rows]
  exact he ▸ hs

theorem readingLines_eq (o : ReadingOptions) :
    readingLines o = '[' :: "parser".toList ++ "]\n".toList ++ ("strict_bounds".toList ++ " = ".toList ++
      (if o.strictBounds then "true".toList else "false".toList) ++ ['\n']) := by
  rcases o with ⟨_ | _⟩ <;> decide

theorem says_readingLines (o : ReadingOptions) :
    Says (readingLines o) (Statement.ofSection ("parser", [("strict_bounds", .boolean o.strictBounds)])) := by
  have hs := (Says.header "parser" (by decide)).append
    (Says.row (by decide : Bare "strict_bounds") (Toml.denotes_boolean o.strictBounds))
  exact readingLines_eq o ▸ hs

theorem says_toml :
    Says s.toml.toList (Statement.assignments s.rows ++ s.sections.flatMap Statement.ofSection) := by
  have hpath : Says ((s.schemaPath.map fun path => textLine "schema_path" path ++ ['\n']).getD [])
      (Statement.assignments s.rows) := by
    rw [rows]
    cases s.schemaPath
    case none => exact .nil
    case some path => exact (says_textLine "schema_path" (by decide) path).append .blank
  have hs := (hpath.append (says_logLines s.log)).append (Says.blank.append (says_readingLines s.reading))
  have he : s.sections.flatMap Statement.ofSection = Statement.ofSection ("log", s.log.rows) ++
      Statement.ofSection ("parser", [("strict_bounds", .boolean s.reading.strictBounds)]) := by
    simp [sections]
  rw [toml, String.toList_ofList, he, ← List.append_assoc]
  exact hs

-- The first line is a header or the path, so that no byte order mark can be seen in front.
theorem head?_toml : s.toml.toList.head? ≠ some '\uFEFF' := by
  have front {c : Char} {cs : List Char} (rest : List Char) (h : c ∈ cs.head?) : c ∈ (cs ++ rest).head? :=
    List.mem_head?_append_of_mem_head? h
  rw [toml, String.toList_ofList]
  cases s.schemaPath
  case none =>
    have hl : '[' ∈ "[log]\n".toList.head? := by decide
    have hl : '[' ∈ (logLines s.log).head? := front _ (front _ (front _ (front _ (front _ hl))))
    rw [Option.map_none, Option.getD_none, List.nil_append, front _ hl]
    decide
  case some path =>
    have hp : 's' ∈ "schema_path".toList.head? := by decide
    have hp : 's' ∈ (textLine "schema_path" path).head? := front _ (front _ (front _ hp))
    rw [Option.map_some, Option.getD_some, front _ (front _ (front _ hp))]
    decide

theorem ofText?_toml : Toml.ofText? s.toml = some s.toData := by
  have hs : ∀ t ∈ s.sections, t.2.names.Nodup := by
    simp only [sections, List.forall_mem_cons]
    exact ⟨s.log.nodup_names_rows, List.nodup_singleton _, nofun⟩
  rw [Toml.ofText?_of_says s.head?_toml s.says_toml, Toml.ofStatements?_sections s.nodup_names hs, toData_eq,
    members]

theorem ofToml_toml : ofToml s.toml = .ok s := by
  rw [ofToml, readDocument, ofText?_toml]
  simp [ofData?_toData]

end Settings

end RequestQuery
