import Mathlib.Data.Finset.Insert
import RequestQuery.Proofs.Exchange

namespace RequestQuery

open Toml (Bare Says)

-- What a document may set.
inductive Setting
  | schemaPath
  | level
  | dir
  | file
  | maxFileSize
  | maxFiles
  | strictBounds
  deriving DecidableEq

-- The table that a setting stands in, if it is not the outermost one, and its name there.
def Setting.path : Setting → List String
  | schemaPath   => ["schema_path"]
  | level        => ["log", "level"]
  | dir          => ["log", "dir"]
  | file         => ["log", "file"]
  | maxFileSize  => ["log", "max_file_size"]
  | maxFiles     => ["log", "max_files"]
  | strictBounds => ["parser", "strict_bounds"]

namespace Settings

variable {s s' : Settings} {mentioned : Finset Setting} {d : Data} {surplus : Surplus}
  {members : List (String × Data)} {table : String}

-- The value that sets a setting to what it is. A path that is not there has none.
def value? (s : Settings) : Setting → Option Data
  | .schemaPath   => s.schemaPath.map .text
  | .level        => some (.text s.log.level)
  | .dir          => s.log.dir.map .text
  | .file         => some (.text s.log.file)
  | .maxFileSize  => some (.integer s.log.maxFileSize.toNat)
  | .maxFiles     => some (.integer s.log.maxFiles.toNat)
  | .strictBounds => some (.boolean s.reading.strictBounds)

-- A tree of tables that assigns some settings, each once and as it is in `s`, and none of the others. A table
-- may be missing, and anything may stand under other names.
structure Assigned (s : Settings) (mentioned : Finset Setting) (d : Data) : Prop where
  root     : ∃ members, d = .record members
  tables   : ∀ table ∈ ["log", "parser"],
    d.valuesAt [table] = [] ∨ ∃ members, d.valuesAt [table] = [.record members]
  assigned : ∀ setting ∈ mentioned,
    ∃ value, s.value? setting = some value ∧ d.valuesAt setting.path = [value]
  others   : ∀ setting ∉ mentioned, d.valuesAt setting.path = []

-- What a tree says about a setting, if anything.
def mention (s : Settings) (mentioned : Finset Setting) (setting : Setting) : Option Data :=
  if setting ∈ mentioned then s.value? setting else none

-- The mentioned settings as they are in `s`, and all others as they are by default.
def restrictedTo (s : Settings) (mentioned : Finset Setting) : Settings :=
  let default : Settings := {}
  { schemaPath := if .schemaPath ∈ mentioned then s.schemaPath else default.schemaPath
    log := {
      level       := if .level ∈ mentioned then s.log.level else default.log.level
      dir         := if .dir ∈ mentioned then s.log.dir else default.log.dir
      file        := if .file ∈ mentioned then s.log.file else default.log.file
      maxFileSize := if .maxFileSize ∈ mentioned then s.log.maxFileSize else default.log.maxFileSize
      maxFiles    := if .maxFiles ∈ mentioned then s.log.maxFiles else default.log.maxFiles }
    reading := {
      strictBounds :=
        if .strictBounds ∈ mentioned then s.reading.strictBounds else default.reading.strictBounds } }

theorem value?_restrictedTo (s : Settings) (mentioned : Finset Setting) (setting : Setting) :
    (s.restrictedTo mentioned).value? setting =
      if setting ∈ mentioned then s.value? setting else ({} : Settings).value? setting := by
  cases setting <;> simp only [value?, restrictedTo] <;> split <;> rfl

-- A member is read as the setting if it is mentioned, and as the default if not.
theorem orElse_mention {α : Type} {absent value : α} (s : Settings) (setting : Setting)
    (read : Data → Option α) (h : Data.orElse read absent (s.value? setting) = some value) :
    Data.orElse read absent (s.mention mentioned setting) =
      some (if setting ∈ mentioned then value else absent) := by
  rw [mention]
  split
  case isTrue  => exact h
  case isFalse => rfl

namespace Assigned

theorem valuesAt_path (h : s.Assigned mentioned d) (setting : Setting) :
    d.valuesAt setting.path = (s.mention mentioned setting).toList := by
  rw [mention]
  split
  case isTrue hm =>
    have ⟨value, hv, hd⟩ := h.assigned setting hm
    rw [hv, hd]
    rfl
  case isFalse hm => exact h.others setting hm

theorem length_valuesAt_table (h : s.Assigned mentioned d) (ht : table ∈ ["log", "parser"]) :
    (d.valuesAt [table]).length ≤ 1 := by
  rcases h.tables table ht with hd | ⟨_, hd⟩ <;> simp [hd]

-- What stands behind the name of a table stands in the table; one that is missing is read as an empty one.
theorem exists_table (h : s.Assigned mentioned d) (ht : table ∈ ["log", "parser"]) :
    ∃ members, (∀ path ≠ [], d.valuesAt (table :: path) = (Data.record members).valuesAt path) ∧
      ∀ {α : Type} (read : Data → Option α) (absent : α), read (.record []) = some absent →
        Data.orElse read absent (d.valuesAt [table]).head? = read (.record members) := by
  rcases h.tables table ht with hd | ⟨members, hd⟩
  case inl =>
    refine ⟨[], fun path hp => ?_, fun _ _ hr => ?_⟩
    · cases path
      case nil  => exact absurd rfl hp
      case cons => rw [Data.valuesAt_cons, hd]; rfl
    · rw [hd, hr]; rfl
  case inr =>
    refine ⟨members, fun path _ => ?_, fun _ _ _ => ?_⟩
    · rw [Data.valuesAt_cons, hd, List.flatMap_singleton]
    · rw [hd]; rfl

section

variable (h : s.Assigned mentioned d)
  (hv : ∀ path ≠ [], d.valuesAt (table :: path) = (Data.record members).valuesAt path)

include h hv

theorem valuesAt_table (setting : Setting) {name : String} (hp : setting.path = [table, name]) :
    (Data.record members).valuesAt [name] = (s.mention mentioned setting).toList := by
  rw [← hv [name] (List.cons_ne_nil _ _), ← hp, h.valuesAt_path]

theorem members?_table {names : List String}
    (hn : ∀ name ∈ names, ∃ setting : Setting, setting.path = [table, name]) :
    (Data.record members).members? surplus names 0 =
      some fun name => ((Data.record members).valuesAt [name]).head? := by
  refine Data.members?_record_of_valuesAt fun name hm => ?_
  have ⟨setting, hp⟩ := hn name hm
  rw [h.valuesAt_table hv setting hp]
  exact Option.length_toList_le

end

theorem ofData?_log (h : s.Assigned mentioned d)
    (hv : ∀ path ≠ [], d.valuesAt ("log" :: path) = (Data.record members).valuesAt path) :
    LogSettings.ofData? surplus (.record members) = some (s.restrictedTo mentioned).log := by
  have hn : ∀ name ∈ LogSettings.memberNames, ∃ setting : Setting, setting.path = ["log", name] := by
    simp only [LogSettings.memberNames, List.forall_mem_cons]
    exact ⟨⟨.level, rfl⟩, ⟨.dir, rfl⟩, ⟨.file, rfl⟩, ⟨.maxFileSize, rfl⟩, ⟨.maxFiles, rfl⟩, nofun⟩
  have hlevel := h.valuesAt_table hv .level rfl
  have hdir := h.valuesAt_table hv .dir rfl
  have hfile := h.valuesAt_table hv .file rfl
  have hsize := h.valuesAt_table hv .maxFileSize rfl
  have hfiles := h.valuesAt_table hv .maxFiles rfl
  rw [LogSettings.ofData?, h.members?_table hv hn]
  simp only [Option.bind_eq_bind, Option.bind_some, hlevel, hdir, hfile, hsize, hfiles,
    Option.head?_toList]
  rw [s.orElse_mention .level Data.text? rfl,
    s.orElse_mention .dir Data.optionalText? (Data.orElse_optionalText? _),
    s.orElse_mention .file Data.text? rfl,
    s.orElse_mention .maxFileSize Data.size? (Data.orElse_size? _ _),
    s.orElse_mention .maxFiles Data.size? (Data.orElse_size? _ _)]
  rfl

theorem ofData?_reading (h : s.Assigned mentioned d)
    (hv : ∀ path ≠ [], d.valuesAt ("parser" :: path) = (Data.record members).valuesAt path) :
    ReadingOptions.ofData? surplus (.record members) = some (s.restrictedTo mentioned).reading := by
  have hn : ∀ name ∈ ["strict_bounds"], ∃ setting : Setting, setting.path = ["parser", name] := by
    simp only [List.forall_mem_cons]
    exact ⟨⟨.strictBounds, rfl⟩, nofun⟩
  have hstrict := h.valuesAt_table hv .strictBounds rfl
  rw [ReadingOptions.ofData?, h.members?_table hv hn]
  simp only [Option.bind_eq_bind, Option.bind_some, hstrict, Option.head?_toList]
  rw [s.orElse_mention .strictBounds Data.boolean? rfl]
  rfl

theorem ofData?_eq (h : s.Assigned mentioned d) :
    ofData? surplus d = some (s.restrictedTo mentioned) := by
  obtain ⟨members, rfl⟩ := h.root
  have logTable : "log" ∈ ["log", "parser"] := by decide
  have parserTable : "parser" ∈ ["log", "parser"] := by decide
  have hpath := h.valuesAt_path .schemaPath
  rw [Setting.path] at hpath
  have hn : ∀ name ∈ memberNames, ((Data.record members).valuesAt [name]).length ≤ 1 := by
    simp only [memberNames, List.forall_mem_cons]
    exact ⟨hpath ▸ Option.length_toList_le, h.length_valuesAt_table logTable,
      h.length_valuesAt_table parserTable, nofun⟩
  have ⟨log, hv, readLog⟩ := h.exists_table logTable
  have hlog := (readLog (LogSettings.ofData? surplus) {} rfl).trans (h.ofData?_log hv)
  have ⟨parser, hv, readParser⟩ := h.exists_table parserTable
  have hreading := (readParser (ReadingOptions.ofData? surplus) {} rfl).trans (h.ofData?_reading hv)
  rw [ofData?, Data.members?_record_of_valuesAt hn]
  simp only [Option.bind_eq_bind, Option.bind_some, hpath, Option.head?_toList, hlog, hreading]
  rw [s.orElse_mention .schemaPath Data.optionalText? (Data.orElse_optionalText? _)]
  rfl

end Assigned

-- Settings with the same values are the same.
theorem ext_value? (h : ∀ setting, s.value? setting = s'.value? setting) : s = s' := by
  have text_inj {a b : Option String} (h : a.map Data.text = b.map Data.text) : a = b :=
    Option.map_injective (fun _ _ => Data.text.inj) h
  have size_inj {a b : UInt64} (h : some (Data.integer a.toNat) = some (.integer b.toNat)) : a = b :=
    UInt64.toNat_inj.mp (Int.ofNat.inj (Data.integer.inj (Option.some.inj h)))
  rcases s with ⟨_, ⟨_, _, _, _, _⟩, ⟨_⟩⟩
  rcases s' with ⟨_, ⟨_, _, _, _, _⟩, ⟨_⟩⟩
  obtain rfl := text_inj (h .schemaPath)
  obtain rfl := Data.text.inj (Option.some.inj (h .level))
  obtain rfl := text_inj (h .dir)
  obtain rfl := Data.text.inj (Option.some.inj (h .file))
  obtain rfl := size_inj (h .maxFileSize)
  obtain rfl := size_inj (h .maxFiles)
  obtain rfl := Data.boolean.inj (Option.some.inj (h .strictBounds))
  rfl

theorem ofToml_and_ofJson?_of_assigned (h : s.Assigned mentioned d) :
    ∃ s' : Settings, (∀ text, Toml.ofText? text = some d → ofToml text = .ok s') ∧
      (∀ text, Json.ofText? text = some d → Exchanged.settings.codec.ofJson? text = some s') ∧
      ∀ setting, s'.value? setting =
        if setting ∈ mentioned then s.value? setting else ({} : Settings).value? setting := by
  refine ⟨s.restrictedTo mentioned, fun text ht => ?_, fun text ht => ?_, value?_restrictedTo s mentioned⟩
  · rw [ofToml, readDocument, ht, Option.bind_eq_bind, Option.bind_some, h.ofData?_eq]
  · rw [Codec.ofJson?, ht, Option.bind_eq_bind, Option.bind_some]
    exact h.ofData?_eq

-- The path and the option that the settings have besides are not mentioned, and the table of the latter is
-- missing.
theorem ofToml_and_ofJson?_of_assigned_log :
    let s : Settings :=
      { schemaPath := some "s.toml", log := { dir := some "", maxFiles := 7 },
        reading := { strictBounds := true } }
    let d : Data :=
      .record [("x", .boolean true), ("log", .record [("max_files", .integer 7), ("dir", .text "")])]
    let toml := "x = true\n[log]\nmax_files = 7\ndir = \"\"\n"
    let json := "\x7b\"x\":true,\"log\":\x7b\"max_files\":7,\"dir\":\"\"\x7d\x7d"
    s.Assigned {.maxFiles, .dir} d ∧ Toml.ofText? toml = some d ∧ Json.ofText? json = some d ∧
      ofToml toml = .ok { log := { dir := some "", maxFiles := 7 } } ∧
      Exchanged.settings.codec.ofJson? json = some { log := { dir := some "", maxFiles := 7 } } := by
  intro s d toml json
  have ht : Toml.ofText? toml = some d := by
    have hs := (((Says.row (by decide : Bare "x") (Toml.denotes_boolean true)).append
      (Says.header "log" (by decide))).append
      (Says.row (by decide : Bare "max_files") (Toml.denotes_size 7))).append
      (Says.row (by decide : Bare "dir") (Toml.denotes_chars []))
    have hs : Says toml.toList _ := Eq.mp (congrArg (Says · _) (by decide +kernel)) hs
    exact (Toml.ofText?_of_says (by decide) hs).trans rfl
  have h : s.Assigned {.maxFiles, .dir} d := by
    refine ⟨⟨_, rfl⟩, ?_, ?_, fun setting hs => ?_⟩
    · simp only [List.forall_mem_cons]
      exact ⟨.inr ⟨_, rfl⟩, .inl rfl, nofun⟩
    · simp only [Finset.mem_insert, Finset.mem_singleton, forall_eq_or_imp, forall_eq]
      exact ⟨⟨_, rfl, rfl⟩, ⟨_, rfl, rfl⟩⟩
    · cases setting
      case maxFiles => exact absurd (by decide) hs
      case dir      => exact absurd (by decide) hs
      all_goals rfl
  have hj : Json.ofText? json = some d := by
    have hw : Json.Writable d := by
      refine .record ?_
      simp only [List.forall_mem_cons]
      refine ⟨.boolean true, .record ?_, nofun⟩
      simp only [List.forall_mem_cons]
      exact ⟨.integer 7, .text "", nofun⟩
    have hc : Json.compact d = json := by decide +kernel
    rw [← hc, Json.ofText?_compact hw]
  have ⟨s', hst, hsj, hv⟩ := ofToml_and_ofJson?_of_assigned h
  have he : s' = { log := { dir := some "", maxFiles := 7 } } := ext_value? fun setting => by
    rw [hv]
    cases setting <;> rfl
  exact ⟨h, ht, hj, he ▸ hst toml ht, he ▸ hsj json hj⟩

end Settings

end RequestQuery
