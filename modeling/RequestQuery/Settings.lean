import RequestQuery.Query

namespace RequestQuery

structure LogSettings where
  level       : String := "info"
  -- without a directory the lines go to the standard error stream
  dir         : Option String := none
  file        : String := "query-filter"
  maxFileSize : UInt64 := 10 * 1024 * 1024
  maxFiles    : UInt64 := 5
  deriving DecidableEq

structure Settings where
  schemaPath : Option String := none
  log        : LogSettings := {}
  reading    : ReadingOptions := {}
  deriving DecidableEq

def textMember? (name : String) (value : Option String) : List (String × Data) :=
  (value.map fun s => (name, Data.text s)).toList

namespace LogSettings

def memberNames : List String :=
  ["level", "dir", "file", "max_file_size", "max_files"]

def toData (s : LogSettings) : Data :=
  .record <| ("level", .text s.level) :: textMember? "dir" s.dir ++ [("file", .text s.file),
    ("max_file_size", .integer s.maxFileSize.toNat), ("max_files", .integer s.maxFiles.toNat)]

def ofData? (surplus : Surplus) (d : Data) : Option LogSettings := do
  let member ← d.members? surplus memberNames 0
  let default : LogSettings := {}
  return {
    level       := ← Data.orElse Data.text? default.level (member "level")
    dir         := ← Data.orElse Data.optionalText? default.dir (member "dir")
    file        := ← Data.orElse Data.text? default.file (member "file")
    maxFileSize := ← Data.orElse Data.size? default.maxFileSize (member "max_file_size")
    maxFiles    := ← Data.orElse Data.size? default.maxFiles (member "max_files")
  }

end LogSettings

namespace ReadingOptions

def toData (o : ReadingOptions) : Data :=
  .record [("strict_bounds", .boolean o.strictBounds)]

def ofData? (surplus : Surplus) (d : Data) : Option ReadingOptions := do
  let member ← d.members? surplus ["strict_bounds"] 0
  return { strictBounds := ← Data.orElse Data.boolean? false (member "strict_bounds") }

end ReadingOptions

namespace Settings

def memberNames : List String :=
  ["schema_path", "log", "parser"]

def toData (s : Settings) : Data :=
  .record <| textMember? "schema_path" s.schemaPath ++ [("log", s.log.toData),
    ("parser", s.reading.toData)]

def ofData? (surplus : Surplus) (d : Data) : Option Settings := do
  let member ← d.members? surplus memberNames 0
  return {
    schemaPath := ← Data.orElse Data.optionalText? none (member "schema_path")
    log        := ← Data.orElse (LogSettings.ofData? surplus) {} (member "log")
    reading    := ← Data.orElse (ReadingOptions.ofData? surplus) {} (member "parser")
  }

end Settings

end RequestQuery
