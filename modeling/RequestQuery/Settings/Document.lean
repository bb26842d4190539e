import RequestQuery.Failure
import RequestQuery.Settings
import RequestQuery.Schema.Registry
import RequestQuery.Toml.Document
import RequestQuery.Toml.Quoted

namespace RequestQuery

-- Reads a document into what `ofData?` makes of it.
def readDocument {α : Type} (ofData? : Data → Option α) (text : String) : Except Failure α :=
  match Toml.ofText? text >>= ofData? with
  | some a => .ok a
  | none   => .error .document

namespace Settings

def ofToml (text : String) : Except Failure Settings :=
  readDocument (ofData? .ignored) text

def textLine (key value : String) : List Char :=
  key.toList ++ " = ".toList ++ Toml.Quoted.chars value.toList ++ ['\n']

def sizeLine (key : String) (value : UInt64) : List Char :=
  key.toList ++ " = ".toList ++ (Decimal.Digit.ofNat value.toNat).map Decimal.Digit.char ++ ['\n']

def logLines (s : LogSettings) : List Char :=
  "[log]\n".toList
    ++ textLine "level" s.level
    ++ (s.dir.map (textLine "dir")).getD []
    ++ textLine "file" s.file
    ++ sizeLine "max_file_size" s.maxFileSize
    ++ sizeLine "max_files" s.maxFiles

def readingLines (o : ReadingOptions) : List Char :=
  "[parser]\nstrict_bounds = ".toList
    ++ (if o.strictBounds then "true\n" else "false\n").toList

-- The document that holds every setting; a path that is not set has no line.
def toml (s : Settings) : String :=
  .ofList <| (s.schemaPath.map fun path => textLine "schema_path" path ++ ['\n']).getD []
    ++ logLines s.log ++ '\n' :: readingLines s.reading

end Settings

namespace Registry

-- The entities of a document, without regard to what may be registered.
def listed (text : String) : Except Failure (List Entity) :=
  readDocument (listed? .ignored) text

-- The entities of a document, registered in order.
def ofToml (text : String) : Except Failure Registry := do
  let entities ← listed text
  (ofEntities entities).mapError Fault.failure

end Registry

end RequestQuery
