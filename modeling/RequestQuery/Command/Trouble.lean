import RequestQuery.Failure

namespace RequestQuery

-- The documents that a run reads.
inductive Document
  | config
  | schema
  deriving DecidableEq

def Document.name : Document → String
  | config => "config"
  | schema => "schema"

inductive Trouble
  | unreadable (document : Document) (path : String) (cause : Failure)
  | log (cause : Failure)
  | noSchemaPath
  | noEntities (path : String)
  | unknownEntity (name : String) (known : List String)
  deriving DecidableEq

namespace Trouble

-- What went wrong, without the cause that is told beside it.
def message : Trouble → String
  | unreadable document path _ => s!"failed to load {document.name} {path}"
  | log failure => failure.text
  | noSchemaPath => "no schema file given (use --schema or schema_path in config)"
  | noEntities path => s!"schema {path} defines no entities"
  | unknownEntity name known =>
    let names := ", ".intercalate known
    s!"unknown entity '{name}' (known: {names})"

def cause? : Trouble → Option Failure
  | unreadable _ _ failure => some failure
  | _ => none

-- Each line of a cause is indented.
def indented (text : String) : String :=
  .ofList <| indent ++ text.toList.flatMap fun c => if c = '\n' then c :: indent else [c]
where
  indent : List Char := [' ', ' ', ' ', ' ']

-- A diagnosis ends its own line.
def ending : Trouble → String
  | unreadable _ _ .document => ""
  | _ => "\n"

def told (t : Trouble) : String :=
  let cause := match t.cause? with
    | some failure => "\n\nCaused by:\n" ++ indented failure.text
    | none         => ""
  "Error: " ++ t.message ++ cause ++ t.ending

end Trouble

end RequestQuery
