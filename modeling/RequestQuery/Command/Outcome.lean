import RequestQuery.Command.Arguments
import RequestQuery.Command.Trouble
import RequestQuery.Json.Writer
import RequestQuery.Log.Channel
import RequestQuery.Stored
import RequestQuery.Trace

namespace RequestQuery

structure Outcome where
  exit   : Nat := 0
  stdout : String := ""
  stderr : String := ""
  deriving DecidableEq

-- A schema as it was found.
structure SchemaText where
  path : String
  text : String
  deriving DecidableEq

namespace SchemaText

def registry (s : SchemaText) : Except Trouble Registry :=
  match Registry.ofToml s.text with
  | .ok registry   => .ok registry
  | .error failure => .error (.unreadable .schema s.path failure)

-- The entity of a name. A schema that defines no entity at all is told apart.
def entity (s : SchemaText) (name : String) : Except Trouble Entity := do
  let registry ← s.registry
  if registry.isEmpty then
    .error (.noEntities s.path)
  else match registry.get? name with
    | some entity => .ok entity
    | none        => .error (.unknownEntity name registry.names)

end SchemaText

namespace Command

-- The schema named on the command line comes before that of the settings.
def schemaPath? (c : Command) (s : Settings) : Option String :=
  c.schema.or s.schemaPath

-- The answer on the standard output, with the exit status. A refused query is answered by what the
-- outside is told about it.
def answer (c : Command) (options : ReadingOptions) (entity : Entity) : Outcome :=
  match c.query with
  | none => { stdout := String.join (entity.fields.names.map (· ++ "\n")) }
  | some query =>
    match Query.ofBag entity options (.ofQuery query) with
    | .ok query        => { stdout := Json.pretty query.toData ++ "\n" }
    | .error rejection => { exit := 2, stdout := Json.pretty rejection.publicReport.toData ++ "\n" }

def outcome (c : Command) (options : ReadingOptions) (schema : Except Trouble SchemaText) : Outcome :=
  match schema >>= (·.entity c.entity) with
  | .ok entity     => c.answer options entity
  | .error trouble => { exit := 1, stderr := trouble.told }

-- What is logged about the schema and the query.
def records (c : Command) (options : ReadingOptions) (schema : SchemaText) : List Log.Record :=
  Trace.schema schema.text ++
    match schema.entity c.entity, c.query with
    | .ok entity, some query => Trace.query entity options (.ofQuery query)
    | _, _ => []

variable {m : Type → Type} [Monad m] [FileAccess m]

def settings (c : Command) : m (Except Trouble Settings) := do
  match c.config with
  | none => return .ok {}
  | some path => return (← Settings.load path).mapError (.unreadable .config path)

def schemaText (c : Command) (s : Settings) : m (Except Trouble SchemaText) := do
  match c.schemaPath? s with
  | none => return .error .noSchemaPath
  | some path =>
    match ← readText path with
    | .ok text       => return .ok ⟨path, text⟩
    | .error failure => return .error (.unreadable .schema path failure)

def run (c : Command) : m Outcome := do
  match ← c.settings with
  | .error trouble => return { exit := 1, stderr := trouble.told }
  | .ok settings =>
    match ← Log.Channel.start settings.log with
    | .error failure => return { exit := 1, stderr := (Trouble.log failure).told }
    | .ok (channel, opening) =>
      let schema ← c.schemaText settings
      let records := (schema.toOption.map (c.records settings.reading)).getD []
      let (_, log) ← channel.write records
      let outcome := c.outcome settings.reading schema
      return { outcome with stderr := opening ++ log ++ outcome.stderr }

end Command

namespace Outcome

def version : String :=
  "query-filter 0.1.0\n"

def usage : String :=
  "Usage: query-filter parse [OPTIONS] --entity <ENTITY> <QUERY>\n" ++
  "       query-filter fields [OPTIONS] --entity <ENTITY>\n\n" ++
  "Options:\n" ++
  "  -s, --schema <SCHEMA>\n" ++
  "  -e, --entity <ENTITY>\n" ++
  "  -c, --config <CONFIG>\n" ++
  "  -h, --help\n" ++
  "  -V, --version\n"

variable {m : Type → Type} [Monad m] [FileAccess m]

def ofArguments : Arguments → m Outcome
  | .run command => command.run
  | .version     => return { stdout := version }
  | .help        => return { stdout := usage }
  | .unusable    => return { exit := 2, stderr := usage }

end Outcome

end RequestQuery
