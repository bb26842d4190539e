namespace RequestQuery

inductive Subcommand
  | parse
  | fields
  deriving DecidableEq

-- How many queries it takes.
def Subcommand.queryCount : Subcommand → Nat
  | parse  => 1
  | fields => 0

inductive OptionName
  | schema
  | entity
  | config
  deriving DecidableEq

namespace OptionName

def all : List OptionName :=
  [schema, entity, config]

def long : OptionName → String
  | schema => "schema"
  | entity => "entity"
  | config => "config"

def short : OptionName → Char
  | schema => 's'
  | entity => 'e'
  | config => 'c'

-- A path must not be empty.
def admits (name : OptionName) (value : String) : Bool :=
  name = entity || !value.isEmpty

end OptionName

structure Command where
  schema : Option String
  config : Option String
  entity : String
  -- only to be given where a query is parsed
  query  : Option String
  deriving DecidableEq

inductive Arguments
  | run (command : Command)
  | version
  | help
  | unusable
  deriving DecidableEq

namespace Arguments

-- What the arguments given so far set.
structure Given where
  options : List (OptionName × String) := []
  queries : List String := []

-- How one argument reads.
inductive Item
  | escape
  -- with the value if it stands in the same argument
  | option (name : OptionName) (value : Option String)
  | help
  | unknown
  | plain (s : String)

-- The text behind an equals sign.
def afterEquals? : List Char → Option String
  | '=' :: cs => some (.ofList cs)
  | _ => none

def readLong (cs : List Char) : Item :=
  let name := cs.takeWhile (· != '=')
  match OptionName.all.find? (·.long.toList == name) with
  | some option => .option option (afterEquals? (cs.dropWhile (· != '=')))
  | none        => if cs = "help".toList then .help else .unknown

def readShort (c : Char) (cs : List Char) : Item :=
  match OptionName.all.find? (·.short == c) with
  | some option =>
    .option option (if cs.isEmpty then none else some ((afterEquals? cs).getD (.ofList cs)))
  | none => if c = 'h' then .help else .unknown

-- An option is written `--name value`, `--name=value`, `-n value`, `-nvalue` or `-n=value`.
def item (argument : String) : Item :=
  match argument.toList with
  | ['-', '-']     => .escape
  | '-' :: '-' :: cs => readLong cs
  | '-' :: c :: cs => readShort c cs
  | _              => .plain argument

def Given.set (g : Given) (name : OptionName) (value : String) : Option Given :=
  if g.options.any (·.1 = name) || !name.admits value then
    none
  else
    some { g with options := (name, value) :: g.options }

def Given.command? (g : Given) (sub : Subcommand) : Option Command := do
  let option name := g.options.lookup name
  let entity ← option .entity
  guard (g.queries.length = sub.queryCount)
  return ⟨option .schema, option .config, entity, g.queries.head?⟩

-- What the arguments come to once all are read.
def finish (sub : Subcommand) (g : Given) : Arguments :=
  match g.command? sub with
  | some command => .run command
  | none         => .unusable

-- Reads on behind the name of the subcommand.
def readOn (sub : Subcommand) (g : Given) : List String → Arguments
  | [] => finish sub g
  | argument :: arguments =>
    match item argument with
    | .plain s =>
      if g.queries.length < sub.queryCount then
        readOn sub { g with queries := g.queries ++ [s] } arguments
      else
        .unusable
    | .help    => .help
    | .unknown => .unusable
    | .escape  => finish sub { g with queries := g.queries ++ arguments }
    | .option name (some value) =>
      match g.set name value with
      | some g => readOn sub g arguments
      | none   => .unusable
    | .option name none =>
      match arguments with
      | [] => .unusable
      | value :: arguments =>
        match item value with
        | .plain value =>
          match g.set name value with
          | some g => readOn sub g arguments
          | none   => .unusable
        | _ => .unusable

-- What help may be asked for.
def topics : List String :=
  ["parse", "fields", "help"]

def read : List String → Arguments
  | "parse" :: arguments  => readOn .parse {} arguments
  | "fields" :: arguments => readOn .fields {} arguments
  | ["help"]              => .help
  | ["help", topic]       => if topic ∈ topics then .help else .unusable
  | argument :: _ =>
    if argument = "--version" ∨ "-V".toList.isPrefixOf argument.toList then .version
    else if argument = "--help" ∨ "-h".toList.isPrefixOf argument.toList then .help
    else .unusable
  | [] => .unusable

end Arguments

end RequestQuery
