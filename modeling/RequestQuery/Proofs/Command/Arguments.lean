import Mathlib.Data.List.Nodup
import Mathlib.Data.List.TakeWhile
import Mathlib.Data.Option.Basic
import RequestQuery.Command.Arguments
import RequestQuery.Proofs.SortedMap

namespace RequestQuery

variable {sub : Subcommand} {arguments : List String} {c : Command}

namespace Subcommand

def name : Subcommand → String
  | parse  => "parse"
  | fields => "fields"

-- A query is given where one is parsed.
def Fits : Subcommand → Option String → Prop
  | parse, query  => ∃ text, query = some text
  | fields, query => query = none

theorem Fits.length {query : Option String} (h : sub.Fits query) :
    query.toList.length = sub.queryCount := by
  cases sub
  case parse =>
    obtain ⟨text, rfl⟩ := h
    rfl
  case fields =>
    cases h
    rfl

end Subcommand

-- The value that an option has in a command.
def Command.option? (c : Command) : OptionName → Option String
  | .schema => c.schema
  | .entity => some c.entity
  | .config => c.config

-- How an option is written, with its value if that stands in the same argument.
inductive OptionName.Spells (name : OptionName) : List Char → Option String → Prop
  | long : Spells name ('-' :: '-' :: name.long.toList) none
  | longEquals (value : String) :
      Spells name ('-' :: '-' :: (name.long.toList ++ '=' :: value.toList)) (some value)
  | short : Spells name ['-', name.short] none
  | shortEquals (value : String) : Spells name ('-' :: name.short :: '=' :: value.toList) (some value)
  | shortValue {value : String} (ne_empty : value ≠ "") (equals : value.toList.head? ≠ some '=') :
      Spells name ('-' :: name.short :: value.toList) (some value)

namespace OptionName

variable {name : OptionName} {cs : List Char} {value : Option String}

end OptionName

namespace Arguments

-- An argument that is no option. A single hyphen is none.
def IsPlain (argument : String) : Prop :=
  argument.toList.head? = some '-' → argument = "-"

-- The options and the queries that are given by arguments, in their order.
inductive Gives : List String → List (OptionName × String) → List String → Prop
  | nil : Gives [] [] []
  | option {argument name value arguments options queries}
      (h : OptionName.Spells name argument.toList (some value)) (rest : Gives arguments options queries) :
      Gives (argument :: arguments) ((name, value) :: options) queries
  | optionBehind {argument name value arguments options queries}
      (h : OptionName.Spells name argument.toList none) (plain : IsPlain value)
      (rest : Gives arguments options queries) :
      Gives (argument :: value :: arguments) ((name, value) :: options) queries
  | query {query arguments options queries} (plain : IsPlain query)
      (rest : Gives arguments options queries) : Gives (query :: arguments) options (query :: queries)
  | escape (queries : List String) : Gives ("--" :: queries) [] queries

-- Options that may be given together: none of them twice, and no path empty.
structure Admissible (options : List (OptionName × String)) : Prop where
  once     : (options.map Prod.fst).Nodup
  nonempty : ∀ o ∈ options, o.1 = .entity ∨ o.2 ≠ ""

-- The arguments of a command. What is not given is not set.
inductive Spells : List String → Command → Prop
  | intro {sub : Subcommand} {rest : List String} {options : List (OptionName × String)} {c : Command}
      (gives : Gives rest options c.query.toList) (admissible : Admissible options)
      (option : ∀ name value, (name, value) ∈ options ↔ c.option? name = some value)
      (fits : sub.Fits c.query) : Spells (sub.name :: rest) c

variable {g g' : Given} {argument : String} {name : OptionName} {value : Option String}
variable {options : List (OptionName × String)} {queries : List String}

-- The options that come later stand in front.
def Given.with (g : Given) (options : List (OptionName × String)) (queries : List String) : Given where
  options := options.reverse ++ g.options
  queries := g.queries ++ queries

end Arguments

end RequestQuery
