import RequestQuery.Log.Record
import RequestQuery.Pattern.Automaton
import RequestQuery.Pattern.Reader

namespace RequestQuery.Log

-- The rank up to which records are written, for the sources below a path or for all.
structure Rule where
  path  : Option String
  limit : Nat
  deriving DecidableEq

-- Written as rules, `level` or `path=level`, and behind a slash a pattern that has to occur in the message.
structure Spec where
  -- those with longer paths first
  rules   : List Rule
  pattern : Option Pattern := none
  deriving DecidableEq

namespace Rule

-- Rank of a level given by name; `off` lets nothing through.
def limit? (word : String) : Option Nat :=
  match word.toList.map Char.toUpper |> String.ofList with
  | "OFF" => some 0
  | word  => (Level.all.find? (·.name == word)).map Level.rank

def most : Nat :=
  Level.trace.rank

def covers (rule : Rule) (source : Source) : Bool :=
  match rule.path with
  | none      => true
  | some path => path.toList.isPrefixOf source.path.toList

def length (rule : Rule) : Nat :=
  (rule.path.getD "").utf8ByteSize

end Rule

namespace Spec

inductive Fault
  | slashes (spec : String)
  | part (part : String)
  | blank (path : String)
  | level
  | pattern (text : String) (fault : Pattern.Fault)
  | largePattern
  deriving DecidableEq

def Fault.message : Fault → String
  | slashes spec => s!"invalid log spec '{spec}' (too many '/'s), ignoring it"
  | part text    => s!"invalid part in log spec '{text}', ignoring it"
  | blank path   => s!"ignoring invalid part in log spec '{path}' (contains a whitespace)"
  | level        => "Invalid level filter"
  | pattern text fault =>
    let told := fault.message text
    s!"invalid regex filter - {told}"
  | largePattern => "invalid regex filter - Compiled regex exceeds size limit of 10485760 bytes."

def path? (path : String) : Except Fault String :=
  if path.toList.any Text.isBlank then .error (.blank path) else .ok path

def readRule (cs : List Char) : Except Fault Rule :=
  match (cs.splitOn '=').map fun cs => String.ofList (Text.trim cs) with
  | [path] => do
    let path ← path? path
    match Rule.limit? path with
    | some limit => return ⟨none, limit⟩
    | none       => return ⟨some path, Rule.most⟩
  | [path, level] => do
    let path ← path? path
    if level.isEmpty then
      return ⟨some path, Rule.most⟩
    else match Rule.limit? level with
      | some limit => return ⟨some path, limit⟩
      | none       => .error .level
  | _ => .error (.part (.ofList cs))

-- The rules of a list with commas, and what is wrong in it.
def readRules (cs : List Char) : List (Except Fault Rule) :=
  (((cs.splitOn ',').map Text.trim).filter (!·.isEmpty)).map readRule

def readPattern (text : String) : Except Fault Pattern :=
  match Pattern.ofText? text with
  | .error fault => .error (.pattern text fault)
  | .ok p        => if p.isTooLarge then .error .largePattern else .ok p

def faults {α : Type} (results : List (Except Fault α)) : List Fault :=
  results.filterMap fun
    | .error fault => some fault
    | .ok _        => none

-- What is wrong with the rules is told before what is wrong with the pattern.
def ofText (text : String) : Except (List Fault) Spec :=
  match text.toList.splitOn '/' with
  | [parts]          => build (readRules parts) none
  | [parts, pattern] => build (readRules parts) (some (readPattern (.ofList pattern)))
  | _ => .error [.slashes text]
where
  build (rules : List (Except Fault Rule)) (pattern : Option (Except Fault Pattern)) :
      Except (List Fault) Spec :=
    match faults rules ++ faults pattern.toList with
    | [] =>
      let sorted := (rules.filterMap Except.toOption).mergeSort fun a b => b.length ≤ a.length
      .ok ⟨sorted, pattern.bind Except.toOption⟩
    | faults => .error faults

-- The first rule that covers the source decides.
def admits (spec : Spec) (r : Record) : Bool :=
  (match spec.rules.find? (·.covers r.source) with
   | some rule => r.level.rank ≤ rule.limit
   | none      => false)
  && spec.pattern.all fun p => p.occursIn r.message.toList

end Spec

end RequestQuery.Log
