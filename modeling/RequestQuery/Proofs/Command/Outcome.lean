import RequestQuery.Command.Outcome
import RequestQuery.Proofs.Entity
import RequestQuery.Proofs.Stored
import RequestQuery.Proofs.Text.ByteOrder

namespace RequestQuery

variable {tree tree' : FileTree} {path : String}

namespace SchemaText

variable {s : SchemaText} {name : String} {e : Entity} {registry : Registry}

end SchemaText

namespace Outcome

end Outcome

namespace Command

open FileTree (run_bind)

variable {c : Command} {s : Settings} {options : ReadingOptions} {e : Entity}

-- The exit status and what is printed, by what there is to be answered.
inductive Answers (c : Command) (options : ReadingOptions) (e : Entity) : Nat × String → Prop
  | spec {text : String} {q : Query} (h : c.query = some text)
      (hq : Query.ofBag e options (.ofQuery text) = .ok q) :
      Answers c options e (0, Json.pretty q.toData ++ "\n")
  | refused {text : String} {r : Rejection} (h : c.query = some text)
      (hr : Query.ofBag e options (.ofQuery text) = .error r) :
      Answers c options e (2, Json.pretty r.publicReport.toData ++ "\n")
  | fields {names : List String} (h : c.query = none)
      (ascending : names.Pairwise fun a b => Text.Utf8.encode a.toList < Text.Utf8.encode b.toList)
      (mem : ∀ name, name ∈ names ↔ e.hasField name) :
      Answers c options e (0, String.join (names.map (· ++ "\n")))

end Command

end RequestQuery
