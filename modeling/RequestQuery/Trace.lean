import RequestQuery.Log.Record
import RequestQuery.Query
import RequestQuery.Settings.Document
import RequestQuery.Text.Quoted

namespace RequestQuery.Trace

open Log

-- One record for each entity that is registered, up to the first that is refused.
def registration (r : Registry) : List Entity → List Record
  | [] => []
  | e :: entities =>
    match (Registry.register e).run.run r with
    | (.error _, _) => []
    | (.ok (), r)   =>
      let count := e.fields.names.length
      ⟨.debug, .schema, s!"注册实体 {e.name}，共 {count} 个字段"⟩ :: registration r entities

-- A document that cannot be read tells of no entity.
def schema (document : String) : List Record :=
  match Registry.listed document with
  | .ok entities => registration {} entities
  | .error _     => []

def predicate : Predicate → String
  | .equals value      => "Equals(" ++ Text.quotedForLog value ++ ")"
  | .oneOf values      => "In(" ++ Text.listForLog values ++ ")"
  | .lessThan bound    => "LessThan(" ++ Text.quotedForLog bound ++ ")"
  | .greaterThan bound => "GreaterThan(" ++ Text.quotedForLog bound ++ ")"

def clause (text : List Char) (c : Clause) : Record :=
  let text := Text.quotedForLog (.ofList text)
  match c with
  | .vacuous => ⟨.debug, .filter, s!"filter 子句 {text} 取值为空，已跳过"⟩
  | .condition field p =>
    let symbol := p.comparison.symbol.toString
    let told := predicate p
    ⟨.debug, .filter, s!"filter 子句 {text}: {field} {symbol} {told}"⟩

-- One record for each clause, up to the first that cannot be read.
def clauses (entity : Entity) : List (List Char) → List Record
  | [] => []
  | text :: texts =>
    match Clause.ofText entity text with
    | .error _ => []
    | .ok c    => clause text c :: clauses entity texts

def filter (entity : Entity) (given : Given) : List Record :=
  match given.sole Parameter.filter.name with
  | .error _ => []
  | .ok text => clauses entity (text.toList.splitOn '&')

def order (entity : Entity) (given : Given) : List Record :=
  match given.sole Parameter.order.name, SortKey.ofGiven entity given with
  | .ok text, .ok key =>
    let text := Text.quotedForLog text
    let rendered := key.text
    [⟨.debug, .order, s!"orderBy {text} -> {rendered}"⟩]
  | _, _ => []

def bound (parameter : Parameter) (strict : Bool) (given : Given) : List Record :=
  match PageNumber.ofGiven parameter strict given with
  | .ok n    =>
    let name := parameter.name
    let number := n.text
    [⟨.debug, .page, s!"{name} = {number}"⟩]
  | .error _ => []

-- The records about one parameter, and whether the request is read on behind it.
def stage {α : Type} (bag : Bag) (parameter : Parameter) (read : Given → Except Rejection α)
    (records : Given → List Record) : List Record × Bool :=
  if bag.contains parameter.name then
    let given := bag.get parameter.name
    (records given, (read given).toBool)
  else
    ([], true)

def untilRefused : List (List Record × Bool) → List Record
  | [] => []
  | (records, true) :: stages => records ++ untilRefused stages
  | (records, false) :: _     => records

def parameters (entity : Entity) (options : ReadingOptions) (bag : Bag) : List Record :=
  let strict := options.strictBounds
  untilRefused [
    stage bag .filter (Filter.ofGiven entity) (filter entity),
    stage bag .order (SortKey.ofGiven entity) (order entity),
    stage bag .limit (PageNumber.ofGiven .limit strict) (bound .limit strict),
    stage bag .offset (PageNumber.ofGiven .offset strict) (bound .offset strict)
  ]

def query (entity : Entity) (options : ReadingOptions) (bag : Bag) : List Record :=
  let names := Text.listForLog bag.names
  ⟨.debug, .request, s!"解析 {entity.name} 查询参数: {names}"⟩
    :: parameters entity options bag
    ++ match Query.ofBag entity options bag with
       | .ok _ => []
       | .error r =>
         let told := r.text
         [⟨.warn, .request, s!"{entity.name} 查询参数被拒绝: {told}"⟩]

end RequestQuery.Trace
