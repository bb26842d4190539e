import RequestQuery.PublicReport

namespace RequestQuery

inductive Failure
  | rejected (r : Rejection)
  | schema (message : String)
  | settings (message : String)
  -- The document is not well-formed, or a value in it is not of the shape asked for.
  | document
  | file (message : String)
  deriving DecidableEq

namespace Failure

-- Stands for the diagnosis of a document that cannot be read.
def diagnosis : String := "<toml>"

def text : Failure → String
  | rejected r => s!"验证错误: {r.text}"
  | schema m   => s!"Schema错误: {m}"
  | settings m => s!"配置错误: {m}"
  | document   => s!"配置错误: {diagnosis}"
  | file m     => s!"IO错误: {m}"

def publicReport : Failure → PublicReport
  | rejected r => r.publicReport
  | _ => ⟨.internalError, "内部服务器错误"⟩

end Failure

end RequestQuery
