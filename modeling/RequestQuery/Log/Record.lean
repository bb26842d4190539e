namespace RequestQuery.Log

inductive Level
  | error
  | warn
  | info
  | debug
  | trace
  deriving DecidableEq

namespace Level

def all : List Level :=
  [error, warn, info, debug, trace]

def name : Level → String
  | error => "ERROR"
  | warn  => "WARN"
  | info  => "INFO"
  | debug => "DEBUG"
  | trace => "TRACE"

-- The higher, the more is told.
def rank : Level → Nat
  | error => 1
  | warn  => 2
  | info  => 3
  | debug => 4
  | trace => 5

end Level

-- The parts of the program that speak.
inductive Source
  | logging
  | schema
  | request
  | filter
  | order
  | page
  deriving DecidableEq

def Source.path : Source → String
  | logging => "query_filter::utils::logging"
  | schema  => "query_filter::core::schema"
  | request => "query_filter::query::request"
  | filter  => "query_filter::query::parser::filter"
  | order   => "query_filter::query::parser::order_by"
  | page    => "query_filter::query::parser::limit_offset"

structure Record where
  level   : Level
  source  : Source
  message : String
  deriving DecidableEq

def Record.line (r : Record) : String :=
  s!"{r.level.name} [{r.source.path}] {r.message}\n"

end RequestQuery.Log
