import RequestQuery.Files.Access
import RequestQuery.Settings.Document
import RequestQuery.Text.Utf8

namespace RequestQuery

variable {m : Type → Type} [Monad m] [FileAccess m]

def FileFault.failure (fault : FileFault) : Failure :=
  .file fault.message

def textOf (bytes : List UInt8) : Except FileFault String :=
  match Text.Utf8.decode? bytes with
  | some cs => .ok (.ofList cs)
  | none    => .error .invalidText

-- The text of a file.
def readText (path : String) : m (Except Failure String) := do
  return ((← FileAccess.read path) >>= textOf).mapError FileFault.failure

def Settings.load (path : String) : m (Except Failure Settings) := do
  return (← readText path) >>= Settings.ofToml

-- Replaces whatever the file held before.
def Settings.save (s : Settings) (path : String) : m (Except Failure Unit) := do
  return (← FileAccess.write path (Text.Utf8.encode s.toml.toList)).mapError FileFault.failure

def Registry.load (path : String) : m (Except Failure Registry) := do
  return (← readText path) >>= Registry.ofToml

end RequestQuery
