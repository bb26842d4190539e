import RequestQuery.Files.Access
import RequestQuery.Log.FileName
import RequestQuery.Settings
import RequestQuery.Text.Utf8

namespace RequestQuery.Log

-- When the current file has grown beyond a size, it is put aside under the next number before the next line
-- is written.
structure Rotation where
  directory : String
  base      : String
  maxSize   : Nat
  maxFiles  : Nat
  -- the number for the next file put aside, found out when the first line is written
  next      : Option Nat := none
  deriving DecidableEq

namespace Rotation

def path (r : Rotation) (name : String) : String :=
  r.directory ++ "/" ++ name

def currentPath (r : Rotation) : String :=
  r.path (FileName.current r.base)

variable {m : Type → Type} [Monad m] [FileAccess m]

def cleanUp (r : Rotation) : m Unit := do
  let names ← FileAccess.names r.directory r.base
  for name in (FileName.putAside r.base names).drop r.maxFiles do
    FileAccess.remove r.directory name

-- The number for the next file put aside. When it is found out, old files are removed.
def nextNumber (r : Rotation) : m Nat := do
  match r.next with
  | some n => return n
  | none =>
    let names ← FileAccess.names r.directory r.base
    r.cleanUp
    return FileName.nextNumber r.base names

def writeLine (r : Rotation) (line : String) : m Rotation := do
  let n ← r.nextNumber
  let bytes := match ← FileAccess.read (m := m) r.currentPath with
    | .ok bytes => bytes
    | .error _  => []
  let line := Text.Utf8.encode line.toList
  if r.maxSize < bytes.length then do
    discard <| FileAccess.write (r.path (FileName.numbered r.base n)) bytes
    discard <| FileAccess.write (m := m) r.currentPath line
    r.cleanUp
    return { r with next := some (n + 1) }
  else do
    discard <| FileAccess.write (m := m) r.currentPath (bytes ++ line)
    return { r with next := some n }

end Rotation

end RequestQuery.Log
