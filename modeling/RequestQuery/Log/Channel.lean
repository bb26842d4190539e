import RequestQuery.Failure
import RequestQuery.Log.Rotation
import RequestQuery.Log.Spec

namespace RequestQuery.Log

structure Channel where
  spec  : Spec
  -- without it the standard error stream
  files : Option Rotation
  deriving DecidableEq

namespace Channel

variable {m : Type → Type} [Monad m] [FileAccess m]

def openDirectory (s : LogSettings) (directory : String) : m (Except Failure Rotation) := do
  let rotation : Rotation :=
    { directory, base := s.file, maxSize := s.maxFileSize.toNat, maxFiles := s.maxFiles.toNat }
  if ← FileAccess.makeDirectory directory then
    return .ok rotation
  else
    return .error (.settings
      "Log cannot be written, e.g. because the configured output directory is not accessible")

def openAs (s : LogSettings) : m (Except Failure Channel) := do
  match Spec.ofText s.level with
  | .error faults =>
    let told := "; ".intercalate (faults.map Spec.Fault.message)
    return .error (.settings ("Failed to parse log specification: " ++ told))
  | .ok spec =>
    match s.dir with
    | none => return .ok ⟨spec, none⟩
    | some directory =>
      match ← openDirectory s directory with
      | .ok rotation   => return .ok ⟨spec, some rotation⟩
      | .error failure => return .error failure

-- The first record tells where the log goes.
def opening (s : LogSettings) : Record :=
  match s.dir with
  | some directory => ⟨.info, .logging, s!"日志系统初始化完成: {directory}/{s.file}"⟩
  | none           => ⟨.debug, .logging, "日志系统初始化完成: stderr"⟩

-- Writes the records that are admitted; what is to go to the standard error stream is returned.
def write (c : Channel) (records : List Record) : m (Channel × String) := do
  let lines := (records.filter c.spec.admits).map Record.line
  match c.files with
  | none          => return (c, String.join lines)
  | some rotation => return ({ c with files := some (← lines.foldlM Rotation.writeLine rotation) }, "")

-- Opens the log with its first record.
def start (s : LogSettings) : m (Except Failure (Channel × String)) := do
  match ← openAs s with
  | .ok channel    => return .ok (← channel.write [opening s])
  | .error failure => return .error failure

end Channel

end RequestQuery.Log
