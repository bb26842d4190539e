import RequestQuery.Command.Outcome

open RequestQuery

-- The fault that the system reports. One without a case of its own tells that there is no such file.
def faultOf : IO.Error → FileFault
  | .inappropriateType _ code _ =>
    -- The number of the fault may come with its sign turned.
    if code = 21 ∨ code = 0 - 21 then .isDirectory else .notDirectory
  | .invalidArgument .. => .nameTooLong
  | _                   => .notFound

def attempt {α : Type} (path : String) (action : IO α) : IO (Except FileFault α) := do
  if path.toList.contains '\x00' then
    return .error .nulInPath
  try
    return .ok (← action)
  catch e =>
    return .error (faultOf e)

instance : FileAccess IO where
  read path :=
    attempt path do return (← IO.FS.readBinFile path).toList
  write path bytes :=
    attempt path (IO.FS.writeBinFile path ⟨bytes.toArray⟩)
  makeDirectory path := do
    return (← attempt path (IO.FS.createDirAll path)).toBool
  names directory base :=
    -- The directory is not listed: names with a number of five digits are tried.
    ((List.range 100000).map (Log.FileName.numbered base)).filterM fun name => do
      let path := directory ++ "/" ++ name
      return (← attempt path (IO.FS.Handle.mk path .read)).toBool
  remove directory name := do
    let path := directory ++ "/" ++ name
    discard (attempt path (IO.FS.removeFile path))

def main (arguments : List String) : IO UInt32 := do
  let outcome ← Outcome.ofArguments (m := IO) (.read arguments)
  IO.print outcome.stdout
  IO.eprint outcome.stderr
  return .ofNat outcome.exit
