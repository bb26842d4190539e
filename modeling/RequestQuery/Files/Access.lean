namespace RequestQuery

inductive FileFault
  | notFound
  | notDirectory
  | isDirectory
  | nameTooLong
  | nulInPath
  | invalidText
  deriving DecidableEq

def FileFault.message : FileFault → String
  | notFound     => "No such file or directory (os error 2)"
  | notDirectory => "Not a directory (os error 20)"
  | isDirectory  => "Is a directory (os error 21)"
  | nameTooLong  => "File name too long (os error 36)"
  | nulInPath    => "file name contained an unexpected NUL byte"
  | invalidText  => "stream did not contain valid UTF-8"

class FileAccess (m : Type → Type) where
  read : String → m (Except FileFault (List UInt8))
  -- Replaces what a file holds; the file need not exist, its directory has to.
  write : String → List UInt8 → m (Except FileFault Unit)
  -- Creates a directory and those on the way to it; tells whether it is there in the end.
  makeDirectory : String → m Bool
  -- The names of the files in a directory that begin with a text.
  names : (directory front : String) → m (List String)
  -- Removes a file of a directory.
  remove : (directory name : String) → m Unit

end RequestQuery
