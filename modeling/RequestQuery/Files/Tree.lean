import RequestQuery.Files.Access

namespace RequestQuery

inductive FileNode
  | directory
  | file (bytes : List UInt8)
  deriving DecidableEq

-- The names on the way from the root.
abbrev Location := List String

-- A file system without links, in which everything may be read and written.
structure FileTree where
  nodes : List (Location × FileNode) := []
  workingDirectory : Location := []
  deriving DecidableEq

namespace FileTree

def node? (tree : FileTree) : Location → Option FileNode
  | []       => some .directory
  | location => tree.nodes.lookup location

def put (tree : FileTree) (location : Location) (node : FileNode) : FileTree :=
  { tree with nodes := (location, node) :: tree.nodes.filter (·.1 != location) }

def erase (tree : FileTree) (location : Location) : FileTree :=
  { tree with nodes := tree.nodes.filter (·.1 != location) }

def checkDirectory (tree : FileTree) (location : Location) : Except FileFault Unit :=
  match tree.node? location with
  | some .directory => .ok ()
  | some (.file _)  => .error .notDirectory
  | none            => .error .notFound

-- One step of a path. Whatever the step is, it starts from a directory. The root is its own parent.
def step (tree : FileTree) (location : Location) (name : String) : Except FileFault Location := do
  tree.checkDirectory location
  if name.isEmpty || name == "." then
    return location
  else if name == ".." then
    return location.dropLast
  else if 255 < name.utf8ByteSize then
    .error .nameTooLong
  else
    return location ++ [name]

def steps (path : String) : List String :=
  (path.toList.splitOn '/').map .ofList

-- Where a path starts, as seen from a working directory.
def origin (here : Location) (path : String) : Location :=
  if path.toList.head? = some '/' then [] else here

def checkPath (path : String) : Except FileFault Unit :=
  if path.toList.contains '\x00' then .error .nulInPath
  else if path.isEmpty then .error .notFound
  else if 4095 < path.utf8ByteSize then .error .nameTooLong
  else .ok ()

def resolve (tree : FileTree) (path : String) : Except FileFault Location := do
  checkPath path
  (steps path).foldlM tree.step (origin tree.workingDirectory path)

def read (tree : FileTree) (path : String) : Except FileFault (List UInt8) := do
  match tree.node? (← tree.resolve path) with
  | none              => .error .notFound
  | some .directory   => .error .isDirectory
  | some (.file data) => return data

-- Whether a path ends in a slash.
def endsInSlash (path : String) : Bool :=
  path.toList.getLast? = some '/'

-- The tree after writing. Whatever ends in a slash names no file, once its directory is there.
def write (tree : FileTree) (path : String) (bytes : List UInt8) : Except FileFault FileTree := do
  checkPath path
  let names := ((steps path).reverse.dropWhile String.isEmpty).reverse
  let directory ← names.dropLast.foldlM tree.step (origin tree.workingDirectory path)
  tree.checkDirectory directory
  if endsInSlash path then
    .error .isDirectory
  else
    let location ← tree.step directory (names.getLastD "")
    if tree.node? location = some .directory then
      .error .isDirectory
    else
      return tree.put location (.file bytes)

-- A step to a directory, which is created if there is nothing.
def makeStep (location : Location) (name : String) : ExceptT FileFault (StateM FileTree) Location := do
  let tree ← get
  let location ← tree.step location name
  match tree.node? location with
  | some .directory => return location
  | some (.file _)  => throw .notDirectory
  | none            => set (tree.put location .directory); return location

-- Creates the directories on the way and then the last one, unless the path ends in a dot: then the last
-- one has to be there. What was created before a fault stays.
def makeDirectory (path : String) : ExceptT FileFault (StateM FileTree) Unit := do
  checkPath path
  let names := (steps path).filter (!·.isEmpty)
  let way := names.filter (· != ".")
  let location ← way.dropLast.foldlM makeStep (origin (← get).workingDirectory path)
  let last := way.getLastD ""
  if names.getLast? = some "." then do
    let tree ← get
    tree.checkDirectory (← tree.step location last)
  else
    discard <| makeStep location last

def names (tree : FileTree) (path front : String) : List String :=
  match tree.resolve path with
  | .ok directory =>
    tree.nodes.filterMap fun
      | (location, .file _) => do
        let name ← location.getLast?
        guard (location.dropLast = directory && front.toList.isPrefixOf name.toList)
        return name
      | _ => none
  | .error _ => []

def remove (tree : FileTree) (path name : String) : FileTree :=
  match tree.resolve path with
  | .ok directory =>
    match tree.node? (directory ++ [name]) with
    | some (.file _) => tree.erase (directory ++ [name])
    | _              => tree
  | .error _ => tree

instance : FileAccess (StateM FileTree) where
  read path := do
    return (← get).read path
  write path bytes := do
    match (← get).write path bytes with
    | .ok tree     => set tree; return .ok ()
    | .error fault => return .error fault
  makeDirectory path := do
    return (← (FileTree.makeDirectory path).run).toBool
  names directory front := do
    return (← get).names directory front
  remove directory name :=
    modify (·.remove directory name)

end FileTree

end RequestQuery
