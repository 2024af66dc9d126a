/-!
# Files and directories

A tree of files and directories, the paths that lead through it, and what can go wrong on the way.  A path leads from the
root of the tree or from the working directory (`FileSystem.resolve`).  `FileSystem.find` lists the files below a directory
whose names end in a given way, in order, and leaves hidden directories out.
-/

namespace FibTiming

/-- Why a path does not lead to what was asked for. -/
inductive FileCause where
  | missing
  | notDirectory
  | isDirectory
  | nameTooLong
  | invalidName
  | reported (text : String)
deriving Repr, DecidableEq, Inhabited

/-- The wording of a cause. -/
def FileCause.message : FileCause → String
  | missing => "no such file or directory"
  | notDirectory => "not a directory"
  | isDirectory => "is a directory"
  | nameTooLong => "file name too long"
  | invalidName => "invalid argument"
  | reported text => text

/-- A failed operation on a path. -/
structure FileError where
  operation : String
  path : String
  cause : FileCause
deriving Repr, DecidableEq, Inhabited

/-- The wording of a failed operation. -/
def FileError.message (e : FileError) : String := s!"{e.operation} {e.path}: {e.cause.message}"

/-- A file with its content, or a directory with its entries in the order of their names. -/
inductive Node where
  | file (content : String)
  | directory (entries : List (String × Node))
deriving Repr, Inhabited

/-! ### Paths -/

/-- The components of a path; empty ones do not count. -/
def pathComponents (path : String) : List String :=
  ((path.toList.splitOn '/').filter (· ≠ [])).map String.ofList

/-- Whether a path can only lead to a directory because it ends in a slash. -/
def endsInSlash (path : String) : Bool := path.toList.getLast? == some '/'

/-- Whether a path leads from the root, not from the working directory. -/
def isRooted (path : String) : Bool := path.toList.head? == some '/'

/-- Takes the next component into a cleaned path, of which the components are given in reverse. -/
def cleanStep (rooted : Bool) (done : List String) (c : String) : List String :=
  if c = "." then done
  else if c = ".." then
    match done with
    | [] => if rooted then [] else [".."]
    | d :: rest => if d = ".." then ".." :: d :: rest else rest
  else c :: done

/-- The path without doubled slashes, without `.` and with `..` resolved where a component stands before it. -/
def cleanPath (path : String) : String :=
  let body := String.intercalate "/" ((pathComponents path).foldl (cleanStep (isRooted path)) []).reverse
  if isRooted path then "/" ++ body else if body = "" then "." else body

/-- The path of an entry of a directory. -/
def joinPath (directory name : String) : String := cleanPath (directory ++ "/" ++ name)

/-- The last component of a path. -/
def baseName (path : String) : String := ((pathComponents path).getLast?).getD path

namespace Node

/-- The entry of a directory with a given name. -/
def entryNamed? (name : String) : List (String × Node) → Option Node
  | [] => none
  | (n, node) :: rest => if n = name then some node else entryNamed? name rest

/-- The node at the end of a list of names, all of which are entries of directories. -/
def at? : Node → List String → Option Node
  | node, [] => some node
  | file _, _ :: _ => none
  | directory es, name :: rest =>
    match entryNamed? name es with
    | none => none
    | some node => node.at? rest

/-- The longest name of an entry, in bytes. -/
def maxNameLength : Nat := 255

/-- Where a list of components leads from a place in a tree; places are lists of names in reverse.  Every component
asks for a directory, and above the root is the root itself. -/
def locate (root : Node) : (here : List String) → List String → Except FileCause (List String)
  | here, [] => .ok here
  | here, c :: rest =>
    match root.at? here.reverse with
    | none => .error .missing
    | some (file _) => .error .notDirectory
    | some (directory es) =>
      if c = "." then locate root here rest
      else if c = ".." then locate root here.tail rest
      else if maxNameLength < c.utf8ByteSize then .error .nameTooLong
      else if (entryNamed? c es).isSome then locate root (c :: here) rest
      else .error .missing

/-- Puts an entry among others in the order of names; the entry that was there before is replaced. -/
def putNamed (name : String) (node : Node) : List (String × Node) → List (String × Node)
  | [] => [(name, node)]
  | (n, old) :: rest =>
    if name < n then (name, node) :: (n, old) :: rest
    else if name = n then (name, node) :: rest
    else (n, old) :: putNamed name node rest

/-- Puts a node at the end of a list of names; directories on the way are made, and a file on the way becomes
one. -/
def put : (root node : Node) → List String → Node
  | _, node, [] => node
  | directory es, node, name :: rest =>
    directory (putNamed name (put ((entryNamed? name es).getD (directory [])) node rest) es)
  | file _, node, name :: rest => directory [(name, put (directory []) node rest)]

/-! ### Finding files -/

/-- Whether the entries of a directory of this name are left out. -/
def isHidden (name : String) : Bool := name.toList.head? == some '.'

/-- Whether a name ends in the given way. -/
def hasEnding (ending name : String) : Bool := ending.toList.reverse.isPrefixOf name.toList.reverse

mutual

/-- The paths of the files at or below a node whose names end in the given way. -/
def filesBelow (ending : String) (path name : String) : Node → List String
  | file _ => if hasEnding ending name then [path] else []
  | directory es => filesIn ending path es

/-- The paths of such files among the entries of a directory; hidden directories are left out. -/
def filesIn (ending : String) (path : String) : List (String × Node) → List String
  | [] => []
  | (name, file content) :: rest =>
    filesBelow ending (joinPath path name) name (file content) ++ filesIn ending path rest
  | (name, directory es) :: rest =>
    (if isHidden name then [] else filesBelow ending (joinPath path name) name (directory es)) ++ filesIn ending path rest

end

/-- Puts a text into an ordered list. -/
def insertSorted (s : String) : List String → List String
  | [] => [s]
  | t :: rest => if s < t then s :: t :: rest else t :: insertSorted s rest

/-- The list in order. -/
def sortTexts (ss : List String) : List String := ss.foldr insertSorted []

/-- The files at or below a node that a path led to, in order. -/
def findFrom (node : Node) (path ending : String) : List String :=
  sortTexts (filesBelow ending path (baseName path) node)

end Node

/-! ### File systems -/

/-- A tree of files, and the names that lead from its root to the working directory. -/
structure FileSystem where
  root : Node := .directory []
  working : List String := []
deriving Repr, Inhabited

namespace FileSystem

/-- Refuses paths that lead nowhere in any tree: empty ones, and those with a character that no name has. -/
def checkPath (path : String) : Except FileCause Unit :=
  if path.toList.contains (Char.ofNat 0) then .error .invalidName
  else if path = "" then .error .missing
  else .ok ()

/-- The place that a path leads from, as names in reverse. -/
def start (files : FileSystem) (path : String) : List String := if isRooted path then [] else files.working.reverse

/-- The node a path leads to. -/
def resolve (files : FileSystem) (path : String) : Except FileCause Node := do
  checkPath path
  let place ← files.root.locate (files.start path) (pathComponents path)
  match files.root.at? place.reverse with
  | none => .error .missing
  | some (.file content) => if endsInSlash path then .error .notDirectory else .ok (.file content)
  | some node => .ok node

/-- The content of the file a path leads to. -/
def read? (files : FileSystem) (path : String) : Option String :=
  match files.resolve path with
  | .ok (.file content) => some content
  | _ => none

/-- Writes a file, which is made or replaced; its directory has to be there. -/
def write (files : FileSystem) (path content : String) : Except FileCause FileSystem := do
  checkPath path
  match (pathComponents path).reverse with
  | [] => .error .isDirectory
  | name :: above =>
    let place ← files.root.locate (files.start path) above.reverse
    match files.root.at? place.reverse with
    | some (.directory es) =>
      if name = "." ∨ name = ".." ∨ endsInSlash path then .error .isDirectory
      else if Node.maxNameLength < name.utf8ByteSize then .error .nameTooLong
      else
        match Node.entryNamed? name es with
        | some (.directory _) => .error .isDirectory
        | _ => .ok { files with root := files.root.put (.file content) (name :: place).reverse }
    | some (.file _) => .error .notDirectory
    | none => .error .missing

/-- Why files cannot be looked for. -/
inductive SearchError where
  | emptyEnding
  | inaccessible (e : FileError)
deriving Repr, DecidableEq, Inhabited

/-- The wording of such an error. -/
def SearchError.message : SearchError → String
  | emptyEnding => "extension must not be empty"
  | inaccessible e => e.message

/-- The files below a path whose names end in the given way, in order. -/
def find (files : FileSystem) (path ending : String) : Except SearchError (List String) :=
  if ending = "" then .error .emptyEnding
  else
    match files.resolve path with
    | .error cause => .error (.inaccessible ⟨"lstat", path, cause⟩)
    | .ok node => .ok (node.findFrom path ending)

end FileSystem

end FibTiming
