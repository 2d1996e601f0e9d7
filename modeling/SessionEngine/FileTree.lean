import SessionEngine.Bytes
import SessionEngine.IoError

/-! Files and directories under the paths that lead to them, and what comes of reading a path: it is
walked from name to name, and the first name that leads nowhere decides the failure. The main statement
is `read_of_nul`, by which no path that holds a NUL is ever walked. -/

namespace SessionEngine

/-- What a path leads to. -/
inductive FileNode where
  | file (content : Bytes)
  | directory
  deriving DecidableEq, Repr, Inhabited

/-- A tree of files, as the names on the way to each and what is there. A directory is there as soon as
something in it is. -/
structure FileTree where
  entries : List (List String × FileNode)
  deriving Repr

namespace FileTree

/-- What the names `path` lead to from the root. -/
def node? (t : FileTree) (path : List String) : Option FileNode :=
  if path.isEmpty then some .directory
  else match t.entries.lookup path with
    | some node => some node
    | none => if t.entries.any (path.isPrefixOf ·.1) then some .directory else none

/-- The most bytes in one name of a path. -/
def maxName : Nat := 255

/-- The most bytes in a whole path. -/
def maxPath : Nat := 4095

/-- One step from the names `at_` of a directory or file to what is called `name` there. -/
def step (t : FileTree) (at_ : List String) (name : String) : Except IoError (List String) :=
  match t.node? at_ with
  | some (.file _) => .error .notADirectory
  | _ =>
    if name.isEmpty ∨ name = "." then .ok at_
    else if name = ".." then .ok at_.dropLast
    else if maxName < name.utf8ByteSize then .error .nameTooLong
    else if (t.node? (at_ ++ [name])).isNone then .error .noSuchFile
    else .ok (at_ ++ [name])

/-- The content of the file that `path` leads to. -/
def read (t : FileTree) (path : String) : Except IoError Bytes :=
  if path.toList.contains '\x00' then .error .nulInName
  else if maxPath < path.utf8ByteSize then .error .nameTooLong
  else if path.isEmpty then .error .noSuchFile
  else do
    match t.node? (← (path.splitOn "/").foldlM t.step []) with
    | some (.file content) => return content
    | _ => .error .isADirectory

/-- A path that holds a NUL is not walked. -/
theorem read_of_nul {path : String} (h : '\x00' ∈ path.toList) (t : FileTree) :
    t.read path = .error .nulInName := by
  simp [read, h]

end FileTree

end SessionEngine
