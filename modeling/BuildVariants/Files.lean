import BuildVariants.Path
import BuildVariants.Text.Quoted

/-!
# Files

What the library asks of a file system: whether a path is a file or a directory, and the bytes of a
file. A `FileTree` is a finite set of files and directories, in which a path is followed name by
name: every name but the last must be a directory, also one that two dots leave again.
-/

namespace BuildVariants

/-- Why a file cannot be opened. -/
inductive OpenFault where
  | missing
  | isDirectory
  | notDirectory
  deriving DecidableEq, Repr

inductive ReadFault where
  | cannotOpen (fault : OpenFault)
  | nulInPath
  deriving DecidableEq, Repr

def OpenFault.text (path : Path) : OpenFault → String
  | .missing => "[Errno 2] No such file or directory: " ++ Text.quoted path.text
  | .isDirectory => "[Errno 21] Is a directory: " ++ Text.quoted path.text
  | .notDirectory => "[Errno 20] Not a directory: " ++ Text.quoted path.text

structure Files where
  workingDirectory : Path
  isFile : Path → Bool
  isDirectory : Path → Bool
  read : Path → Except ReadFault ByteArray

/-! ## A finite tree -/

inductive FileTree.Entry where
  | file (content : ByteArray)
  | directory

/-- Entries by the names that lead to them from the root, which is always a directory. -/
structure FileTree where
  entries : List (List String × FileTree.Entry)

namespace FileTree

def empty : FileTree := ⟨[]⟩

def entry? (t : FileTree) (place : List String) : Option Entry :=
  if place = [] then some .directory
  else (t.entries.find? fun e => e.1 = place).map (·.2)

def insert (t : FileTree) (place : List String) (e : Entry) : FileTree :=
  if (t.entry? place).isSome then t else ⟨(place, e) :: t.entries⟩

/-- Adds the directories above a place, the outermost first. -/
def insertAbove (t : FileTree) (above : List String) : List String → FileTree
  | [] => t
  | [_] => t
  | n :: r => (t.insert (above ++ [n]) .directory).insertAbove (above ++ [n]) r

def insertFile (t : FileTree) (place : List String) (content : ByteArray) : FileTree :=
  (t.insertAbove [] place).insert place (.file content)

def insertDirectory (t : FileTree) (place : List String) : FileTree :=
  (t.insertAbove [] place).insert place .directory

/-- Follows names from a place whose entry is known. -/
def follow (t : FileTree) : List String → Entry → List String → Except OpenFault Entry
  | _, e, [] => .ok e
  | _, .file _, _ :: _ => .error .notDirectory
  | place, .directory, n :: r =>
    if n = ".." then t.follow place.dropLast .directory r
    else match t.entry? (place ++ [n]) with
      | none => .error .missing
      | some e => t.follow (place ++ [n]) e r

def find (t : FileTree) (workingDirectory path : Path) : Except ReadFault Entry :=
  if path.names.any fun n => n.toList.contains '\x00' then .error .nulInPath
  else match t.follow [] .directory (path.absoluteFrom workingDirectory).names with
    | .ok e => .ok e
    | .error f => .error (.cannotOpen f)

/-- The tree as files; no question about a path that cannot be followed is answered with yes. -/
def files (t : FileTree) (workingDirectory : Path) : Files where
  workingDirectory := workingDirectory
  isFile path := match t.find workingDirectory path with
    | .ok (.file _) => true
    | _ => false
  isDirectory path := match t.find workingDirectory path with
    | .ok .directory => true
    | _ => false
  read path := match t.find workingDirectory path with
    | .ok (.file content) => .ok content
    | .ok .directory => .error (.cannotOpen .isDirectory)
    | .error f => .error f

end FileTree

end BuildVariants
