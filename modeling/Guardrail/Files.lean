/-! Files and directories as a program sees them: reading a file, and listing a directory, by path.
A path names its parts between slashes. -/

namespace Guardrail

inductive FileFault where
  | notFound
  | permissionDenied
  | notDirectory
  | isDirectory
  deriving DecidableEq

def FileFault.message : FileFault → String
  | notFound => "No such file or directory (os error 2)"
  | permissionDenied => "Permission denied (os error 13)"
  | notDirectory => "Not a directory (os error 20)"
  | isDirectory => "Is a directory (os error 21)"

structure DirectoryEntry where
  name : String
  isDirectory : Bool
  deriving DecidableEq

structure Files where
  read : String → Except FileFault ByteArray
  /-- Any entry may fail on the way. -/
  list : String → Except FileFault (List (Except FileFault DirectoryEntry))

namespace Files

/-- The path of something in a directory; an absolute path stands for itself. -/
def join (directory name : String) : String :=
  if name.startsWith "/" || directory.isEmpty then name
  else if directory.endsWith "/" then directory ++ name
  else directory ++ "/" ++ name

def badText : String := "stream did not contain valid UTF-8"

/-- The text of a file, or what is wrong with it. -/
def readText (f : Files) (path : String) : Except String String :=
  match f.read path with
  | .error e => .error e.message
  | .ok bytes =>
    match String.fromUTF8? bytes with
    | some s => .ok s
    | none => .error badText

end Files

/-- A directory tree held in memory. -/
inductive FileTree where
  | file (content : ByteArray)
  | directory (entries : List (String × FileTree))

namespace FileTree

/-- The parts of a path; empty ones and single points lead nowhere else. -/
def parts (path : String) : List String :=
  ((path.splitOn "/").filter fun p => !p.isEmpty && p != ".")

def find : FileTree → List String → Except FileFault FileTree
  | t, [] => .ok t
  | file _, _ :: _ => .error .notDirectory
  | directory entries, p :: rest =>
    match entries.lookup p with
    | some t => find t rest
    | none => .error .notFound

/-- The tree with something put at a place, directories made on the way; what an empty directory is
put on keeps its entries. -/
def insert (t : FileTree) (place : List String) (new : FileTree) : FileTree :=
  match place, t, new with
  | [], directory entries, directory [] => directory entries
  | [], _, new => new
  | p :: rest, t, new =>
    let entries := match t with
      | directory es => es
      | file _ => []
    let child := (entries.lookup p).getD (directory [])
    directory (entries.filter (·.1 != p) ++ [(p, child.insert rest new)])

def isDirectory : FileTree → Bool
  | directory _ => true
  | file _ => false

/-- The empty path names nothing, and a slash after a path asks for a directory. -/
def resolve (t : FileTree) (path : String) : Except FileFault FileTree := do
  if path.isEmpty then throw .notFound
  let found ← t.find (parts path)
  if path.endsWith "/" && !found.isDirectory then throw .notDirectory
  return found

def files (t : FileTree) : Files where
  read path := do
    match ← t.resolve path with
    | file content => return content
    | directory _ => throw .isDirectory
  list path := do
    match ← t.resolve path with
    | file _ => throw .notDirectory
    | directory entries => return entries.map fun (name, t) => .ok ⟨name, t.isDirectory⟩

end FileTree
end Guardrail
