import Guardrail.Decision.Fault
import Guardrail.Files
import Guardrail.Json

/-! The modules of a directory: its direct entries that are no directories and whose extension is
`rego`, by file name. A name that begins with its only point has no extension. -/

namespace Guardrail.Decision

/-- Sources by name, in the order of the names. -/
abbrev Modules := List (String × String)

namespace Modules

def extension : String := ".rego"

def isModuleName (name : String) : Bool := name.endsWith extension && name != extension

def ofList (sources : List (String × String)) : Modules := Json.sortFields sources

/-- The first entry or source that cannot be read makes the directory unreadable. -/
def loadEntries (files : Files) (directory : String) :
    List (Except FileFault DirectoryEntry) → Except Fault (List (String × String))
  | [] => .ok []
  | .error fault :: _ => .error (.load directory fault.message)
  | .ok e :: rest =>
    if e.isDirectory || !isModuleName e.name then loadEntries files directory rest
    else
      let path := Files.join directory e.name
      match files.readText path with
      | .error text => .error (.load directory (path ++ ": " ++ text))
      | .ok source => do return (e.name, source) :: (← loadEntries files directory rest)

def load (files : Files) (directory : String) : Except Fault Modules :=
  match files.list directory with
  | .error e => .error (.load directory e.message)
  | .ok entries => (loadEntries files directory entries).map ofList

end Modules
end Guardrail.Decision
