import Guardrail.CommandLine.Program

/-! The program on a real machine. What the run needs of the environment and of the files is read
first; then the run is a value. Nothing is sent over a network: every remote service counts as one
that cannot be reached. -/

namespace Guardrail.CommandLine

/-- The variables that are looked at. -/
def variableNames : List String := [
  "AIGUARD_ENV", "QWEN_API_BASE", "QWEN_API_TOKEN", "QWEN_MODEL", "QWEN_TIMEOUT_SEC", "QWEN_RPS",
  "QWEN_RETRIES", "LLM_WORKERS", "LLM_QUEUE_SIZE", "LLM_CACHE_TTL_MIN", "OUTPUT_MODE",
  "OPA_POLICY_DIR", "OPA_DECISION"]

/-- Files and directories as they were found. -/
structure Snapshot where
  contents : List (String × Except FileFault ByteArray) := []
  entries : List (String × Except FileFault (List DirectoryEntry)) := []

namespace Snapshot

def files (s : Snapshot) : Files where
  read path := (s.contents.lookup path).getD (.error .notFound)
  list path := ((s.entries.lookup path).getD (.error .notFound)).map (·.map .ok)

def faultOf : IO.Error → FileFault
  | .permissionDenied .. => .permissionDenied
  | .inappropriateType .. => .notDirectory
  | _ => .notFound

def listing (path : String) : IO (Except FileFault (List DirectoryEntry)) := do
  try
    let found ← ((← IO.currentDir) / path).readDir
    let entries ← found.toList.mapM fun e => do
      return ⟨e.fileName, ← e.path.isDir⟩
    return .ok entries
  catch e => return .error (faultOf e)

/-- A directory has no content to read. -/
def addFile (s : Snapshot) (path : String) : IO Snapshot := do
  let content ← (do
    match ← listing path with
    | .ok _ => return .error .isDirectory
    | .error _ =>
      try return .ok (← IO.FS.readBinFile path) catch e => return .error (faultOf e))
  return { s with contents := (path, content) :: s.contents }

/-- A directory and the files that stand in it. -/
def addDirectory (s : Snapshot) (path : String) : IO Snapshot := do
  let found ← listing path
  let s := { s with entries := (path, found) :: s.entries }
  match found with
  | .error _ => return s
  | .ok entries =>
    (entries.filter (!·.isDirectory)).foldlM (fun s e => s.addFile (Files.join path e.name)) s

def add (s : Snapshot) : Need → IO Snapshot
  | .file path => s.addFile path
  | .directory path => s.addDirectory path

end Snapshot

def surroundings : IO Surroundings := do
  let found ← variableNames.mapM fun name => do return (name, ← IO.getEnv name)
  return {
    files := ({} : Snapshot).files
    home := (← IO.getEnv "HOME").getD ""
    environment := fun name => (found.lookup name).join
    services := fun _ _ _ => .unreachable
    now := ⟨0, 0, 0⟩ }

/-- The surroundings with all that the invocation reads. -/
def surroundingsFor (i : Invocation) : IO Surroundings := do
  let w ← surroundings
  let found ← ({} : Snapshot).addFile (settingsPath w i)
  let w := { w with files := found.files }
  match settingsOf w i with
  | .error _ => return w
  | .ok s =>
    match i.command.need? w s with
    | none => return w
    | some need => return { w with files := (← found.add need).files }

/-- Output and status of a run that has ended. -/
def conclude (e : Ending) : IO UInt32 := do
  IO.print e.output.render
  if let some text := e.failure then IO.eprintln ("Error: " ++ text)
  return e.status.toUInt32

end Guardrail.CommandLine

open Guardrail.CommandLine in
def main (words : List String) : IO UInt32 := do
  match Invocation.ofWords words with
  | .error f =>
    if !f.isQuestion then IO.eprintln ("error: " ++ f.message ++ "\n\n" ++ usageText)
    conclude (.ofUsage f)
  | .ok i => conclude (runInvocation (← surroundingsFor i) i)
