import Guardrail.Failure
import Guardrail.Settings.Location
import Guardrail.Settings.Source
import Guardrail.Yaml.Core

/-! Settings from a YAML text, and from a file with the environment over it. A file that does not
exist is like an empty one. -/

namespace Guardrail.Settings

/-- The known fields of some entries, if none of them is repeated. -/
def knownFields (names : List String) (entries : List (String × τ)) :
    Option (List (String × τ)) :=
  let known := entries.filter fun (name, _) => names.contains name
  if (known.map (·.1)).Nodup then some known else none

/-- The nodes of a YAML document. -/
def Source.yaml (d : Yaml.Document) : Source Yaml.Node where
  flag := d.flag
  number := d.number
  text := d.text
  content := d.content
  items := d.items
  entries := d.entries
  fields names n := (d.entries n).bind (knownFields names)

def malformed : Failure := ⟨.yaml, "malformed settings"⟩

/-- A text of blanks alone holds the settings that there are to begin with. -/
def ofText (text : String) : Except Failure Settings :=
  if (Text.trim text).isEmpty then .ok {}
  else match (Yaml.Document.ofText? text).bind fun d => read (.yaml d) d.root with
    | some s => .ok s
    | none => .error malformed

def unreadable (path text : String) : Failure :=
  ⟨.config, "Failed to read " ++ path ++ ": " ++ text⟩

def unparsable (path : String) (e : Failure) : Failure :=
  ⟨.config, "Failed to parse " ++ path ++ ": " ++ e.message⟩

/-- The settings of a file. -/
def ofFile (files : Files) (path : String) : Except Failure Settings :=
  match files.read path with
  | .error .notFound | .error .notDirectory => .ok {}
  | _ =>
    match files.readText path with
    | .error text => .error (unreadable path text)
    | .ok text => (ofText text).mapError (unparsable path)

/-- The settings of the file at the path, or at the usual place. -/
def load (files : Files) (home : String) (env : Environment) (path : Option String) :
    Except Failure Settings :=
  (ofFile files (path.getD (file home env))).map (overlay env)

end Guardrail.Settings
