/-! Failures as they leave the library: the area in which something went wrong and a text about it.
Each area puts its own words in front of the text. -/

namespace Guardrail

inductive Area where
  | config
  | policy
  | moderation
  | sandbox
  | agent
  | retrieval
  | invalidParams
  | internal
  | io
  | serialization
  | yaml
  deriving DecidableEq

def Area.heading : Area → String
  | config => "Configuration error"
  | policy => "Policy error"
  | moderation => "Moderation error"
  | sandbox => "Sandbox error"
  | agent => "Agent error"
  | retrieval => "Retrieval error"
  | invalidParams => "Invalid parameters"
  | internal => "Internal error"
  | io => "IO error"
  | serialization => "Serialization error"
  | yaml => "YAML error"

structure Failure where
  area : Area
  text : String
  deriving DecidableEq

def Failure.message (f : Failure) : String := f.area.heading ++ ": " ++ f.text

end Guardrail
