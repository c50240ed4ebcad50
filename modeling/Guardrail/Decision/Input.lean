import Guardrail.Json.Record

/-! The document that a policy decision is about, and the decision. Empty texts and lists, a false
flag and missing signals are not written; they are also what their absence means. -/

namespace Guardrail.Decision

inductive Mode where
  | promptCheck
  | outputFilter
  | tool
  | simulation
  deriving DecidableEq

namespace Mode

def label : Mode → String
  | promptCheck => "prompt_check"
  | outputFilter => "output_filter"
  | tool => "tool"
  | simulation => "simulation"

def all : List Mode := [promptCheck, outputFilter, tool, simulation]

def ofLabel? (label : String) : Option Mode := all.find? (·.label == label)

def unknownMessage (label : String) : String := "unknown policy mode: " ++ label

def reader : Json.Reader Mode := Json.Reader.label (all.map fun m => (m.label, m))

end Mode

structure Input where
  tenant : String
  app : String := ""
  mode : Mode
  prompt : String := ""
  output : String := ""
  tool : String := ""
  simulation : Bool := false
  namespaces : List String := []
  rules : List String := []
  signals : Option Json := none

namespace Input

def fieldNames : List String := [
  "tenantId", "appId", "mode", "prompt", "output", "tool", "simulation", "namespaces", "rules",
  "signals"]

def toJson (i : Input) : Json :=
  .object ([
    ("tenantId", .string i.tenant),
    ("appId", .string i.app),
    ("mode", .string i.mode.label)]
    ++ Json.fieldUnless i.prompt.isEmpty "prompt" (.string i.prompt)
    ++ Json.fieldUnless i.output.isEmpty "output" (.string i.output)
    ++ Json.fieldUnless i.tool.isEmpty "tool" (.string i.tool)
    ++ Json.fieldUnless (!i.simulation) "simulation" (.bool i.simulation)
    ++ Json.fieldUnless i.namespaces.isEmpty "namespaces" (.strings i.namespaces)
    ++ Json.fieldUnless i.rules.isEmpty "rules" (.strings i.rules)
    ++ Json.fieldUnless i.signals.isNone "signals" (i.signals.getD .null))

def reader : Json.Reader Input := fun depth t => do
  let r ← Json.Record.ofTree? fieldNames depth t
  return {
    tenant := ← r.required "tenantId" .string
    app := ← r.required "appId" .string
    mode := ← r.required "mode" Mode.reader
    prompt := ← r.optional "prompt" "" .string
    output := ← r.optional "output" "" .string
    tool := ← r.optional "tool" "" .string
    simulation := ← r.optional "simulation" false .bool
    namespaces := ← r.optional "namespaces" [] (.list .string)
    rules := ← r.optional "rules" [] (.list .string)
    signals := ← r.optional "signals" none (.option .value) }

end Input
end Guardrail.Decision

namespace Guardrail

/-- Whether something is allowed, with the whole object that said so, if it was one. -/
structure Decision where
  allow : Bool
  data : Option (List (String × Json)) := none

namespace Decision

def toJson (d : Decision) : Json :=
  .object (("allow", .bool d.allow) ::
    Json.fieldUnless d.data.isNone "data" (.object (d.data.getD [])))

/-- The name of a value's kind. -/
def kindName : Json → String
  | .null => "null"
  | .bool _ => "bool"
  | .integer _ => "number"
  | .float _ => "number"
  | .string _ => "string"
  | .array _ => "array"
  | .object _ => "object"

/-- A decision is a truth value or an object whose `allow` is one; anything else is described. -/
def ofJson : Json → Except String Decision
  | .bool allow => .ok { allow }
  | .object fields =>
    match fields.lookup "allow" with
    | some (.bool allow) => .ok { allow, data := some fields }
    | _ => .error "decision missing allow"
  | v => .error (kindName v)

end Decision
end Guardrail
