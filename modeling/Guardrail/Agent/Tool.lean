import Guardrail.Failure
import Guardrail.Json.Record

/-! Tools and the registry of them by name. What a tool does with its arguments is a behaviour: how
long it takes, how it ends, and how it ends instead if it heeds the cancellation of its run. -/

namespace Guardrail.Agent

inductive Ending where
  | value (v : Json)
  | failed (f : Failure)
  /-- The tool stops without a result. -/
  | crashed

structure Behaviour where
  duration : Nat
  ending : Ending
  /-- How long the tool takes to stop once it is cancelled, and how it ends then. -/
  onCancel : Option (Nat × Ending) := none

structure Tool where
  name : String
  description : String := ""
  schema : Json := .object [("type", .string "object")]
  behave : Json → Behaviour

namespace Tool

/-- A tool that does nothing and says so. -/
def idle (name description : String) : Tool where
  name := name
  description := description
  behave _ := {
    duration := 0
    ending := .value (.object [
      ("message", .string "NoOp executor stub"),
      ("status", .string "noop"),
      ("tool", .string name)]) }

end Tool

/-- What a model is told about a tool. -/
structure ToolDescription where
  name : String
  description : String
  schema : Json := .null

namespace ToolDescription

def ofTool (t : Tool) : ToolDescription := ⟨t.name, t.description, t.schema⟩

def isNull : Json → Bool
  | .null => true
  | _ => false

def toJson (d : ToolDescription) : Json :=
  .object ([("name", .string d.name), ("description", .string d.description)]
    ++ Json.fieldUnless (isNull d.schema) "schema" d.schema)

def reader : Json.Reader ToolDescription := fun depth t => do
  let r ← Json.Record.ofTree? ["name", "description", "schema"] depth t
  return {
    name := ← r.required "name" .string
    description := ← r.required "description" .string
    schema := ← r.optional "schema" .null .value }

end ToolDescription

theorem named_nil : ∀ e ∈ ([] : List (String × Tool)), e.2.name = e.1 := nofun

/-- Tools in the order of their names, one for each name. -/
structure Registry where
  tools : List (String × Tool) := []
  named : ∀ e ∈ tools, e.2.name = e.1 := by exact Guardrail.Agent.named_nil

namespace Registry

/-- The tool takes the place of one with its name. -/
def register (r : Registry) (t : Tool) : Registry where
  tools := Json.insertField t.name t r.tools
  named e he := by
    rcases Json.eq_or_mem_of_mem_insertField he with rfl | he
    · rfl
    · exact r.named e he

def unregister (r : Registry) (name : String) : Registry where
  tools := r.tools.filter (·.1 != name)
  named e he := r.named e (List.mem_filter.mp he).1

def get? (r : Registry) (name : String) : Option Tool := r.tools.lookup name

theorem name_of_get? {r : Registry} {name : String} {t : Tool} (h : r.get? name = some t) :
    t.name = name := by
  obtain ⟨before, after, he, _⟩ := List.lookup_eq_some_iff.mp h
  exact r.named (name, t) (he ▸ by simp)

def contains (r : Registry) (name : String) : Bool := (r.get? name).isSome

def names (r : Registry) : List String := r.tools.map (·.1)

def describe (r : Registry) : List ToolDescription := r.tools.map fun (_, t) => .ofTool t

end Registry
end Guardrail.Agent
