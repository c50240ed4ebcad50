import Guardrail.Json.Record

/-! What an agent run is asked for and what it reports: its steps, each with a thought, an action
and an observation, and how it ended. -/

namespace Guardrail.Agent

structure PlanRequest where
  tenant : String
  prompt : String
  tools : List String := []
  /-- Zero stands for the default. -/
  maxIterations : Nat := 0
  /-- Zero stands for the default. -/
  timeout : Nat := 0
  context : List (String × String) := []

namespace PlanRequest

def toJson (r : PlanRequest) : Json :=
  .object ([
    ("tenant_id", .string r.tenant),
    ("prompt", .string r.prompt),
    ("tools", .strings r.tools),
    ("max_iterations", .integer r.maxIterations),
    ("timeout_ms", .integer r.timeout)]
    ++ Json.fieldUnless r.context.isEmpty "context" (.stringMap r.context))

def reader : Json.Reader PlanRequest := fun depth t => do
  let r ← Json.Record.ofTree?
    ["tenant_id", "prompt", "tools", "max_iterations", "timeout_ms", "context"] depth t
  return {
    tenant := ← r.required "tenant_id" .string
    prompt := ← r.required "prompt" .string
    tools := ← r.optional "tools" [] (.list .string)
    maxIterations := ← r.optional "max_iterations" 0 .word
    timeout := ← r.optional "timeout_ms" 0 .word
    context := ← r.optional "context" [] (.map .string) }

end PlanRequest

structure Step where
  iteration : Nat
  thought : String
  action : String
  actionInput : Option Json := none
  observation : String
  duration : Nat
  blocked : Bool := false
  blockReason : String := ""

namespace Step

def fieldNames : List String := [
  "iteration", "thought", "action", "action_input", "observation", "duration_ms", "blocked",
  "block_reason"]

def toJson (s : Step) : Json :=
  .object ([
    ("iteration", .integer s.iteration),
    ("thought", .string s.thought),
    ("action", .string s.action)]
    ++ Json.fieldUnless s.actionInput.isNone "action_input" (s.actionInput.getD .null)
    ++ [("observation", .string s.observation), ("duration_ms", .integer s.duration)]
    ++ Json.fieldUnless (!s.blocked) "blocked" (.bool s.blocked)
    ++ Json.fieldUnless s.blockReason.isEmpty "block_reason" (.string s.blockReason))

def reader : Json.Reader Step := fun depth t => do
  let r ← Json.Record.ofTree? fieldNames depth t
  return {
    iteration := ← r.required "iteration" .word
    thought := ← r.required "thought" .string
    action := ← r.required "action" .string
    actionInput := ← r.optional "action_input" none (.option .value)
    observation := ← r.required "observation" .string
    duration := ← r.required "duration_ms" .word
    blocked := ← r.optional "blocked" false .bool
    blockReason := ← r.optional "block_reason" "" .string }

end Step

structure PlanReport where
  allowed : Bool := false
  reason : String := ""
  steps : List Step := []
  finalResult : Option Json := none
  totalTime : Nat := 0
  signals : List String := []

namespace PlanReport

def fieldNames : List String := [
  "allowed", "reason", "steps", "final_result", "total_time_ms", "signals"]

def toJson (p : PlanReport) : Json :=
  .object ([("allowed", .bool p.allowed)]
    ++ Json.fieldUnless p.reason.isEmpty "reason" (.string p.reason)
    ++ [("steps", .array (p.steps.map Step.toJson))]
    ++ Json.fieldUnless p.finalResult.isNone "final_result" (p.finalResult.getD .null)
    ++ [("total_time_ms", .integer p.totalTime)]
    ++ Json.fieldUnless p.signals.isEmpty "signals" (.strings p.signals))

def reader : Json.Reader PlanReport := fun depth t => do
  let r ← Json.Record.ofTree? fieldNames depth t
  return {
    allowed := ← r.required "allowed" .bool
    reason := ← r.optional "reason" "" .string
    steps := ← r.required "steps" (.list Step.reader)
    finalResult := ← r.optional "final_result" none (.option .value)
    totalTime := ← r.required "total_time_ms" .word
    signals := ← r.optional "signals" [] (.list .string) }

end PlanReport
end Guardrail.Agent
