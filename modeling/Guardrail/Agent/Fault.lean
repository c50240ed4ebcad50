import Guardrail.Failure

/-! Why a tool call or an agent run ends badly. The text is also the reason that a blocked step
carries. -/

namespace Guardrail.Agent

inductive Fault where
  | toolNotAllowed
  | timeout
  | memoryLimit
  | executorNotFound (tool : String)
  | promptRejected
  | toolBlockedByPolicy
  | outputFiltered
  | deadlineExceeded
  | toolFailed (text : String)
  deriving DecidableEq

namespace Fault

def message : Fault → String
  | toolNotAllowed => "tool not allowed in sandbox"
  | timeout => "sandbox execution timeout"
  | memoryLimit => "memory limit exceeded"
  | executorNotFound tool => "executor not found: " ++ tool
  | promptRejected => "prompt rejected"
  | toolBlockedByPolicy => "tool blocked by policy"
  | outputFiltered => "output filtered"
  | deadlineExceeded => "agent deadline exceeded"
  | toolFailed text => "tool failed: " ++ text

/-- The limits of the sandbox are its own area. -/
def failure (f : Fault) : Failure :=
  ⟨match f with
    | toolNotAllowed | timeout | memoryLimit => .sandbox
    | _ => .agent, f.message⟩

end Fault
end Guardrail.Agent
