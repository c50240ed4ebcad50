import Guardrail.Failure

/-! Why there is no policy decision. None of these means that something is allowed or denied. -/

namespace Guardrail.Decision

inductive Fault where
  /-- The modules could not be read. -/
  | load (path details : String)
  /-- There are no modules, in a named place or at all. -/
  | emptyModuleSet (source : Option String)
  | evaluation (details : String)
  | timeout (milliseconds : Nat)
  /-- The query has no value. -/
  | emptyDecision
  /-- The query's value is no decision. -/
  | malformedDecision (details : String)
  deriving DecidableEq

namespace Fault

def message : Fault → String
  | load path details => "Failed to load policies from " ++ path ++ ": " ++ details
  | emptyModuleSet none => "No rego modules found"
  | emptyModuleSet (some source) => "No rego modules found in " ++ source
  | evaluation details => "Policy evaluation failed: " ++ details
  | timeout milliseconds => "Policy evaluation timed out after " ++ toString milliseconds ++ "ms"
  | emptyDecision => "empty decision"
  | malformedDecision details => "unexpected decision type: " ++ details

def failure (f : Fault) : Failure := ⟨.policy, f.message⟩

end Fault
end Guardrail.Decision
