import Guardrail.Failure
import Guardrail.Retrieval.Chain
import Guardrail.Tenant.Store
import Guardrail.Text.Injection

/-! What a tenant may ask of retrieval: the namespaces open to it, the queries that are refused, and
the masking of single results. -/

namespace Guardrail.Retrieval

inductive Refusal where
  | namespaceNotAllowed (name : String)
  | queryInjection
  deriving DecidableEq

namespace Refusal

def message : Refusal → String
  | namespaceNotAllowed name => "namespace not allowed: " ++ name
  | queryInjection => "potential query injection detected"

def failure (r : Refusal) : Failure := ⟨.retrieval, r.message⟩

end Refusal

/-- Whether a namespace is the pattern or, if the pattern ends in a star, begins with what stands
before the star. -/
def patternAdmits (pattern name : String) : Bool :=
  pattern == name ||
    match pattern.toList.reverse with
    | '*' :: lead => lead.reverse.isPrefixOf name.toList
    | _ => false

/-- No patterns admit everything. -/
def admits (patterns : List String) (name : String) : Bool :=
  patterns.isEmpty || patterns.any (patternAdmits · name)

def checkNamespace (s : Store) (tenant name : String) : Except Refusal Unit :=
  if admits (s.namespaces tenant) name then .ok () else .error (.namespaceNotAllowed name)

def checkQuery (query : String) : Except Refusal Unit :=
  if Text.hasInjection (Text.lower query) then .error .queryInjection else .ok ()

def termNotice : String := "[REDACTED: contains sensitive term]"

def secretNotice : String := "[REDACTED]"

/-- A result is masked whole, for the tenant's terms before the word `password`. -/
def mask (s : Store) (tenant text : String) : String :=
  if (Text.firstMentioned text (s.sensitiveTerms tenant)).isSome then termNotice
  else if Text.contains (Text.lower text) "password" then secretNotice
  else text

end Guardrail.Retrieval
