import Guardrail.Retrieval.Document
import Guardrail.Text.Search

/-! Filters for retrieved documents, run one after the other. Each of them looks at one document at
a time and either drops it, keeps it or replaces its content. -/

namespace Guardrail.Retrieval

def leakNotice : String := "[REDACTED: DLP detected]"

/-- Words in a document's content that call for redaction, in any case. -/
def secretMarkers : List String := [
  "password", "secret", "api_key", "apikey", "access_token", "private_key", "credential"]

def hasSecret (content : String) : Bool :=
  secretMarkers.any (Text.contains (Text.lower content))

inductive Filter where
  /-- Replaces content that looks like a secret. -/
  | redact
  /-- Drops what lies above the viewer's clearance. -/
  | clearance
  /-- Keeps what lies in one of the namespaces; none, or a star among them, keeps all. -/
  | within (namespaces : List String)
  deriving DecidableEq

namespace Filter

def name : Filter → String
  | redact => "dlp"
  | clearance => "sensitivity"
  | within _ => "namespace"

/-- What becomes of one document. -/
def screen (viewer : Sensitivity) : Filter → Document → Option Document
  | redact, d => some (if hasSecret d.content then { d with content := leakNotice } else d)
  | clearance, d => if d.sensitivity.rank ≤ viewer.rank then some d else none
  | within allowed, d =>
    if allowed.isEmpty || allowed.contains "*" || allowed.contains d.namespace_ then some d
    else none

def apply (viewer : Sensitivity) (f : Filter) (docs : List Document) : List Document :=
  docs.filterMap (f.screen viewer)

end Filter

/-- Filters in the order in which they run. -/
abbrev Chain := List Filter

namespace Chain

def standard : Chain := [.redact, .clearance]

/-- The filter comes after all the others. -/
def add (chain : Chain) (f : Filter) : Chain := chain ++ [f]

def apply (viewer : Sensitivity) (chain : Chain) (docs : List Document) : List Document :=
  chain.foldl (fun docs f => f.apply viewer docs) docs

end Chain
end Guardrail.Retrieval
