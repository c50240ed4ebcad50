import Guardrail.Json.Record
import Guardrail.Timestamp

/-! A tenant's policy: rules for prompts, tools and namespaces that it may use, terms that must not
leave. Every field is written; only the tenant is required when one is read. -/

namespace Guardrail

structure TenantPolicy where
  id : String := ""
  tenant : String
  name : String := ""
  promptRules : List String := []
  tools : List String := []
  namespaces : List String := []
  outputFilters : List String := []
  sensitiveTerms : List String := []
  modifiedAt : Option Timestamp := none
  version : Nat := 0
  deriving DecidableEq

namespace TenantPolicy

def fieldNames : List String := [
  "id", "tenant_id", "name", "prompt_rules", "tool_allow_list", "rag_namespaces", "output_filters",
  "sensitive_terms", "last_modified_at", "version"]

def toJson (p : TenantPolicy) : Json := .object [
  ("id", .string p.id),
  ("tenant_id", .string p.tenant),
  ("name", .string p.name),
  ("prompt_rules", .strings p.promptRules),
  ("tool_allow_list", .strings p.tools),
  ("rag_namespaces", .strings p.namespaces),
  ("output_filters", .strings p.outputFilters),
  ("sensitive_terms", .strings p.sensitiveTerms),
  ("last_modified_at", .ofOption (fun t => .string t.render) p.modifiedAt),
  ("version", .integer p.version)]

def timestamp : Json.Reader Timestamp := fun depth t =>
  (Json.Reader.string depth t).bind Timestamp.parse

def reader : Json.Reader TenantPolicy := fun depth t => do
  let r ← Json.Record.ofTree? fieldNames depth t
  return {
    id := ← r.optional "id" "" .string
    tenant := ← r.required "tenant_id" .string
    name := ← r.optional "name" "" .string
    promptRules := ← r.optional "prompt_rules" [] (.list .string)
    tools := ← r.optional "tool_allow_list" [] (.list .string)
    namespaces := ← r.optional "rag_namespaces" [] (.list .string)
    outputFilters := ← r.optional "output_filters" [] (.list .string)
    sensitiveTerms := ← r.optional "sensitive_terms" [] (.list .string)
    modifiedAt := ← r.optional "last_modified_at" none (.option timestamp)
    version := ← r.optional "version" 0 .word }

end TenantPolicy
end Guardrail
