import Guardrail.Arithmetic
import Guardrail.Json.Record
import Guardrail.Settings

/-! Settings in a tree. The sections and their fields are the same whatever the tree is written in;
a `Source` says how each kind of place is read from it. A field that is missing keeps the value it
has to begin with, a name that is unknown is passed over, and one place that cannot be read makes the
whole unreadable. -/

namespace Guardrail.Settings

/-- How a tree of some kind is read. -/
structure Source (τ : Type) where
  flag : τ → Option Bool
  /-- A natural number below a limit. -/
  number : Nat → τ → Option Nat
  text : τ → Option String
  /-- What stands in a place that may be left empty. -/
  content : τ → Option (Option τ)
  items : τ → Option (List τ)
  /-- All entries of a map, in their order. -/
  entries : τ → Option (List (String × τ))
  /-- The entries with known names, none of which is repeated. -/
  fields : List String → τ → Option (List (String × τ))

namespace Source

/-- JSON, where nothing stands for anything else. -/
def json : Source Json.Tree where
  flag := Json.Reader.bool 0
  number limit := Json.Reader.natBelow limit 0
  text := Json.Reader.string 0
  content
    | .null => some none
    | t => some (some t)
  items
    | .array ts => some ts
    | _ => none
  entries
    | .object fields => fields.mapM fun (name, t) => name.map (·, t)
    | _ => none
  fields names t := (Json.Record.ofTree? names 0 t).map (·.fields)

variable {τ : Type} (s : Source τ)

def word : τ → Option Nat := s.number (twoTo 64)

def halfWord : τ → Option Nat := s.number (twoTo 32)

def optionalText (t : τ) : Option (Option String) := do
  match ← s.content t with
  | none => some none
  | some t => (s.text t).map some

def texts (t : τ) : Option (List String) := do (← s.items t).mapM s.text

/-- The last entry of each name, in the order of the names. -/
def map (read : τ → Option α) (t : τ) : Option (List (String × α)) := do
  let entries ← (← s.entries t).mapM fun (name, t) => (read t).map (name, ·)
  return Json.sortFields entries

end Source

/-- The value of a field, or the value that stands for its absence. -/
def fieldOr (fields : List (String × τ)) (name : String) (absent : α)
    (read : τ → Option α) : Option α :=
  match fields.lookup name with
  | some t => read t
  | none => some absent

variable {τ : Type} (s : Source τ)

def moderationNames : List String := [
  "api_base", "api_token", "model", "timeout_secs", "workers", "queue_size", "rps", "retries",
  "cache_ttl_mins", "output_mode", "sweep_interval_secs"]

def readModeration (t : τ) : Option ModerationSettings := do
  let fs ← s.fields moderationNames t
  return {
    apiBase := ← fieldOr fs "api_base" defaultApiBase s.text
    apiToken := ← fieldOr fs "api_token" "" s.text
    model := ← fieldOr fs "model" defaultModel s.text
    timeoutSecs := ← fieldOr fs "timeout_secs" defaultModerationTimeout s.word
    workers := ← fieldOr fs "workers" defaultWorkers s.word
    queueSize := ← fieldOr fs "queue_size" defaultQueueSize s.word
    rate := ← fieldOr fs "rps" defaultRate s.halfWord
    retries := ← fieldOr fs "retries" defaultRetries s.halfWord
    cacheMinutes := ← fieldOr fs "cache_ttl_mins" defaultCacheMinutes s.word
    outputMode := ← fieldOr fs "output_mode" defaultOutputMode s.text
    sweepSecs := ← fieldOr fs "sweep_interval_secs" defaultSweepInterval s.word }

def policyNames : List String := ["policy_dir", "decision_query", "timeout_ms"]

def readPolicy (t : τ) : Option PolicySettings := do
  let fs ← s.fields policyNames t
  return {
    directory := ← fieldOr fs "policy_dir" none s.optionalText
    query := ← fieldOr fs "decision_query" defaultDecisionQuery s.text
    timeoutMillis := ← fieldOr fs "timeout_ms" defaultPolicyTimeout s.word }

def agentNames : List String := [
  "max_iterations", "timeout_secs", "sandbox_timeout_secs", "memory_limit_bytes", "allowed_tools",
  "extra_denied_tools"]

def readAgent (t : τ) : Option AgentSettings := do
  let fs ← s.fields agentNames t
  return {
    maxIterations := ← fieldOr fs "max_iterations" defaultMaxIterations s.word
    timeoutSecs := ← fieldOr fs "timeout_secs" defaultAgentTimeout s.word
    sandboxTimeoutSecs := ← fieldOr fs "sandbox_timeout_secs" defaultSandboxTimeout s.word
    memoryLimit := ← fieldOr fs "memory_limit_bytes" defaultMemoryLimit s.word
    allowedTools := ← fieldOr fs "allowed_tools" [] s.texts
    deniedTools := ← fieldOr fs "extra_denied_tools" [] s.texts }

def tenantNames : List String := [
  "name", "prompt_rules", "tool_allow_list", "rag_namespaces", "sensitive_terms"]

def readTenant (t : τ) : Option TenantSettings := do
  let fs ← s.fields tenantNames t
  return {
    name := ← fieldOr fs "name" "" s.text
    promptRules := ← fieldOr fs "prompt_rules" [] s.texts
    tools := ← fieldOr fs "tool_allow_list" [] s.texts
    namespaces := ← fieldOr fs "rag_namespaces" [] s.texts
    sensitiveTerms := ← fieldOr fs "sensitive_terms" [] s.texts }

def loggingNames : List String := ["json", "filter"]

def readLogging (t : τ) : Option LoggingSettings := do
  let fs ← s.fields loggingNames t
  return {
    json := ← fieldOr fs "json" false s.flag
    filter := ← fieldOr fs "filter" none s.optionalText }

def sectionNames : List String := ["moderation", "policy", "agent", "tenants", "logging"]

def read (t : τ) : Option Settings := do
  let fs ← s.fields sectionNames t
  return {
    moderation := ← fieldOr fs "moderation" {} (readModeration s)
    policy := ← fieldOr fs "policy" {} (readPolicy s)
    agent := ← fieldOr fs "agent" {} (readAgent s)
    tenants := ← fieldOr fs "tenants" [] (s.map (readTenant s))
    logging := ← fieldOr fs "logging" {} (readLogging s) }

/-- The settings that a JSON text holds. -/
def ofJsonText? (text : String) : Option Settings := (Json.Tree.parse text).bind (read .json)

/-! What stands for a field that is missing is what the field is to begin with, so that a section in
which nothing is set is the same as one that is missing. -/

section Nothing

variable {s} {t : τ}

theorem readModeration_nothing (h : s.fields moderationNames t = some []) :
    readModeration s t = some {} := by
  rw [readModeration, h]
  rfl

theorem readPolicy_nothing (h : s.fields policyNames t = some []) :
    readPolicy s t = some {} := by
  rw [readPolicy, h]
  rfl

theorem readAgent_nothing (h : s.fields agentNames t = some []) : readAgent s t = some {} := by
  rw [readAgent, h]
  rfl

theorem readLogging_nothing (h : s.fields loggingNames t = some []) :
    readLogging s t = some {} := by
  rw [readLogging, h]
  rfl

theorem read_nothing (h : s.fields sectionNames t = some []) : read s t = some {} := by
  rw [read, h]
  rfl

end Nothing

end Guardrail.Settings
