import Guardrail.Json

/-! Settings of the guardrails, a section for each of their parts. Every field has a value to begin
with, and every field is written. -/

namespace Guardrail

/-! The values to begin with that are not simply empty. -/

namespace Settings

def defaultApiBase : String :=
  "https://dashscope.aliyuncs.com/api/v1/services/aigc/text-moderation"

def defaultModel : String := "qwen-moderation"

def defaultModerationTimeout : Nat := 8

def defaultWorkers : Nat := 2

def defaultQueueSize : Nat := 64

def defaultRate : Nat := 5

def defaultRetries : Nat := 2

def defaultCacheMinutes : Nat := 10

def defaultOutputMode : String := "mark"

def defaultSweepInterval : Nat := 60

def defaultDecisionQuery : String := "data.guardrails.allow"

def defaultPolicyTimeout : Nat := 1000

def defaultMaxIterations : Nat := 10

def defaultAgentTimeout : Nat := 60

def defaultSandboxTimeout : Nat := 30

def defaultMemoryLimit : Nat := 128 * 1024 * 1024

end Settings

open Settings

structure ModerationSettings where
  apiBase : String := defaultApiBase
  /-- No token, no moderation. -/
  apiToken : String := ""
  model : String := defaultModel
  timeoutSecs : Nat := defaultModerationTimeout
  workers : Nat := defaultWorkers
  queueSize : Nat := defaultQueueSize
  /-- Calls a second, zero for no limit. -/
  rate : Nat := defaultRate
  retries : Nat := defaultRetries
  cacheMinutes : Nat := defaultCacheMinutes
  outputMode : String := defaultOutputMode
  /-- Zero for no sweeps. -/
  sweepSecs : Nat := defaultSweepInterval
  deriving DecidableEq

structure PolicySettings where
  directory : Option String := none
  query : String := defaultDecisionQuery
  timeoutMillis : Nat := defaultPolicyTimeout
  deriving DecidableEq

structure AgentSettings where
  maxIterations : Nat := defaultMaxIterations
  timeoutSecs : Nat := defaultAgentTimeout
  sandboxTimeoutSecs : Nat := defaultSandboxTimeout
  memoryLimit : Nat := defaultMemoryLimit
  allowedTools : List String := []
  deniedTools : List String := []
  deriving DecidableEq

structure TenantSettings where
  name : String := ""
  promptRules : List String := []
  tools : List String := []
  namespaces : List String := []
  sensitiveTerms : List String := []
  deriving DecidableEq

structure LoggingSettings where
  json : Bool := false
  filter : Option String := none
  deriving DecidableEq

structure Settings where
  moderation : ModerationSettings := {}
  policy : PolicySettings := {}
  agent : AgentSettings := {}
  /-- By tenant, in the order of their names. -/
  tenants : List (String × TenantSettings) := []
  logging : LoggingSettings := {}
  deriving DecidableEq

def ModerationSettings.toJson (m : ModerationSettings) : Json := .object [
  ("api_base", .string m.apiBase),
  ("api_token", .string m.apiToken),
  ("model", .string m.model),
  ("timeout_secs", .integer m.timeoutSecs),
  ("workers", .integer m.workers),
  ("queue_size", .integer m.queueSize),
  ("rps", .integer m.rate),
  ("retries", .integer m.retries),
  ("cache_ttl_mins", .integer m.cacheMinutes),
  ("output_mode", .string m.outputMode),
  ("sweep_interval_secs", .integer m.sweepSecs)]

def PolicySettings.toJson (p : PolicySettings) : Json := .object [
  ("policy_dir", .ofOption .string p.directory),
  ("decision_query", .string p.query),
  ("timeout_ms", .integer p.timeoutMillis)]

def AgentSettings.toJson (a : AgentSettings) : Json := .object [
  ("max_iterations", .integer a.maxIterations),
  ("timeout_secs", .integer a.timeoutSecs),
  ("sandbox_timeout_secs", .integer a.sandboxTimeoutSecs),
  ("memory_limit_bytes", .integer a.memoryLimit),
  ("allowed_tools", .strings a.allowedTools),
  ("extra_denied_tools", .strings a.deniedTools)]

def TenantSettings.toJson (t : TenantSettings) : Json := .object [
  ("name", .string t.name),
  ("prompt_rules", .strings t.promptRules),
  ("tool_allow_list", .strings t.tools),
  ("rag_namespaces", .strings t.namespaces),
  ("sensitive_terms", .strings t.sensitiveTerms)]

def LoggingSettings.toJson (l : LoggingSettings) : Json := .object [
  ("json", .bool l.json),
  ("filter", .ofOption .string l.filter)]

def Settings.toJson (s : Settings) : Json := .object [
  ("moderation", s.moderation.toJson),
  ("policy", s.policy.toJson),
  ("agent", s.agent.toJson),
  ("tenants", .object (s.tenants.map fun (name, t) => (name, t.toJson))),
  ("logging", s.logging.toJson)]

end Guardrail
