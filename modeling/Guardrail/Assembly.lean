import Guardrail.Agent.Gateway
import Guardrail.Decision.Evaluator
import Guardrail.Moderation.Classifier
import Guardrail.Settings.Load

/-! The guardrails that settings describe: a policy for every tenant, a firewall whose detector is
there only if there is a token, a sandbox and a gateway around it, and an evaluator of policy
modules. -/

namespace Guardrail

/-- What remote services answer, by their address and the number of the request. -/
abbrev Services := String → Nat → Moderation.Request → Moderation.Exchange

/-- The policy that a tenant begins with. -/
def TenantSettings.policy (t : TenantSettings) (tenant : String) : TenantPolicy where
  tenant := tenant
  name := if t.name.isEmpty then "settings" else t.name
  promptRules := t.promptRules
  tools := t.tools
  namespaces := t.namespaces
  sensitiveTerms := t.sensitiveTerms

/-- One policy for each tenant, with the tenant's name for its id. -/
def Settings.store (s : Settings) (now : Timestamp) : Store :=
  s.tenants.foldl (fun store (tenant, t) => (store.create tenant now (t.policy tenant)).1) {}

namespace ModerationSettings

def options (m : ModerationSettings) : Moderation.Options where
  queueSize := m.queueSize
  rate := m.rate
  cacheTtl := m.cacheMinutes * 60 * 1000

def classifier (m : ModerationSettings) (services : Services) : Moderation.Classifier where
  endpoint := ⟨m.apiBase, services m.apiBase⟩
  token := m.apiToken
  model := m.model
  retries := m.retries.toUInt32

/-- A detector at work, from the beginning of its clock. -/
def detector (m : ModerationSettings) (services : Services) : Moderation.Detector :=
  ((Moderation.Detector.new (m.classifier services).client m.options).start
    (max 1 m.workers)).startSweeper 0 (m.sweepSecs * 1000)

def detector? (m : ModerationSettings) (services : Services) : Option Moderation.Detector :=
  if m.apiToken.isEmpty then none else some (m.detector services)

/-- Moderation stands behind the firewall's own scan. -/
def firewall (m : ModerationSettings) (services : Services) (store : Store) : Firewall :=
  .new store (m.detector? services) (.ofLabel m.outputMode)

end ModerationSettings

namespace AgentSettings

def sandbox (a : AgentSettings) : Agent.Sandbox where
  timeout := a.sandboxTimeoutSecs * 1000
  memoryLimit := a.memoryLimit
  allowed := a.allowedTools
  extraDenied := a.deniedTools

def gateway (a : AgentSettings) (firewall : Firewall) (registry : Agent.Registry) :
    Agent.Gateway where
  firewall := firewall
  registry := registry
  sandbox := a.sandbox
  defaultIterations := a.maxIterations
  defaultTimeout := a.timeoutSecs * 1000

end AgentSettings

namespace PolicySettings

/-- A directory that is asked for counts before that of the settings, and that before the usual
place. -/
def directoryOr (p : PolicySettings) (asked : Option String) (usual : String) : String :=
  (asked.or p.directory).getD usual

def evaluator (p : PolicySettings) (files : Files) (directory : String) :
    Except Decision.Fault Decision.Evaluator :=
  Decision.Evaluator.ofDirectory files directory p.query p.timeoutMillis

end PolicySettings
end Guardrail
