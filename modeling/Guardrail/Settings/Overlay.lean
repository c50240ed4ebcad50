import Guardrail.Arithmetic
import Guardrail.Settings
import Guardrail.Text.Number

/-! Environment variables over settings. A variable that is empty counts as not set, and one that
should be a number but is none, or is too large for its field, leaves the field as it is. -/

namespace Guardrail.Settings

/-- The values of the variables that are set. -/
abbrev Environment := String → Option String

namespace Environment

def text (env : Environment) (name current : String) : String :=
  ((env name).filter (!·.isEmpty)).getD current

/-- A number below the limit, with blanks around it. -/
def number (env : Environment) (name : String) (limit current : Nat) : Nat :=
  ((env name).bind fun v => Text.natural? limit (Text.trim v)).getD current

def word (env : Environment) (name : String) (current : Nat) : Nat :=
  env.number name (twoTo 64) current

def halfWord (env : Environment) (name : String) (current : Nat) : Nat :=
  env.number name (twoTo 32) current

end Environment

def overlayModeration (env : Environment) (m : ModerationSettings) : ModerationSettings :=
  { m with
    apiBase := env.text "QWEN_API_BASE" m.apiBase
    apiToken := env.text "QWEN_API_TOKEN" m.apiToken
    model := env.text "QWEN_MODEL" m.model
    timeoutSecs := env.word "QWEN_TIMEOUT_SEC" m.timeoutSecs
    rate := env.halfWord "QWEN_RPS" m.rate
    retries := env.halfWord "QWEN_RETRIES" m.retries
    workers := env.word "LLM_WORKERS" m.workers
    queueSize := env.word "LLM_QUEUE_SIZE" m.queueSize
    cacheMinutes := env.word "LLM_CACHE_TTL_MIN" m.cacheMinutes
    outputMode := env.text "OUTPUT_MODE" m.outputMode }

def overlayPolicy (env : Environment) (p : PolicySettings) : PolicySettings :=
  { p with
    directory := ((env "OPA_POLICY_DIR").filter (!·.isEmpty)).or p.directory
    query := env.text "OPA_DECISION" p.query }

def overlay (env : Environment) (s : Settings) : Settings :=
  { s with
    moderation := overlayModeration env s.moderation
    policy := overlayPolicy env s.policy }

end Guardrail.Settings
