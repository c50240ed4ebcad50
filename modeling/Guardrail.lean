import Guardrail.Main
import Guardrail.Moderation.ChatJudge
import Guardrail.Proofs.Agent.Deadline
import Guardrail.Proofs.Agent.Leaks
import Guardrail.Proofs.Agent.PromptRules
import Guardrail.Proofs.Agent.Reasons
import Guardrail.Proofs.Agent.Screening
import Guardrail.Proofs.Agent.ToolCall
import Guardrail.Proofs.Agent.Trace
import Guardrail.Proofs.Agent.Turns
import Guardrail.Proofs.Decision.Permits
import Guardrail.Proofs.Decision.Restart
import Guardrail.Proofs.Moderation.Scanned
import Guardrail.Proofs.Moderation.Slots
import Guardrail.Proofs.Moderation.Sweeps
import Guardrail.Proofs.Retrieval.Release
import Guardrail.Proofs.Terms
import Guardrail.Proofs.Retrieval.Filtering
import Guardrail.Proofs.Agent.Denied
import Guardrail.Proofs.Tenant.Table
import Guardrail.Proofs.Tenant.Unions
import Guardrail.Proofs.Retrieval.Namespaces
import Guardrail.Proofs.Settings.Layers
import Guardrail.Proofs.Text.Identifiers
import Guardrail.Proofs.Text.Smuggling
import Guardrail.Proofs.Agent.Counters
import Guardrail.Proofs.Moderation.Retries
import Guardrail.Proofs.Json.Lossless
import Guardrail.Proofs.Json.Records
import Guardrail.Proofs.Json.RoundTrip
