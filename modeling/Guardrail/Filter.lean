import Guardrail.Text.SecretShape
import Guardrail.Verdict

/-! Checks of a text on its own: the injection phrase and keywords of a prompt, and sensitive data.
Words are matched by lower-casing text and word alike; the shapes of identifiers are sought in the
text as it stands. A prompt check stops at the first finding, a scan collects all of them. -/

namespace Guardrail.Filter

/-- The phrase that no prompt may contain, in any case. -/
def injectionPhrase : String := "ignore previous instructions"

/-- Words that mark sensitive data wherever they stand. -/
def sensitiveWords : List String := [
  "password", "ssn", "secret", "apikey", "credit card", "passport", "id card", "social security",
  "iban", "swift", "private key", "api key", "token", "secret key", "credential", "confidential",
  "proprietary"]

/-- The phrase comes before the keywords, of which the first found is reported as it was given. -/
def checkPrompt (prompt : String) (keywords : List String) : Verdict :=
  if Text.contains (Text.lower prompt) injectionPhrase then
    .block "prompt_injection_detected" [injectionPhrase]
  else match Text.firstMentioned prompt keywords with
    | some keyword => .block "keyword_block" [keyword]
    | none => .allow

/-- Identifiers by shape, then words, then terms, each in its own order. -/
def findLeaks (text : String) (terms : List String) : List String :=
  Text.SecretShape.all.filterMap (·.find text)
    ++ sensitiveWords.filter (Text.contains (Text.lower text))
    ++ terms.filter fun term => !term.isEmpty && Text.mentions text term

def scanLeaks (text : String) (terms : List String) : LeakReport :=
  let found := findLeaks text terms
  if found.isEmpty then .clean else ⟨true, "dlp_match", found⟩

theorem scanLeaks_hit (text : String) (terms : List String) :
    (scanLeaks text terms).hit = !(findLeaks text terms).isEmpty := by
  unfold scanLeaks
  cases h : (findLeaks text terms).isEmpty <;> simp [h, LeakReport.clean]

end Guardrail.Filter
