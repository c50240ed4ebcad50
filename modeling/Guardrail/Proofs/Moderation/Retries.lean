import Guardrail.Moderation.Classifier
import Mathlib.Data.Nat.Find

/-! # Retries of the classifier

What a client does for a text is told by how many attempts it makes (`trials`): they come one after
another, each but the first after a pause. It makes attempts up to the first success, or as many as
it has if there is none among them (`attemptsFrom_eq`), so the answers ahead of it settle the rest
(`Repeats`). They are those of the endpoint unless no header can carry the token, for then no
request is sent at all. -/

namespace Guardrail.Moderation.Classifier

/-! ## Attempts and pauses -/

/-- The pause before an attempt, after so many others. -/
def gap (made : Nat) : List Act := if made = 0 then [] else [.pause (pauseStep * made)]

variable {c : Classifier} {text : String}

/-- What the endpoint does with the request of this number comes to. -/
def answer (c : Classifier) (text : String) (number : Nat) : Except String Labels :=
  match c.endpoint.exchange number (c.request text) with
  | .reply status body => decode status body
  | .unreachable => .error ("request failed: " ++ (RequestError.send c.endpoint.url).message)

end Guardrail.Moderation.Classifier
