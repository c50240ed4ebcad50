import Guardrail.Arithmetic
import Guardrail.Failure
import Guardrail.Moderation.Detector
import Guardrail.Moderation.Http

/-! The client of a service that labels texts. A failed attempt of any kind is repeated after a
pause that grows with every attempt, until one succeeds or the retries are used up; the last failure
is the one that is told. Without a token nothing is sent and everything is allowed.

There is one attempt more than there are retries, and the count has 32 bits: with as many retries as
there can be it overflows, and where that is not checked there is no attempt at all. -/

namespace Guardrail.Moderation

structure Classifier where
  endpoint : Endpoint
  token : String
  model : String
  retries : UInt32

/-- What a client does for a text. -/
inductive Act where
  /-- An attempt, by its number from zero, and whether its request is sent. -/
  | attempt (number : Nat) (sent : Bool)
  /-- A pause in milliseconds. -/
  | pause (ticks : Nat)
  deriving DecidableEq

namespace Act

def sends : Act → Bool
  | attempt _ sent => sent
  | pause _ => false

def ticks : Act → Nat
  | attempt _ _ => 0
  | pause ticks => ticks

end Act

/-- What became of one text: what was done for it, in order, and the verdict. -/
structure Outcome where
  acts : List Act := []
  result : Except Failure Verdict

namespace Outcome

/-- How many requests were sent. -/
def requests (o : Outcome) : Nat := o.acts.countP Act.sends

/-- How long was paused, in milliseconds. -/
def pause (o : Outcome) : Nat := total (o.acts.map Act.ticks)

end Outcome

namespace Classifier

def pauseStep : Nat := 100

def request (c : Classifier) (text : String) : Request where
  token := c.token
  body := .object [("model", .string c.model), ("input", .object [("text", .string text)])]

/-- Whether the text is unsafe, and its labels. -/
structure Labels where
  isUnsafe : Bool := false
  labels : List String := []
  deriving DecidableEq

def labelsReader : Json.Reader Labels := fun depth t => do
  let r ← Json.Record.ofTree? ["unsafe", "labels"] depth t
  return {
    isUnsafe := ← r.optional "unsafe" false .bool
    labels := ← r.optional "labels" [] (.list .string) }

def replyReader : Json.Reader Labels := fun depth t => do
  let r ← Json.Record.ofTree? ["output"] depth t
  r.optional "output" {} labelsReader

def Labels.verdict (l : Labels) : Verdict :=
  if l.isUnsafe then .block "qwen_block" l.labels else .allowWith "qwen_allow" l.labels

/-- What a reply with this status and body says, or why it says nothing. -/
def decode (status : Nat) (body : String) : Except String Labels :=
  if !isSuccess status then .error ("endpoint returned " ++ statusText status ++ ": " ++ body)
  else match replyReader.ofText? body with
    | some l => .ok l
    | none => .error ("invalid response: " ++ undecodable)

/-- A single attempt, by its number from zero. -/
def attempt (c : Classifier) (text : String) (number : Nat) : Except String Labels :=
  match send c.endpoint (c.request text) number with
  | .error e => .error ("request failed: " ++ e.message)
  | .ok (status, body) => decode status body

/-- What is done from the attempt of this number on if so many are left, and what it comes to: the
failure before it if none is. -/
def attemptsFrom (c : Classifier) (text : String) (number : Nat) (failure : String) :
    (left : Nat) → List Act × Except String Labels
  | 0 => ([], .error failure)
  | left + 1 =>
    let this := .attempt number (isHeaderText c.token)
    match c.attempt text number with
    | .ok l => ([this], .ok l)
    | .error e =>
      let pause := if left = 0 then [] else [.pause (pauseStep * (number + 1))]
      let (acts, answer) := c.attemptsFrom text (number + 1) e left
      (this :: pause ++ acts, answer)

def moderate (c : Classifier) (text : String) : Outcome :=
  if c.token.isEmpty then { result := .ok (.allowWith "qwen_token_missing" []) }
  else
    let (acts, answer) := c.attemptsFrom text 0 "" (c.retries + 1).toNat
    { acts
      result := match answer with
        | .ok l => .ok l.verdict
        | .error e => .error ⟨.moderation, "qwen_http_error: " ++ e⟩ }

/-- The detector's client, for a service that answers every request in the same way. -/
def client (c : Classifier) : Client := fun _ text =>
  let o := c.moderate text
  ⟨o.pause, o.result.toOption⟩

end Classifier
end Guardrail.Moderation
