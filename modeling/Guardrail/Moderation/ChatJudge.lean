import Guardrail.Moderation.Classifier
import Guardrail.Text.Search

/-! A chat model as judge of a text. It is told to begin its answer with a word for unsafe content
and a reason; any other answer means that the content is safe. There is one request and no retry. -/

namespace Guardrail.Moderation

def defaultJudgeModel : String := "qwen-turbo"

structure ChatJudge where
  endpoint : Endpoint
  token : String
  /-- An empty name stands for the default. -/
  modelName : String := ""
  instruction : String := ""

/-- A colon and blanks are set aside before the reason. -/
def reasonOf (answer : String) : String :=
  let rest := Text.trim answer
  match Text.after? [':'] rest.toList with
  | some cs => Text.trim (String.ofList cs)
  | none => rest

def verdictOfAnswer (answer : String) : Verdict :=
  match Text.after? "UNSAFE".toList answer.toList with
  | none => .allow
  | some rest =>
    let reason := reasonOf (String.ofList rest)
    .block "llm_guard_unsafe" [if reason.isEmpty then "content unsafe" else reason]

namespace ChatJudge

def model (j : ChatJudge) : String := if j.modelName.isEmpty then defaultJudgeModel else j.modelName

def systemPrompt (j : ChatJudge) : String :=
  "You are a content safety guardrail. " ++ j.instruction
    ++ "\nIf the content is unsafe, respond with 'UNSAFE: <reason>'. If safe, respond with 'SAFE'."

def request (j : ChatJudge) (text : String) : Request :=
  let message (role content : String) : Json :=
    .object [("role", .string role), ("content", .string content)]
  { token := j.token
    body := .object [
      ("model", .string j.model),
      ("input", .object [
        ("messages", .array [message "system" j.systemPrompt, message "user" text])])] }

def textReader : Json.Reader String := fun depth t => do
  let r ← Json.Record.ofTree? ["text"] depth t
  r.optional "text" "" .string

def answerReader : Json.Reader String := fun depth t => do
  let r ← Json.Record.ofTree? ["output"] depth t
  r.optional "output" "" textReader

def ask (j : ChatJudge) (text : String) : Except String Verdict :=
  match send j.endpoint (j.request text) 0 with
  | .error e => .error ("guard request failed: " ++ e.message)
  | .ok (status, body) =>
    if status ≠ 200 then .error ("guard endpoint returned " ++ toString status)
    else match answerReader.ofText? body with
      | some answer => .ok (verdictOfAnswer answer)
      | none => .error ("invalid guard response: " ++ undecodable)

def moderate (j : ChatJudge) (text : String) : Outcome :=
  if j.token.isEmpty then { result := .ok .allow }
  else
    { acts := [.attempt 0 (isHeaderText j.token)]
      result := match j.ask text with
        | .ok v => .ok v
        | .error e => .error ⟨.moderation, e⟩ }

end ChatJudge
end Guardrail.Moderation
