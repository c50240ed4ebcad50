import Guardrail.Assembly
import Guardrail.CommandLine.Command
import Guardrail.Retrieval.Access

/-! What the program does: it reads its command line and its settings, carries out one command and
prints one JSON value. Its status says whether the request was allowed, and a failure is told in a
line of its own. -/

namespace Guardrail.CommandLine

/-- All that the program learns from outside. -/
structure Surroundings where
  files : Files
  home : String
  environment : Settings.Environment
  services : Services
  now : Timestamp

/-- What a run prints. -/
inductive Printout where
  | nothing
  | value (v : Json)
  | text (s : String)

namespace Printout

def render : Printout → String
  | nothing => ""
  | value v => v.pretty 0 ++ "\n"
  | text s => s

end Printout

/-- How a run ends. -/
structure Ending where
  status : Nat
  output : Printout := .nothing
  /-- What is told of a failure. -/
  failure : Option String := none

def programName : String := "aiguard"

def programVersion : String := "0.3.0"

def usageText : String :=
  "Usage: " ++ programName ++ " [--config PATH] [--log-json] COMMAND\n\nCommands:\n"
    ++ String.join (commandNames.map fun name => "  " ++ name ++ "\n")

namespace Ending

def statusOf (allowed : Bool) : Nat := if allowed then 0 else 1

def usageStatus : Nat := 2

def printed (allowed : Bool) (v : Json) : Ending := ⟨statusOf allowed, .value v, none⟩

def failed (text : String) : Ending := ⟨1, .nothing, some text⟩

def ofVerdict (v : Verdict) : Ending := printed v.allowed v.toJson

def ofUsage : UsageFault → Ending
  | .helpAsked => ⟨0, .text usageText, none⟩
  | .versionAsked => ⟨0, .text (programName ++ " " ++ programVersion ++ "\n"), none⟩
  | _ => ⟨usageStatus, .nothing, none⟩

end Ending

variable (w : Surroundings) (s : Settings)

def checkPrompt (tenant prompt : String) (keywords : List String) : Verdict :=
  (s.store w.now).checkPrompt tenant prompt keywords

/-- A verdict that is pending is asked for once more when the wait is over. -/
def filterOutput (tenant output : String) (wait : Nat) : Verdict :=
  let firewall := s.moderation.firewall w.services (s.store w.now)
  let (v, waiting) := firewall.filterOutput 0 tenant output
  if firewall.detector.isSome && v.reason == Moderation.pendingReason && 0 < wait then
    ((waiting.advance 0 wait).filterOutput wait tenant output).1
  else v

/-- Every tool that is named is there and does nothing. -/
def idleRegistry (tools : List String) : Agent.Registry :=
  tools.foldl (fun r tool => r.register (Agent.Tool.idle tool "")) {}

def plan (tenant prompt : String) (tools : List String) (maxIterations : Option Nat) : Ending :=
  let firewall := s.moderation.firewall w.services (s.store w.now)
  let gateway := s.agent.gateway firewall (idleRegistry tools)
  match (gateway.plan { tenant, prompt, tools, maxIterations := maxIterations.getD 0 }).2 with
  | .ok report => .printed true report.toJson
  | .error e => .printed false (Json.sorted (.object [
      ("error", .string e.fault.message),
      ("response", e.report.toJson)]))

/-- Where policy modules are looked for. -/
def policyDirectory (asked : Option String) : String :=
  s.policy.directoryOr asked (Settings.policyDirectory w.home w.environment)

def decide (input : Decision.Input) (asked : Option String) : Except Decision.Fault Decision := do
  let evaluator ← s.policy.evaluator w.files (policyDirectory w s asked)
  (evaluator.decide Decision.ruleEngine input).2

/-- Why a retrieval that is asked for is refused. -/
def refusal? (store : Store) (tenant space query : String) : Except Retrieval.Refusal Unit := do
  Retrieval.checkNamespace store tenant space
  Retrieval.checkQuery query

/-- The documents that the viewer gets to see. -/
def visible (clearance : String) (docs : List Document) : List Document :=
  Retrieval.Chain.standard.apply (.ofLabel clearance) docs

/-- The request is checked before the file is read. -/
def retrieve (tenant space query path clearance : String) : Ending :=
  match refusal? (s.store w.now) tenant space query with
  | .error e => .ofVerdict (.block e.message [space])
  | .ok () =>
    match w.files.readText path with
    | .error _ => .failed ("reading " ++ path)
    | .ok text =>
      match (Json.Reader.list Document.reader).ofText? text with
      | none => .failed ("parsing " ++ path)
      | some docs => .printed true (Json.sorted (.object [
          ("allowed", .bool true),
          ("documents", .array ((visible clearance docs).map (·.toJson)))]))

def carryOut : Command → Ending
  | .checkPrompt tenant prompt keywords => .ofVerdict (checkPrompt w s tenant prompt keywords)
  | .filterOutput tenant output wait => .ofVerdict (filterOutput w s tenant output wait)
  | .plan tenant prompt tools maxIterations => plan w s tenant prompt tools maxIterations
  | .decide tenant prompt mode asked simulation =>
    match decide w s { tenant, mode, prompt, simulation } asked with
    | .ok d => .printed d.allow d.toJson
    | .error f => .failed f.message
  | .retrieve tenant space query path clearance => retrieve w s tenant space query path clearance

/-- Where the settings of an invocation are. -/
def settingsPath (i : Invocation) : String := i.settings.getD (Settings.file w.home w.environment)

def settingsOf (i : Invocation) : Except Failure Settings :=
  Settings.load w.files w.home w.environment i.settings

/-- A place that a command reads from. -/
inductive Need where
  | file (path : String)
  | directory (path : String)

def Command.need? : Command → Option Need
  | .decide _ _ _ asked _ => some (.directory (policyDirectory w s asked))
  | .retrieve _ _ _ path _ => some (.file path)
  | _ => none

def runInvocation (i : Invocation) : Ending :=
  match settingsOf w i with
  | .error _ => .failed "loading settings"
  | .ok s => carryOut w s i.command

/-- The program as a whole, from its words to its end. -/
def run (words : List String) : Ending :=
  match Invocation.ofWords words with
  | .error f => .ofUsage f
  | .ok i => runInvocation w i

end Guardrail.CommandLine
