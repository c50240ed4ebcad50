import Guardrail.Agent.Metrics
import Guardrail.Agent.Plan
import Guardrail.Agent.Sandbox
import Guardrail.Agent.Tool
import Guardrail.Firewall

/-! Agent runs behind their guards, on a clock in milliseconds that moves only while something is
waited for. A run passes three gates before any tool starts: the prompt, and for every tool the
tenant's policy and the sandbox. Then it takes one step after the other: a tool is started and
waited for, and what it answers must pass the output filter before the next step. The run stops at
the first thing that goes wrong, at its deadline, or when no tools are left. A tool that is no
longer waited for goes on by itself; it learns that its run is over from the run's cancellation. -/

namespace Guardrail.Agent

/-- A tool at work. -/
structure Task where
  run : Nat
  tool : String
  /-- The tick at which it ends if nothing comes in between. -/
  due : Nat
  ending : Ending
  onCancel : Option (Nat × Ending)

inductive TaskEvent where
  | started (run : Nat) (tool : String) (args : Json) (tick : Nat)
  | cancelled (run : Nat) (tool : String) (tick : Nat)
  | ended (run : Nat) (tool : String) (ending : Ending) (tick : Nat)

/-- An output that was put to the output filter, and the answer. -/
structure Screening where
  tenant : String
  output : String
  verdict : Verdict
  deriving DecidableEq

/-- The end of a run as its tools can see it: from this tick on the run is cancelled. -/
structure Cancellation where
  run : Nat
  tick : Nat
  deriving DecidableEq

/-- Ticks that the tenant's policies take to answer, which may be others each time. -/
structure Latency where
  /-- Whether a tool is allowed, by the runs begun so far and the tools yet to be asked about. -/
  allowTool : Nat → Nat → Nat := fun _ _ => 0
  /-- The sensitive terms, by the screenings made so far. -/
  sensitiveTerms : Nat → Nat := fun _ => 0

/-- The scope of one run. -/
structure RunContext where
  run : Nat
  deadline : Nat
  /-- The tick at which somebody else cancels the run, if anybody does. -/
  cancelAt : Option Nat := none

structure Gateway where
  now : Nat := 0
  firewall : Firewall
  registry : Registry := {}
  sandbox : Sandbox := {}
  latency : Latency := {}
  defaultIterations : Nat := 10
  defaultTimeout : Nat := 60000
  /-- Runs begun so far. -/
  runs : Nat := 0
  tasks : List Task := []
  /-- The latest event first. -/
  journal : List TaskEvent := []
  /-- The latest screening first. -/
  screenings : List Screening := []
  /-- The latest cancellation first. -/
  cancellations : List Cancellation := []
  /-- Who wins when a tool ends at the very tick at which it is given up: the tool, if this holds of
  the number of task events before it. Nothing else decides that race. -/
  winsTie : Nat → Bool := fun _ => false
  metrics : Metrics Float := .zero Float.ofNat

namespace RunContext

def isCancelled (c : RunContext) (now : Nat) : Bool := c.cancelAt.any (· ≤ now)

def isExpired (c : RunContext) (now : Nat) : Bool := c.isCancelled now || c.deadline ≤ now

end RunContext

namespace Gateway

/-! ### Time and tasks -/

/-- Tasks that are due by the tick end; one that was due while the clock stood aside ends now. -/
def endTasks (g : Gateway) (target : Nat) : Gateway :=
  let done := g.tasks.filter (·.due ≤ target)
  { g with
    tasks := g.tasks.filter fun t => !(t.due ≤ target)
    journal := done.foldl
      (fun j t => .ended t.run t.tool t.ending (max g.now t.due) :: j) g.journal }

/-- Time passes and whatever is due until the tick happens. -/
def advance (g : Gateway) (target : Nat) : Gateway :=
  { g.endTasks target with
    firewall := g.firewall.advance g.now target
    now := target }

/-- All that can happen at this tick. -/
def settle (g : Gateway) : Gateway := g.advance g.now

/-- The clock moves while nothing else gets its turn. -/
def occupy (g : Gateway) (ticks : Nat) : Gateway := { g with now := g.now + ticks }

/-- Ticks until the policies have answered about a tool, with so many left after it. -/
def toolDelay (g : Gateway) (left : Nat) : Nat := g.latency.allowTool g.runs left

/-- Ticks until the policies have named the sensitive terms. -/
def termsDelay (g : Gateway) : Nat := g.latency.sensitiveTerms g.screenings.length

/-- A task of the run that heeds cancellation turns to its other ending. -/
def cancelTask (now run : Nat) (t : Task) : Task :=
  match t.onCancel with
  | some (delay, ending) =>
    if t.run = run then { t with due := now + delay, ending, onCancel := none } else t
  | none => t

def heeds (run : Nat) (t : Task) : Bool := t.run == run && t.onCancel.isSome

def cancelRun (g : Gateway) (run : Nat) : Gateway :=
  { g with
    tasks := g.tasks.map (cancelTask g.now run)
    journal := (g.tasks.filter (heeds run)).foldl
      (fun j t => .cancelled t.run t.tool g.now :: j) g.journal
    cancellations := ⟨run, g.now⟩ :: g.cancellations }

/-- The tool starts with the arguments. -/
def startTask (g : Gateway) (run : Nat) (t : Tool) (args : Json) : Gateway :=
  let b := t.behave args
  { g with
    tasks := g.tasks ++ [⟨run, t.name, g.now + b.duration, b.ending, b.onCancel⟩]
    journal := .started run t.name args g.now :: g.journal }

/-! ### One tool call -/

def Ending.result (tool : String) : Ending → Except Fault Json
  | .value v => .ok v
  | .failed f => .error (.toolFailed f.message)
  | .crashed => .error (.toolFailed (tool ++ " ended without a result"))

/-- The tick at which waiting for a tool is given up. -/
def giveUpAt (g : Gateway) (ctx : RunContext) : Nat :=
  let limit := min (g.now + g.sandbox.timeout) ctx.deadline
  max g.now (match ctx.cancelAt with
    | some c => min limit c
    | none => limit)

/-- Whether a tool that ends at one tick is still waited for when it is given up at another. -/
def inTime (g : Gateway) (due limit : Nat) : Bool :=
  due < limit || (due == limit && g.winsTie g.journal.length)

/-- What must hold before a tool starts. -/
def admission (g : Gateway) (tool : String) (args : Json) : Except Fault Tool := do
  g.sandbox.check tool
  match g.registry.get? tool with
  | none => throw (.executorNotFound tool)
  | some t =>
    if g.sandbox.memoryLimit < args.compact.utf8ByteSize then throw .memoryLimit
    return t

/-- The tool starts and is waited for until it ends, or the sandbox's or the run's time is over, or
the run is cancelled. -/
def execute (g : Gateway) (ctx : RunContext) (tool : String) (args : Json) :
    Gateway × Except Fault Json :=
  match g.admission tool args with
  | .error f => (g, .error f)
  | .ok t =>
    let b := t.behave args
    let limit := g.giveUpAt ctx
    let started := g.startTask ctx.run t args
    if g.inTime (g.now + b.duration) limit then
      (started.advance (g.now + b.duration), Ending.result tool b.ending)
    else
      let late := started.advance limit
      let late := if ctx.isCancelled limit then (late.cancelRun ctx.run).settle else late
      (late, .error .timeout)

/-! ### A run -/

def finishAction : String := "finish"

def previewLength : Nat := 50

/-- The first characters of a prompt, with dots if some are left out. -/
def preview (prompt : String) : String :=
  let cs := prompt.toList
  if previewLength < cs.length then String.ofList (cs.take previewLength) ++ "..." else prompt

def thought (iteration : Nat) (prompt : String) : String :=
  "Analyzing step " ++ toString iteration ++ " for prompt: " ++ preview prompt

/-- Why a run stops early: the fault, and the reason and signals to report. -/
structure Cause where
  fault : Fault
  reason : String
  signals : List String := []

/-- How a run stops early: why, and the iterations to count for it. -/
structure Stop extends Cause where
  iterations : Nat

/-- Every tool passes the tenant's policy and then the sandbox. -/
def checkTools (g : Gateway) (tenant : String) : List String → Gateway × Option Stop
  | [] => (g, none)
  | tool :: rest =>
    let g := g.occupy (g.toolDelay rest.length)
    if !g.firewall.store.allowsTool tenant tool then
      (g, some ⟨⟨.toolBlockedByPolicy, "tool_not_allowed", [tool]⟩, 0⟩)
    else match g.sandbox.check tool with
      | .error f => (g, some ⟨⟨f, "tool_sandbox_rejected", [tool, f.message]⟩, 0⟩)
      | .ok () => g.checkTools tenant rest

def checkGates (g : Gateway) (req : PlanRequest) : Gateway × Option Stop :=
  let v := Filter.checkPrompt req.prompt []
  if v.allowed then g.checkTools req.tenant req.tools
  else (g, some ⟨⟨.promptRejected, v.reason, v.signals⟩, 0⟩)

/-- The output filter, for which the tenant's policies are asked first. -/
def filterOutput (g : Gateway) (tenant output : String) : Verdict × Gateway :=
  let g := g.occupy g.termsDelay
  let (v, firewall) := g.firewall.filterOutput g.now tenant output
  (v, { g with firewall, screenings := ⟨tenant, output, v⟩ :: g.screenings })

def toolArguments (req : PlanRequest) (index : Nat) : Json :=
  .object [("iteration", .integer index), ("prompt", .string req.prompt)]

/-- The step of a tool that answered or failed. -/
def toolStep (req : PlanRequest) (index : Nat) (tool : String) (duration : Nat)
    (result : Except Fault Json) : Step where
  iteration := index + 1
  thought := thought (index + 1) req.prompt
  action := tool
  actionInput := some (.object [("iteration", .integer index)])
  observation := match result with
    | .ok v => "Result: " ++ v.compact
    | .error f => "Error: " ++ f.message
  duration := duration
  blocked := result matches .error _
  blockReason := match result with
    | .ok _ => ""
    | .error f => f.message

def finishStep (req : PlanRequest) (index : Nat) : Step where
  iteration := index + 1
  thought := thought (index + 1) req.prompt
  action := finishAction
  observation := "Task completed"
  duration := 0

/-- The steps from the one with this index on, at most `limit` in all. -/
def runSteps (g : Gateway) (ctx : RunContext) (req : PlanRequest) (limit index : Nat) :
    List String → Gateway × List Step × Option Stop
  | tools =>
    if limit ≤ index then (g, [], none)
    else if ctx.isExpired g.now then (g, [], some ⟨⟨.deadlineExceeded, "timeout", []⟩, index⟩)
    else match tools with
      | [] => (g, [finishStep req index], none)
      | tool :: rest =>
        let start := g.now
        let (g, result) := g.execute ctx tool (toolArguments req index)
        let step := toolStep req index tool (g.now - start) result
        match result with
        | .error f => (g, [step], some ⟨⟨f, f.message, []⟩, index + 1⟩)
        | .ok _ =>
          if tool = finishAction then (g, [step], none)
          else
            let (v, g) := g.filterOutput req.tenant step.observation
            if !v.allowed then
              (g, [step], some ⟨⟨.outputFiltered, v.reason, v.signals⟩, index + 1⟩)
            else
              let (g, steps, stop) := g.runSteps ctx req limit (index + 1) rest
              (g, step :: steps, stop)

/-- Ticks that a run may take. -/
def timeLimit (g : Gateway) (req : PlanRequest) : Nat :=
  if req.timeout = 0 then g.defaultTimeout else req.timeout

/-- The scope of a run that begins now. -/
def contextFor (g : Gateway) (req : PlanRequest) : RunContext where
  run := g.runs
  deadline := g.now + g.timeLimit req

def iterationLimit (g : Gateway) (req : PlanRequest) : Nat :=
  if req.maxIterations = 0 then g.defaultIterations else req.maxIterations

/-- The gates and then the steps. -/
def runGuarded (g : Gateway) (ctx : RunContext) (req : PlanRequest) :
    Gateway × List Step × Option Stop :=
  match g.checkGates req with
  | (g, some stop) => (g, [], some stop)
  | (g, none) => g.runSteps ctx req (g.iterationLimit req) 0 req.tools

structure PlanError where
  fault : Fault
  report : PlanReport

def completion : Json := .string "Agent execution completed successfully"

def reportOf (totalTime : Nat) (steps : List Step) : Option Stop → PlanReport
  | none => { allowed := true, steps, finalResult := some completion, totalTime }
  | some stop => { reason := stop.reason, signals := stop.signals, steps, totalTime }

/-- The iterations to count for a run; one that completes has taken one for each of its steps. -/
def iterations (steps : List Step) : Option Stop → Nat
  | none => steps.length
  | some stop => stop.iterations

/-- One run from its request to its report. It is counted, and cancelled when it is over. -/
def plan (g : Gateway) (req : PlanRequest) : Gateway × Except PlanError PlanReport :=
  let ctx := g.contextFor req
  let (g', steps, stop) := { g with runs := g.runs + 1 }.runGuarded ctx req
  let report := reportOf (g'.now - g.now) steps stop
  let g' := { g' with
    metrics := g'.metrics.record Float.ofNat stop.isSome (iterations steps stop) }
  (g'.cancelRun ctx.run, match stop with
    | none => .ok report
    | some s => .error ⟨s.fault, report⟩)

/-- A run as a single verdict. -/
def decide (g : Gateway) (tenant prompt : String) (tools : List String) :
    Gateway × Verdict × Option Fault :=
  match g.plan { tenant, prompt, tools } with
  | (g, .ok _) => (g, .allow, none)
  | (g, .error e) => (g, .block e.report.reason e.report.signals, some e.fault)

end Gateway
end Guardrail.Agent
