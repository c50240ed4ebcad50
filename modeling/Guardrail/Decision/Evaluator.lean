import Guardrail.Arithmetic
import Guardrail.Decision.Input
import Guardrail.Decision.Modules
import Guardrail.Rules.Evaluation

/-! Decisions over a set of modules that can be exchanged while decisions are made. A decision is
evaluated with the modules there are when it is asked for. Its evaluation needs a permit, of which
there is a fixed number; while all are held the decision waits behind those that asked before it. It
waits for its answer only until its deadline. An evaluation that is given up goes on until its own
end, and it holds its permit for as long.

All that happens by itself is a `Move`, which is made at a tick of a clock in milliseconds: an
answer arrives, the time of a decision is over, an evaluation ends. Any number of decisions may be
under way. `decide` asks for one and makes the earliest moves until it is answered. -/

namespace Guardrail.Decision

/-- How an evaluation goes: how many milliseconds it takes, and the query's value, if it has one. -/
structure Evaluation where
  duration : Nat
  result : Except String (Option Json)

abbrev Engine := Modules → String → Json → Evaluation

/-- What an evaluation counts out in a millisecond. -/
def countsPerMilli : Nat := 100

def faultText : Rules.Fault → String
  | .malformed => "malformed module or query"
  | .unknownName name => "unknown name " ++ name
  | .unknownFunction name => "unknown function " ++ name
  | .wrongArguments function => "wrong arguments of " ++ function
  | .wrongOperands => "wrong operands"
  | .conflict rule => "conflicting values of " ++ rule
  | .recursion rule => "recursion in " ++ rule
  | .tooDeep => "evaluation too deep"

/-- The evaluation of Rego. -/
def ruleEngine : Engine := fun modules query input =>
  match Rules.evaluate modules query input with
  | .ok (v, count) => ⟨count / countsPerMilli, .ok v⟩
  | .error f => ⟨0, .error (faultText f)⟩

/-- What an evaluation's result means. -/
def interpret : Except String (Option Json) → Except Fault Decision
  | .error details => .error (.evaluation details)
  | .ok none => .error .emptyDecision
  | .ok (some v) => (ofJson v).mapError .malformedDecision

/-- The permits of an evaluator: how many there are, and how many of them nobody holds. -/
structure Permits where
  limit : Nat
  free : Nat

namespace Permits

/-- At least one evaluation may run. -/
def ofLimit (limit : Nat) : Permits := ⟨max 1 limit, max 1 limit⟩

def inFlight (p : Permits) : Nat := p.limit - p.free

def acquire? (p : Permits) : Option Permits :=
  if p.free = 0 then none else some { p with free := p.free - 1 }

def release (p : Permits) : Permits := { p with free := p.free + 1 }

end Permits

/-- How far a decision has come. -/
inductive Stage where
  /-- It has no permit yet. -/
  | waiting
  /-- It is evaluated until the tick, with a permit. -/
  | running (ending : Nat)
  /-- It has been given up; its evaluation goes on until the tick, with its permit. -/
  | abandoned (ending : Nat)
  /-- Its evaluation has ended and given the permit back; the answer is on its way. -/
  | ended
  /-- It has its answer, and nothing is evaluated for it any more. -/
  | done (outcome : Except Fault Decision)

namespace Stage

def isWaiting : Stage → Bool
  | waiting => true
  | _ => false

/-- Whether somebody still waits for the answer. -/
def isAwaited : Stage → Bool
  | waiting | running _ | ended => true
  | _ => false

/-- When the evaluation ends that holds a permit. -/
def ending? : Stage → Option Nat
  | running ending | abandoned ending => some ending
  | _ => none

/-- The moves that a decision is away from being done, at most. -/
def work : Stage → Nat
  | waiting => 3
  | running _ => 2
  | abandoned _ | ended => 1
  | done _ => 0

end Stage

/-- A decision that has been asked for. -/
structure Task where
  /-- How its evaluation goes once it begins. -/
  evaluation : Evaluation
  deadline : Nat
  stage : Stage := .waiting

inductive Milestone where
  | asked
  | begun
  /-- The evaluation has ended, and its permit is back. -/
  | ended
  | answered (outcome : Except Fault Decision)

/-- What has happened to a decision; decisions are counted from zero. -/
structure Event where
  number : Nat
  tick : Nat
  milestone : Milestone

structure Evaluator where
  modules : Modules
  query : String
  timeout : Nat
  version : Nat := 1
  permits : Permits := .ofLimit 8
  now : Nat := 0
  /-- The callback's mark, once one is set. -/
  callback : Option Nat := none
  /-- Marks and versions that callbacks have been told, the latest first. -/
  told : List (Nat × Nat) := []
  /-- All decisions that have been asked for, in their order. -/
  tasks : List Task := []
  /-- The latest event first. -/
  journal : List Event := []

namespace Evaluator

def new (modules : Modules) (query : String) (timeout : Nat) : Except Fault Evaluator :=
  if modules.isEmpty then .error (.emptyModuleSet none) else .ok { modules, query, timeout }

def ofDirectory (files : Files) (directory query : String) (timeout : Nat) :
    Except Fault Evaluator := do
  let modules ← Modules.load files directory
  if modules.isEmpty then throw (.emptyModuleSet (some directory))
  new modules query timeout

def withLimit (e : Evaluator) (limit : Nat) : Evaluator := { e with permits := .ofLimit limit }

def inFlight (e : Evaluator) : Nat := e.permits.inFlight

/-- The whole set of modules is exchanged; an empty one is refused. -/
def reload (e : Evaluator) (modules : Modules) : Except Fault Evaluator :=
  if modules.isEmpty then .error (.emptyModuleSet none)
  else
    let version := e.version + 1
    .ok { e with
      modules, version
      told := (e.callback.map (·, version)).toList ++ e.told }

def reloadDirectory (e : Evaluator) (files : Files) (directory : String) :
    Except Fault Evaluator := do
  let modules ← Modules.load files directory
  if modules.isEmpty then throw (.emptyModuleSet (some directory))
  e.reload modules

/-! ### What becomes of a decision -/

def stage? (e : Evaluator) (number : Nat) : Option Stage := e.tasks[number]?.map (·.stage)

/-- The answer to a decision that is given up. -/
def timedOut (e : Evaluator) : Except Fault Decision := .error (.timeout e.timeout)

def answer? (e : Evaluator) (number : Nat) : Option (Except Fault Decision) :=
  match e.stage? number with
  | some (.abandoned _) => some e.timedOut
  | some (.done outcome) => some outcome
  | _ => none

/-- A decision comes to a stage, by an event that the journal tells. -/
def enter (e : Evaluator) (number : Nat) (stage : Stage) (milestone : Milestone) : Evaluator :=
  { e with
    tasks := e.tasks.modify number fun t => { t with stage }
    journal := ⟨number, e.now, milestone⟩ :: e.journal }

/-- The evaluation of a decision begins. -/
def begin (e : Evaluator) (number : Nat) (evaluation : Evaluation) : Evaluator :=
  e.enter number (.running (e.now + evaluation.duration)) .begun

/-- A decision that has no permit yet. -/
def enroll (e : Evaluator) (evaluation : Evaluation) : Evaluator :=
  { e with
    tasks := e.tasks ++ [{ evaluation, deadline := e.now + e.timeout }]
    journal := ⟨e.tasks.length, e.now, .asked⟩ :: e.journal }

/-- A decision is asked for; it begins at once if there is a permit for it. -/
def ask (e : Evaluator) (engine : Engine) (input : Input) : Evaluator :=
  let evaluation := engine e.modules e.query input.toJson
  match e.permits.acquire? with
  | some permits => { e.enroll evaluation with permits }.begin e.tasks.length evaluation
  | none => e.enroll evaluation

/-- A permit that comes back goes to the decision that has waited longest. -/
def handOver (e : Evaluator) : Evaluator :=
  match e.tasks.zipIdx.find? (·.1.stage.isWaiting) with
  | some (t, number) => e.begin number t.evaluation
  | none => { e with permits := e.permits.release }

inductive Move where
  /-- An answer arrives. -/
  | deliver (number : Nat)
  /-- The time of a decision is over. -/
  | giveUp (number : Nat)
  /-- An evaluation ends. -/
  | finish (number : Nat)

def perform (e : Evaluator) : Move → Evaluator
  | .deliver n =>
    match e.tasks[n]? with
    | some ⟨evaluation, _, .ended⟩ =>
      e.enter n (.done (interpret evaluation.result)) (.answered (interpret evaluation.result))
    | _ => e
  | .giveUp n =>
    match e.stage? n with
    | some .waiting | some .ended => e.enter n (.done e.timedOut) (.answered e.timedOut)
    | some (.running ending) => e.enter n (.abandoned ending) (.answered e.timedOut)
    | _ => e
  | .finish n =>
    match e.stage? n with
    | some (.running _) => (e.enter n .ended .ended).handOver
    | some (.abandoned _) => (e.enter n (.done e.timedOut) .ended).handOver
    | _ => e

/-- The tick from which a move may be made. -/
def dueAt (e : Evaluator) : Move → Option Nat
  | .deliver n =>
    match e.stage? n with
    | some .ended => some e.now
    | _ => none
  | .giveUp n =>
    match e.tasks[n]? with
    | some t => if t.stage.isAwaited then some t.deadline else none
    | none => none
  | .finish n => (e.stage? n).bind Stage.ending?

/-- All moves with their ticks. An answer that is on its way comes before the end of anybody's time,
and that comes before the end of an evaluation: an answer counts if it comes before the deadline,
and so does a permit. -/
def moves (e : Evaluator) : List (Nat × Move) :=
  let numbers := List.range e.tasks.length
  let all := numbers.map Move.deliver ++ numbers.map Move.giveUp ++ numbers.map Move.finish
  all.filterMap fun m => (e.dueAt m).map (·, m)

/-- The earliest move, of several the first. -/
def next? (e : Evaluator) : Option (Nat × Move) := e.moves.minOn? (·.1)

/-- A bound on the moves that can be made. -/
def work (e : Evaluator) : Nat := total (e.tasks.map (·.stage.work))

/-- Time passes, with at most `bound` moves, until the condition holds or nothing can happen. -/
def runUntil (stop : Evaluator → Bool) : (bound : Nat) → Evaluator → Evaluator
  | 0, e => e
  | bound + 1, e =>
    if stop e then e
    else match e.next? with
      | some (tick, m) => runUntil stop bound ({ e with now := max e.now tick }.perform m)
      | none => e

/-- Time passes until nothing is evaluated any more. -/
def drain (e : Evaluator) : Evaluator := e.runUntil (·.inFlight == 0) e.work

/-- A decision is asked for, and time passes until it has its answer. -/
def decide (e : Evaluator) (engine : Engine) (input : Input) :
    Evaluator × Except Fault Decision :=
  let asked := e.ask engine input
  let number := e.tasks.length
  let answered := asked.runUntil (fun e => (e.answer? number).isSome) asked.work
  (answered, (answered.answer? number).getD e.timedOut)

end Evaluator
end Guardrail.Decision
