import Guardrail.Arithmetic
import Guardrail.Moderation.Pacer
import Guardrail.Verdict

/-! Moderation in the background. A check never waits: it answers a verdict that is still fresh, or
puts the text on a bounded queue and answers that the verdict is pending. Workers take texts in
their order, wait for a slot of the pacer they share, call the client and keep its verdict for a
while. A full queue drops the text, and a call that fails or takes too long counts as allowed.

All that happens by itself is a `Move`, which is made at an instant of a clock in milliseconds.
`next?` names the earliest one, so time may run to any instant: `advance` makes every move that is
due until then. A job takes five moves and nothing but a check adds one, which bounds the moves
left; sweepers add one move for each of their ticks. -/

namespace Guardrail.Moderation

/-- How a call to the client goes: how long it takes and the verdict, if it does not fail. -/
structure Call where
  duration : Nat
  outcome : Option Verdict

/-- What a client does with its calls, by their number from zero and the text. -/
abbrev Client := Nat → String → Call

structure Options where
  queueSize : Nat := 64
  /-- Calls a second, zero for no limit. -/
  rate : Nat := 5
  cacheTtl : Nat := 600000
  callTimeout : Nat := 10000

/-- A verdict and the instant from which it is no longer fresh. -/
structure Entry where
  verdict : Verdict
  expiresAt : Nat

def Entry.expired (e : Entry) (now : Nat) : Bool := e.expiresAt ≤ now

/-- A text that has been put on the queue, and how many came before it. -/
structure Job where
  number : Nat
  text : String
  deriving DecidableEq

instance : Coe Job String := ⟨Job.text⟩

inductive Worker where
  | idle
  | taken (job : Job)
  /-- The job waits for its slot, in nanoseconds. -/
  | pacing (job : Job) (slot : Nat)
  | calling (job : Job) (began : Nat) (call : Call)
  /-- The verdict is stored and may have to be reported. -/
  | reporting (job : Job) (verdict : Verdict)

structure Sweeper where
  interval : Nat
  next : Nat

/-- What a detector has done. -/
inductive Event where
  | accepted (job : Job)
  | dropped (text : String)
  | taken (job : Job)
  | acquired (job : Job) (tick slot : Nat)
  /-- The client's call with this number, from zero. -/
  | began (job : Job) (number tick : Nat)
  | stored (job : Job) (tick : Nat) (verdict : Verdict)
  | reported (job : Job) (tick : Nat) (verdict : Verdict)

structure Detector where
  options : Options
  client : Client
  cache : List (String × Entry) := []
  queue : List Job := []
  workers : List Worker := []
  sweepers : List Sweeper := []
  pacer : Option Pacer
  /-- Whether a verdict is reported once it is stored. -/
  reporting : Bool := false
  closed : Bool := false
  /-- The latest event first. -/
  journal : List Event := []

def pendingReason : String := "llm_pending"

def errorReason : String := "llm_error"

namespace Detector

def new (client : Client) (options : Options) : Detector :=
  { options, client, pacer := Pacer.perSecond? options.rate }

def record (d : Detector) (e : Event) : Detector := { d with journal := e :: d.journal }

def capacity (d : Detector) : Nat := max 1 d.options.queueSize

/-- Texts put on the queue so far. -/
def accepts (d : Detector) : Nat :=
  d.journal.countP fun | .accepted _ => true | _ => false

/-- Calls begun so far. -/
def calls (d : Detector) : Nat :=
  d.journal.countP fun | .began .. => true | _ => false

/-! ### What callers ask -/

/-- The verdict that is fresh; one that is not is dropped on the way. -/
def lookup (d : Detector) (now : Nat) (text : String) : Option Verdict × Detector :=
  match d.cache.lookup text with
  | none => (none, d)
  | some e =>
    if e.expired now then (none, { d with cache := d.cache.filter (·.1 != text) })
    else (some e.verdict, d)

/-- A text at the end of the queue, unless that is full. -/
def enqueue (d : Detector) (text : String) : Detector :=
  let job : Job := ⟨d.accepts, text⟩
  if d.queue.length < d.capacity then { d with queue := d.queue ++ [job] }.record (.accepted job)
  else d.record (.dropped text)

def check (d : Detector) (now : Nat) (text : String) : Verdict × Detector :=
  match d.lookup now text with
  | (some v, d) => (v, d)
  | (none, d) => (.allowWith pendingReason [], d.enqueue text)

/-- Workers that start after the end stop at once. -/
def start (d : Detector) (workers : Nat) : Detector :=
  if d.closed then d else { d with workers := d.workers ++ List.replicate workers .idle }

/-- A sweeper ticks for the first time one interval from now; an interval of zero is none. -/
def startSweeper (d : Detector) (now interval : Nat) : Detector :=
  if d.closed || interval = 0 then d
  else { d with sweepers := d.sweepers ++ [⟨interval, now + interval⟩] }

/-- The detector without its expired entries. -/
def sweep (d : Detector) (now : Nat) : Detector :=
  { d with cache := d.cache.filter fun (_, e) => !e.expired now }

/-- A sweep that is asked for answers how many entries it has dropped. -/
def sweepExpired (d : Detector) (now : Nat) : Nat × Detector :=
  (d.cache.length - (d.sweep now).cache.length, d.sweep now)

def store (d : Detector) (now : Nat) (job : Job) (v : Verdict) : Detector :=
  { d with
    cache := (job.text, ⟨v, now + d.options.cacheTtl⟩) :: d.cache.filter (·.1 != job.text) }.record
      (.stored job now v)

/-- From now on verdicts are reported. -/
def listen (d : Detector) : Detector := { d with reporting := true }

/-! ### What happens by itself -/

inductive Move where
  /-- An idle worker takes the first job of the queue. -/
  | take (worker : Nat)
  /-- A worker that has taken a job acquires a slot for it. -/
  | acquire (worker : Nat)
  /-- A worker whose slot has come calls the client. -/
  | begin (worker : Nat)
  /-- A call has ended or is given up, and its verdict is stored. -/
  | finish (worker : Nat)
  /-- A verdict is reported, if anybody listens, and the worker is free again. -/
  | report (worker : Nat)
  | tick (sweeper : Nat)
  deriving DecidableEq

/-- The verdict to keep after a call: a reply must come within the timeout. -/
def settle (timeout : Nat) (call : Call) : Verdict :=
  match call.outcome with
  | some v => if call.duration ≤ timeout then v else .allowWith errorReason []
  | none => .allowWith errorReason []

def setWorker (d : Detector) (i : Nat) (w : Worker) : Detector :=
  { d with workers := d.workers.set i w }

/-- The pacer's slot for a caller at a tick; without a pacer it is the tick itself. -/
def acquireSlot (d : Detector) (now : Nat) : Nat × Detector :=
  match d.pacer with
  | none => (now * nanosPerMilli, d)
  | some p =>
    let (slot, p) := p.acquireAt now
    (slot, { d with pacer := some p })

def report (d : Detector) (now : Nat) (job : Job) (v : Verdict) : Detector :=
  if d.reporting then d.record (.reported job now v) else d

/-- A worker that is done is idle again, and stops if the detector is closed. -/
def release (d : Detector) (i : Nat) : Detector :=
  if d.closed then { d with workers := d.workers.eraseIdx i } else d.setWorker i .idle

def perform (d : Detector) (now : Nat) : Move → Detector
  | .take i =>
    match d.workers[i]?, d.queue with
    | some .idle, job :: rest =>
      ({ d with queue := rest }.setWorker i (.taken job)).record (.taken job)
    | _, _ => d
  | .acquire i =>
    match d.workers[i]? with
    | some (.taken job) =>
      let (slot, d) := d.acquireSlot now
      (d.setWorker i (.pacing job slot)).record (.acquired job now slot)
    | _ => d
  | .begin i =>
    match d.workers[i]? with
    | some (.pacing job _) =>
      (d.setWorker i (.calling job now (d.client d.calls job.text))).record
        (.began job d.calls now)
    | _ => d
  | .finish i =>
    match d.workers[i]? with
    | some (.calling job _ call) =>
      let v := settle d.options.callTimeout call
      (d.store now job v).setWorker i (.reporting job v)
    | _ => d
  | .report i =>
    match d.workers[i]? with
    | some (.reporting job v) => (d.report now job v).release i
    | _ => d
  | .tick j =>
    match d.sweepers[j]? with
    | some s =>
      { d.sweep now with sweepers := d.sweepers.set j { s with next := s.next + s.interval } }
    | none => d

/-- The move of a worker and the instant from which it may be made. -/
def workerMove (d : Detector) (now i : Nat) : Worker → Option (Nat × Move)
  | .idle => if d.queue.isEmpty || d.closed then none else some (now, .take i)
  | .taken _ => some (now, .acquire i)
  | .pacing _ slot => some (max now (Pacer.tickOf slot), .begin i)
  | .calling _ began call =>
    some (max now (began + min call.duration d.options.callTimeout), .finish i)
  | .reporting .. => some (now, .report i)

/-- All moves with their instants, those of workers before those of sweepers. -/
def moves (d : Detector) (now : Nat) : List (Nat × Move) :=
  (d.workers.mapIdx (d.workerMove now)).filterMap id
    ++ d.sweepers.mapIdx fun j s => (max now s.next, .tick j)

def earlier (best : Option (Nat × Move)) (m : Nat × Move) : Option (Nat × Move) :=
  match best with
  | some b => if m.1 < b.1 then some m else some b
  | none => some m

/-- The earliest move, of several the first. -/
def next? (d : Detector) (now : Nat) : Option (Nat × Move) := (d.moves now).foldl earlier none

/-- The moves that a worker is away from being idle. -/
def phase : Worker → Nat
  | .idle => 0
  | .taken _ => 4
  | .pacing .. => 3
  | .calling .. => 2
  | .reporting .. => 1

/-- A bound on the moves that can be made up to an instant. -/
def work (d : Detector) (target : Nat) : Nat :=
  5 * d.queue.length + total (d.workers.map phase)
    + total (d.sweepers.map fun s => target + 1 - s.next)

/-- At most `bound` moves, each at its instant and none after `target`. -/
def advanceUpTo (target : Nat) : (bound : Nat) → Nat → Detector → Detector
  | 0, _, d => d
  | bound + 1, now, d =>
    match d.next? now with
    | some (t, m) => if t ≤ target then advanceUpTo target bound t (d.perform t m) else d
    | none => d

/-- Time passes from `now` to `target`; with no time in between, all that can happen at `now`. -/
def advance (d : Detector) (now target : Nat) : Detector :=
  advanceUpTo target (d.work target) now d

/-- At most `bound` moves, as long as there are any, and the instant of the last one. -/
def drainUpTo : (bound : Nat) → Nat → Detector → Nat × Detector
  | 0, now, d => (now, d)
  | bound + 1, now, d =>
    match d.next? now with
    | some (t, m) => drainUpTo bound t (d.perform t m)
    | none => (now, d)

def isIdle : Worker → Bool
  | .idle => true
  | _ => false

/-- The end: idle workers and sweepers stop, the other workers finish their jobs. The instant is the
one at which the last of them is done. -/
def shutdown (d : Detector) (now : Nat) : Nat × Detector :=
  let d := { d with closed := true, sweepers := [], workers := d.workers.filter (!isIdle ·) }
  drainUpTo (total (d.workers.map phase)) now d

end Detector
end Guardrail.Moderation
