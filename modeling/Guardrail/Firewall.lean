import Guardrail.Filter
import Guardrail.Moderation.Detector
import Guardrail.Tenant.Store

/-! Prompts and outputs of a tenant. An output is scanned for sensitive data first, and only a clean
one reaches moderation; while that verdict is pending the mode decides. -/

namespace Guardrail

/-- What becomes of an output whose moderation is pending. -/
inductive OutputMode where
  /-- It passes, marked as pending. -/
  | mark
  /-- It is held back. -/
  | block
  deriving DecidableEq

namespace OutputMode

/-- Any label but `block` stands for `mark`. -/
def ofLabel (label : String) : OutputMode := if label = "block" then block else mark

def label : OutputMode → String
  | mark => "mark"
  | block => "block"

def reader : Json.Reader OutputMode := Json.Reader.label [("mark", mark), ("block", block)]

def pendingVerdict (signals : List String) : OutputMode → Verdict
  | mark => .allowWith Moderation.pendingReason signals
  | block => .block Moderation.pendingReason []

end OutputMode

/-- A prompt is checked by itself before the tenant's rules are asked. -/
def Store.checkPrompt (s : Store) (tenant prompt : String) (keywords : List String) : Verdict :=
  let v := Filter.checkPrompt prompt keywords
  if v.allowed then s.evaluatePrompt tenant prompt else v

structure Firewall where
  store : Store
  detector : Option Moderation.Detector := none
  mode : OutputMode := .mark

namespace Firewall

/-- The mode counts only where there is a detector. -/
def new (store : Store) (detector : Option Moderation.Detector) (mode : OutputMode) : Firewall :=
  { store, detector, mode := if detector.isSome then mode else .mark }

/-- What the detector's verdict means for the output. -/
def judge (mode : OutputMode) (v : Verdict) : Verdict :=
  if !v.allowed then v
  else if v.reason = Moderation.pendingReason then mode.pendingVerdict v.signals
  else .allow

def filterOutput (f : Firewall) (now : Nat) (tenant output : String) : Verdict × Firewall :=
  let report := Filter.scanLeaks output (f.store.sensitiveTerms tenant)
  if report.hit then (.block report.reason report.findings, f)
  else match f.detector with
    | none => (.allow, f)
    | some d =>
      let (v, d) := d.check now output
      (judge f.mode v, { f with detector := some d })

/-- Time passes for the detector. -/
def advance (f : Firewall) (now target : Nat) : Firewall :=
  { f with detector := f.detector.map (·.advance now target) }

end Firewall
end Guardrail
