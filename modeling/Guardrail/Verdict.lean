import Guardrail.Json.Record

/-! What a check answers. A blocked verdict made by `block` always carries a reason; signals are the
evidence in the order in which it was found. In JSON an empty reason and empty signals are left out,
and that is also what their absence means. -/

namespace Guardrail

structure Verdict where
  allowed : Bool
  reason : String := ""
  signals : List String := []
  deriving DecidableEq, Inhabited

namespace Verdict

def allow : Verdict := ⟨true, "", []⟩

/-- Allowed, with a diagnostic reason. -/
def allowWith (reason : String) (signals : List String) : Verdict := ⟨true, reason, signals⟩

def block (reason : String) (signals : List String) : Verdict :=
  ⟨false, if reason.isEmpty then "blocked" else reason, signals⟩

def blocked (v : Verdict) : Bool := !v.allowed

theorem reason_block_ne (reason : String) (signals : List String) :
    (block reason signals).reason ≠ "" := by
  unfold block
  split
  · show "blocked" ≠ ""
    decide
  · simpa using ‹¬reason.isEmpty = true›

def toJson (v : Verdict) : Json :=
  .object (("allowed", .bool v.allowed) ::
    (Json.fieldUnless v.reason.isEmpty "reason" (.string v.reason)
      ++ Json.fieldUnless v.signals.isEmpty "signals" (.strings v.signals)))

def reader : Json.Reader Verdict := fun depth t => do
  let r ← Json.Record.ofTree? ["allowed", "reason", "signals"] depth t
  return {
    allowed := ← r.required "allowed" .bool
    reason := ← r.optional "reason" "" .string
    signals := ← r.optional "signals" [] (.list .string) }

end Verdict

/-- The outcome of a scan for sensitive data. -/
structure LeakReport where
  hit : Bool
  reason : String := ""
  findings : List String := []
  deriving DecidableEq

namespace LeakReport

def clean : LeakReport := ⟨false, "", []⟩

def toJson (r : LeakReport) : Json :=
  .object (("hit", .bool r.hit) ::
    (Json.fieldUnless r.reason.isEmpty "reason" (.string r.reason)
      ++ [("matches", .strings r.findings)]))

def reader : Json.Reader LeakReport := fun depth t => do
  let r ← Json.Record.ofTree? ["hit", "reason", "matches"] depth t
  return {
    hit := ← r.required "hit" .bool
    reason := ← r.optional "reason" "" .string
    findings := ← r.optional "matches" [] (.list .string) }

end LeakReport
end Guardrail
