/-! Counters over agent runs. The mean is kept as it goes: each run adds its iterations to the mean
of the runs before it. The arithmetic is that of the type of the mean. -/

namespace Guardrail.Agent

structure Metrics (α : Type) where
  executions : Nat
  blocked : Nat
  meanIterations : α

namespace Metrics

variable {α : Type} [Add α] [Sub α] [Mul α] [Div α]

def zero (cast : Nat → α) : Metrics α := ⟨0, 0, cast 0⟩

/-- One more run; `cast` takes counts to the numbers of the mean. -/
def record (cast : Nat → α) (m : Metrics α) (blocked : Bool) (iterations : Nat) : Metrics α :=
  let n := cast (m.executions + 1)
  { executions := m.executions + 1
    blocked := if blocked then m.blocked + 1 else m.blocked
    meanIterations := (m.meanIterations * (n - cast 1) + cast iterations) / n }

end Metrics
end Guardrail.Agent
