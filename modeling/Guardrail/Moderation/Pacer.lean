/-! Evenly spaced time slots, at least one period apart and never saved up. Slots are exact in
nanoseconds; the clock that waits for them ticks in milliseconds. -/

namespace Guardrail.Moderation

def nanosPerMilli : Nat := 1000000

def nanosPerSecond : Nat := 1000000000

structure Pacer where
  /-- Nanoseconds between slots. -/
  period : Nat
  /-- The earliest instant of the next slot. -/
  next : Nat := 0
  deriving DecidableEq

namespace Pacer

/-- No pacer, and so no limit, for zero slots a second. -/
def perSecond? (rate : Nat) : Option Pacer :=
  if rate = 0 then none else some { period := nanosPerSecond / rate }

/-- The slot for a caller at the instant `now`. -/
def acquire (p : Pacer) (now : Nat) : Nat × Pacer :=
  let slot := max now p.next
  (slot, { p with next := slot + p.period })

/-- The first tick that is not before the slot. -/
def tickOf (slot : Nat) : Nat := (slot + nanosPerMilli - 1) / nanosPerMilli

/-- The slot for a caller at a tick. -/
def acquireAt (p : Pacer) (tick : Nat) : Nat × Pacer := p.acquire (tick * nanosPerMilli)

end Pacer
end Guardrail.Moderation
