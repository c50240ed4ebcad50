import Guardrail.Arithmetic

/-! Binary floating point with 64 bits, as bit patterns with exact arithmetic behind them. A ratio
of natural numbers is rounded once, to the nearest representable number, and a tie goes to the even
significand; products and quotients are rounded ratios. -/

namespace Guardrail

structure Double where
  bits : UInt64
  deriving DecidableEq, Inhabited

namespace Double

def negative (d : Double) : Bool := d.bits >>> 63 != 0

def exponentField (d : Double) : Nat := ((d.bits >>> 52) &&& 0x7FF).toNat

def fractionField (d : Double) : Nat := (d.bits &&& 0xFFFFFFFFFFFFF).toNat

/-- The magnitude is `significand * 2 ^ exponent`, for finite numbers. -/
def significand (d : Double) : Nat :=
  if d.exponentField = 0 then d.fractionField else d.fractionField + twoTo 52

def exponent (d : Double) : Int :=
  if d.exponentField = 0 then -1074 else d.exponentField - 1075

def isFinite (d : Double) : Bool := d.exponentField != 0x7FF

def isZero (d : Double) : Bool := d.exponentField == 0 && d.fractionField == 0

def signed (negative : Bool) (magnitude : Nat) : Double :=
  ⟨UInt64.ofNat (magnitude + if negative then twoTo 63 else 0)⟩

def infinityBits : Nat := 0x7FF * twoTo 52

/-- `num / den / 2 ^ e` as a ratio. -/
def scaled (num den : Nat) (e : Int) : Nat × Nat :=
  if 0 ≤ e then (num, den * twoTo e.toNat) else (num * twoTo (-e).toNat, den)

/-- The quotient to the nearest natural number, a half to the even one. -/
def nearest (num den : Nat) : Nat :=
  let q := num / den
  let twice := 2 * (num % den)
  if den < twice || (twice == den && q % 2 == 1) then q + 1 else q

/-- The exponent that leaves 53 binary digits before the point of `num / den`, but never less than
that of the smallest numbers. -/
def unitExponent (num den : Nat) : Int :=
  let guess : Int := num.log2 - den.log2 - 52
  let (n, d) := scaled num den guess
  max (-1074) (if n / d < twoTo 52 then guess - 1 else guess)

/-- The double nearest to a ratio; beyond the largest one it is an infinity. -/
def ofRatio (negative : Bool) (num den : Nat) : Double :=
  if num = 0 || den = 0 then signed negative 0
  else
    let e := unitExponent num den
    let (n, d) := scaled num den e
    let m := nearest n d
    let magnitude := if m < twoTo 52 then m else (e + 1074).toNat * twoTo 52 + m
    signed negative (min magnitude infinityBits)

def ofNat (n : Nat) : Double := ofRatio false n 1

def ofInt (i : Int) : Double := ofRatio (i < 0) i.natAbs 1

/-- The sign is flipped, also of zero. -/
def neg (d : Double) : Double := ⟨d.bits ^^^ 0x8000000000000000⟩

/-- `num * 2 ^ e / den` rounded. -/
def ofScaledRatio (negative : Bool) (num den : Nat) (e : Int) : Double :=
  let (n, d) := scaled num den (-e)
  ofRatio negative n d

def mul (a b : Double) : Double :=
  ofScaledRatio (a.negative != b.negative) (a.significand * b.significand) 1
    (a.exponent + b.exponent)

def div (a b : Double) : Double :=
  ofScaledRatio (a.negative != b.negative) a.significand b.significand (a.exponent - b.exponent)

/-- The magnitude as a ratio. -/
def ratio (d : Double) : Nat × Nat := scaled d.significand 1 (-d.exponent)

end Double
end Guardrail
