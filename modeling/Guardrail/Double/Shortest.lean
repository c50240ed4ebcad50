import Guardrail.Double

/-! The fewest decimal digits that read back as a given double, and of those the nearest. The reals
that round to a double form an interval around it, which holds its ends if the significand is even.
If a point of a decimal grid lies in the interval then so does one of the double's two neighbours on
that grid, so the coarsest grid with such a neighbour gives the digits. -/

namespace Guardrail.Double

/-- Decimal digits and the power of ten of the last one. -/
structure Decimal where
  digits : Nat
  exponent : Int

/-- The interval of reals that round to the double's magnitude, in quarters of its last place. -/
def quarterBounds (d : Double) : Nat × Nat :=
  let m := d.significand
  let narrow := d.fractionField = 0 && 1 < d.exponentField
  (4 * m - (if narrow then 1 else 2), 4 * m + 2)

/-- `digits * 10 ^ p` against `quarters` of the last place: both sides as natural numbers. -/
def crossed (d : Double) (digits quarters : Nat) (p : Int) : Nat × Nat :=
  let e := d.exponent - 2
  (digits * tenTo p.toNat * twoTo (-e).toNat, quarters * twoTo e.toNat * tenTo (-p).toNat)

def inInterval (d : Double) (digits : Nat) (p : Int) : Bool :=
  let (lo, hi) := d.quarterBounds
  let (x, l) := d.crossed digits lo p
  let (_, h) := d.crossed digits hi p
  if d.significand % 2 = 0 then l ≤ x && x ≤ h else l < x && x < h

/-- The nearer of the double's two neighbours on the grid of `10 ^ p` that round to it. -/
def onGrid (d : Double) (p : Int) : Option Decimal :=
  let (ten, value) := d.crossed 1 (4 * d.significand) p
  let below := value / ten
  let nearFirst := if 2 * (value % ten) ≤ ten then [below, below + 1] else [below + 1, below]
  (nearFirst.find? (d.inInterval · p)).map (⟨·, p⟩)

/-- The power of ten of the leading digit. -/
def leadingPower (d : Double) : Int :=
  let (num, den) := d.ratio
  ((Nat.toDigits 10 (num * tenTo 400 / den)).length : Int) - 401

/-- The search begins one place above the leading digit, where a row of nines is rounded up. -/
def shortest (d : Double) : Decimal :=
  ((List.range 18).findSome? fun (i : Nat) => d.onGrid (d.leadingPower + 1 - i)).getD ⟨0, 0⟩

/-- Leading powers from `-5` to `15` are written positionally. -/
def positional (power : Int) : Bool := -5 ≤ power && power ≤ 15

def zeros (n : Int) : String := String.ofList (List.replicate n.toNat '0')

/-- A finite number always shows a point or an exponent; other values have no text but `null`. -/
def render (d : Double) : String :=
  let sign := if d.negative then "-" else ""
  if !d.isFinite then "null"
  else if d.isZero then sign ++ "0.0"
  else
    let s := d.shortest
    let ds := Nat.toDigits 10 s.digits
    let power := s.exponent + ds.length - 1
    let before := ds.take (power + 1).toNat
    let after := ds.drop (power + 1).toNat
    sign ++
      if !positional power then
        String.ofList (ds.take 1)
          ++ (if ds.length = 1 then "" else "." ++ String.ofList (ds.drop 1))
          ++ "e" ++ (if power < 0 then "-" else "+") ++ toString power.natAbs
      else if power < 0 then "0." ++ zeros (-power - 1) ++ String.ofList ds
      else
        String.ofList before ++ zeros s.exponent ++ "."
          ++ (if after.isEmpty then "0" else String.ofList after)

end Guardrail.Double
