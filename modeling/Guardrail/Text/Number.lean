import Guardrail.Text.Search

/-! Natural numbers in text: digits of a radix, with nothing between them, and a plus sign that a
decimal number may have. A number counts only below a limit. -/

namespace Guardrail.Text

def digitValue? (radix : Nat) (c : Char) : Option Nat :=
  let value? :=
    if '0' ≤ c ∧ c ≤ '9' then some (c.toNat - '0'.toNat)
    else if 'a' ≤ c ∧ c ≤ 'f' then some (c.toNat - 'a'.toNat + 10)
    else if 'A' ≤ c ∧ c ≤ 'F' then some (c.toNat - 'A'.toNat + 10)
    else none
  value?.filter (· < radix)

/-- The number that the digits after those of `start` lead to. -/
def continueDigits (radix : Nat) (start : Nat) (cs : List Char) : Option Nat :=
  cs.foldlM (fun n c => (digitValue? radix c).map (n * radix + ·)) start

/-- At least one digit and nothing else, for a number below the limit. -/
def digits? (radix limit : Nat) (cs : List Char) : Option Nat :=
  if cs.isEmpty then none else (continueDigits radix 0 cs).filter (· < limit)

/-- Decimal digits after a plus sign or none. -/
def natural? (limit : Nat) (text : String) : Option Nat :=
  match text.toList with
  | '+' :: cs => digits? 10 limit cs
  | cs => digits? 10 limit cs

end Guardrail.Text
