import Guardrail.Text.Search

/-! Shapes of identifiers that must not leave: social security numbers, payment cards and wallet
addresses. An occurrence is a whole word, so neither the character before it nor the one after it
may belong to a word. Every character of these shapes but the hyphens is a word character, which
leaves an occurrence one possible end for each start. -/

namespace Guardrail.Text

inductive SecretShape where
  | ssn
  | card
  | wallet
  deriving DecidableEq

namespace SecretShape

def all : List SecretShape := [ssn, card, wallet]

/-- Base 58: ASCII letters and digits without `0`, `O`, `I` and `l`. -/
def isBase58 (c : Char) : Bool :=
  c.isAlphanum && c != '0' && c != 'O' && c != 'I' && c != 'l'

/-- Whether the characters, all of them, have the shape. -/
def fits : SecretShape → List Char → Bool
  | ssn, [a, b, c, '-', d, e, '-', f, g, h, i] => [a, b, c, d, e, f, g, h, i].all isDecimal
  | card, '4' :: ds => (ds.length == 12 || ds.length == 15) && ds.all Char.isDigit
  | wallet, c :: ds =>
    (c == '1' || c == '3') && 25 ≤ ds.length && ds.length ≤ 34 && ds.all isBase58
  | _, _ => false

/-- Lengths an occurrence can have, longest first. -/
def lengths : SecretShape → List Nat
  | ssn => [11]
  | card => [16, 13]
  | wallet => [35, 34, 33, 32, 31, 30, 29, 28, 27, 26]

/-- The occurrence that begins the characters and ends at the end of a word. -/
def wordAt (s : SecretShape) (cs : List Char) : Option (List Char) :=
  (s.lengths.find? fun n =>
    (cs.take n).length == n && s.fits (cs.take n) && !(cs.drop n).head?.any isWordChar).map cs.take

/-- The first whole-word occurrence in the characters that follow `before`. -/
def findAfter (s : SecretShape) (before : Option Char) : List Char → Option (List Char)
  | [] => none
  | c :: cs =>
    match if before.any isWordChar then none else s.wordAt (c :: cs) with
    | some w => some w
    | none => s.findAfter (some c) cs

def find (s : SecretShape) (text : String) : Option String :=
  (s.findAfter none text.toList).map String.ofList

end SecretShape
end Guardrail.Text
