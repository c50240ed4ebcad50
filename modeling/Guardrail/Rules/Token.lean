import Guardrail.Json.Tree
import Guardrail.Rules.Value

/-! Tokens of Rego. Each one knows its line and whether it follows the one before it without a gap,
because lines separate statements and a bracket refers into a value only if it touches it. -/

namespace Guardrail.Rules

inductive Lexeme where
  | name (s : String)
  | text (s : String)
  | number (n : Number)
  | mark (s : String)
  deriving Inhabited

structure Token where
  lexeme : Lexeme
  line : Nat
  /-- Whether nothing stands between this token and the one before it. -/
  attached : Bool
  deriving Inhabited

namespace Token

def isNameStart (c : Char) : Bool := c.isAlpha || c = '_'

def isNameChar (c : Char) : Bool := c.isAlphanum || c = '_'

/-- Marks of two characters. -/
def doubleMarks : List (Char × Char) := [(':', '='), ('=', '='), ('!', '='), ('<', '='), ('>', '=')]

/-- Marks of one character. -/
def singleMarks : List Char := [
  '\x7b', '\x7d', '[', ']', '(', ')', ',', ';', ':', '.', '=', '<', '>', '+', '-', '*', '/', '%',
  '|', '&']

/-- The exact value of a numeral. -/
def numberOf (n : Json.Numeral) : Option Number :=
  let fraction := n.fraction.getD []
  let digits : Int := Json.Numeral.valueOf (n.whole ++ fraction)
  let exponent : Int := match n.exponent with
    | some (negative, ds) =>
      let e : Int := Json.Numeral.valueOf ds
      if negative then -e else e
    | none => 0
  let power := exponent - fraction.length
  if power.natAbs ≤ 1000 then some (.ofDecimal digits power) else none

/-- Text between backquotes, as it stands. -/
def scanRaw (cs : List Char) : Option (List Char × List Char) :=
  let body := cs.takeWhile (· != '\x60')
  match cs.drop body.length with
  | _ :: rest => some (body, rest)
  | [] => none

/-- The lexeme that begins the characters, and what follows it. -/
def scan : List Char → Option (Lexeme × List Char)
  | '"' :: rest => do
    let (parts, rest') ← Json.Token.scanString rest
    let cs ← Json.Token.assemble parts
    some (.text (String.ofList cs), rest')
  | '\x60' :: rest => do
    let (body, rest') ← scanRaw rest
    some (.text (String.ofList body), rest')
  | c :: rest =>
    if isNameStart c then
      some (.name (String.ofList ((c :: rest).takeWhile isNameChar)),
        (c :: rest).dropWhile isNameChar)
    else if c.isDigit then do
      let (n, rest') ← Json.Token.scanNumeral false (c :: rest)
      let v ← numberOf n
      some (.number v, rest')
    else match rest with
      | d :: rest' =>
        if doubleMarks.contains (c, d) then some (.mark (String.ofList [c, d]), rest')
        else if singleMarks.contains c then some (.mark (String.singleton c), rest)
        else none
      | [] => if singleMarks.contains c then some (.mark (String.singleton c), []) else none
  | [] => none

/-- Blanks and comments are passed over; `touching` tells whether none have been. -/
def scanUpTo : (bound : Nat) → (line : Nat) → (touching : Bool) → List Char → Option (List Token)
  | _, _, _, [] => some []
  | 0, _, _, _ :: _ => none
  | bound + 1, line, touching, c :: cs =>
    if c = '\n' then scanUpTo bound (line + 1) false cs
    else if c = ' ' || c = '\t' || c = '\r' then scanUpTo bound line false cs
    else if c = '#' then scanUpTo bound line false (cs.dropWhile (· != '\n'))
    else do
      let (lexeme, rest) ← scan (c :: cs)
      let lines := ((c :: cs).take (cs.length + 1 - rest.length)).count '\n'
      (scanUpTo bound (line + lines) true rest).map (⟨lexeme, line, touching⟩ :: ·)

def scanAll (text : String) : Option (List Token) :=
  scanUpTo text.toList.length 0 false text.toList

def isMark (s : String) (t : Token) : Bool :=
  match t.lexeme with
  | .mark m => m == s
  | _ => false

def isName (s : String) (t : Token) : Bool :=
  match t.lexeme with
  | .name n => n == s
  | _ => false

end Token
end Guardrail.Rules
