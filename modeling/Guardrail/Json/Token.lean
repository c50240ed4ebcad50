/-! Tokens of JSON text. A numeral keeps its digits and a string its escapes' verdict, because text
that nobody reads need not denote: a value that is skipped may hold a numeral out of range or half
of a surrogate pair. -/

namespace Guardrail.Json

/-- A numeral as written. -/
structure Numeral where
  negative : Bool
  whole : List Nat
  fraction : Option (List Nat)
  /-- Whether the exponent is negative, and its digits. -/
  exponent : Option (Bool × List Nat)
  deriving DecidableEq

inductive Token where
  | null
  | bool (b : Bool)
  | numeral (n : Numeral)
  /-- A string, or nothing if its escapes leave half of a surrogate pair. -/
  | string (s : Option String)
  | openArray
  | closeArray
  | openObject
  | closeObject
  | colon
  | comma
  deriving DecidableEq

namespace Token

/-- A character of a string or a code unit written as an escape. -/
inductive Part where
  | char (c : Char)
  | unit (n : Nat)

def hexValue? (c : Char) : Option Nat :=
  if '0' ≤ c && c ≤ '9' then some (c.toNat - '0'.toNat)
  else if 'a' ≤ c && c ≤ 'f' then some (c.toNat - 'a'.toNat + 10)
  else if 'A' ≤ c && c ≤ 'F' then some (c.toNat - 'A'.toNat + 10)
  else none

def simpleEscape? : Char → Option Char
  | '"' => some '"'
  | '\\' => some '\\'
  | '/' => some '/'
  | 'b' => some '\x08'
  | 'f' => some '\x0c'
  | 'n' => some '\n'
  | 'r' => some '\r'
  | 't' => some '\t'
  | _ => none

/-- The parts up to the closing quote, and what follows it. -/
def scanString : List Char → Option (List Part × List Char)
  | [] => none
  | '"' :: rest => some ([], rest)
  | '\\' :: 'u' :: a :: b :: c :: d :: rest => do
    let n := (← hexValue? a) * 4096 + (← hexValue? b) * 256 + (← hexValue? c) * 16 + (← hexValue? d)
    let (parts, rest') ← scanString rest
    some (.unit n :: parts, rest')
  | '\\' :: e :: rest => do
    let c ← simpleEscape? e
    let (parts, rest') ← scanString rest
    some (.char c :: parts, rest')
  | c :: rest =>
    if c.toNat < 32 || c = '\\' then none
    else do
      let (parts, rest') ← scanString rest
      some (.char c :: parts, rest')

/-- Pairs of surrogates become one character; a surrogate without its partner is nothing. -/
def assemble : List Part → Option (List Char)
  | [] => some []
  | .char c :: rest => (assemble rest).map (c :: ·)
  | .unit hi :: .unit lo :: rest =>
    if 0xD800 ≤ hi && hi < 0xDC00 then
      if 0xDC00 ≤ lo && lo < 0xE000 then
        (assemble rest).map (Char.ofNat (0x10000 + (hi - 0xD800) * 1024 + (lo - 0xDC00)) :: ·)
      else none
    else if 0xDC00 ≤ hi && hi < 0xE000 then none
    else (assemble (.unit lo :: rest)).map (Char.ofNat hi :: ·)
  | .unit n :: rest =>
    if 0xD800 ≤ n && n < 0xE000 then none else (assemble rest).map (Char.ofNat n :: ·)

def isAsciiDigit (c : Char) : Bool := '0' ≤ c && c ≤ '9'

def digitsOf (cs : List Char) : List Nat :=
  (cs.takeWhile isAsciiDigit).map fun c => c.toNat - '0'.toNat

def dropDigits (cs : List Char) : List Char := cs.dropWhile isAsciiDigit

/-- The digits after a point, if there is one; a point needs a digit. -/
def scanFraction : List Char → Option (Option (List Nat) × List Char)
  | '.' :: cs => if (digitsOf cs).isEmpty then none else some (some (digitsOf cs), dropDigits cs)
  | cs => some (none, cs)

def scanExponentDigits (negative : Bool) (cs : List Char) :
    Option (Option (Bool × List Nat) × List Char) :=
  if (digitsOf cs).isEmpty then none else some (some (negative, digitsOf cs), dropDigits cs)

def scanExponent : List Char → Option (Option (Bool × List Nat) × List Char)
  | c :: cs =>
    if c = 'e' || c = 'E' then
      match cs with
      | '+' :: ds => scanExponentDigits false ds
      | '-' :: ds => scanExponentDigits true ds
      | ds => scanExponentDigits false ds
    else some (none, c :: cs)
  | [] => some (none, [])

/-- A zero in front is followed by no other digit. -/
def scanNumeral (negative : Bool) (cs : List Char) : Option (Numeral × List Char) := do
  let whole := digitsOf cs
  if whole.isEmpty || (whole.head? == some 0 && 1 < whole.length) then none
  else
    let (fraction, cs₁) ← scanFraction (dropDigits cs)
    let (exponent, cs₂) ← scanExponent cs₁
    some (⟨negative, whole, fraction, exponent⟩, cs₂)

def isSpace (c : Char) : Bool := c = ' ' || c = '\n' || c = '\t' || c = '\r'

/-- The token that begins the characters, and what follows it. -/
def scan : List Char → Option (Token × List Char)
  | '[' :: rest => some (openArray, rest)
  | ']' :: rest => some (closeArray, rest)
  | '\x7b' :: rest => some (openObject, rest)
  | '\x7d' :: rest => some (closeObject, rest)
  | ':' :: rest => some (colon, rest)
  | ',' :: rest => some (comma, rest)
  | 'n' :: 'u' :: 'l' :: 'l' :: rest => some (null, rest)
  | 't' :: 'r' :: 'u' :: 'e' :: rest => some (bool true, rest)
  | 'f' :: 'a' :: 'l' :: 's' :: 'e' :: rest => some (bool false, rest)
  | '"' :: rest => do
    let (parts, rest') ← scanString rest
    some (string ((assemble parts).map String.ofList), rest')
  | '-' :: rest => (scanNumeral true rest).map fun (n, rest') => (numeral n, rest')
  | cs => (scanNumeral false cs).map fun (n, rest') => (numeral n, rest')

/-- The tokens of the characters, of which `bound` limits the number. -/
def scanUpTo : (bound : Nat) → List Char → Option (List Token)
  | bound, cs =>
    match cs.dropWhile isSpace with
    | [] => some []
    | c :: rest =>
      match bound with
      | 0 => none
      | bound + 1 => do
        let (t, rest') ← scan (c :: rest)
        (scanUpTo bound rest').map (t :: ·)

/-- Every token takes a character at least, so the length bounds their number. -/
def scanAll (text : String) : Option (List Token) := scanUpTo text.toList.length text.toList

end Token
end Guardrail.Json
