import Guardrail.Arithmetic
import Guardrail.Text.Search

/-! Points in time and their text, RFC 3339 with liberties in what is read: one digit where two are
usual, blanks between the parts, a blank for the `T`, `UTC` for the offset, and a sixtieth second.
Times are kept in universal time and written with `Z` and a fraction of 3, 6 or 9 digits where there
is one. Dates are those of the Gregorian calendar extended both ways. -/

namespace Guardrail

structure Timestamp where
  /-- Days since 1 January 1970. -/
  day : Int
  secondOfDay : Nat
  /-- A second past the end of the minute counts as a billion more. -/
  nanosecond : Nat
  deriving DecidableEq

namespace Timestamp

def isLeapYear (y : Int) : Bool := y % 4 = 0 && (y % 100 ≠ 0 || y % 400 = 0)

def daysInMonth (y : Int) (m : Nat) : Nat :=
  if m = 2 then (if isLeapYear y then 29 else 28)
  else if m = 4 || m = 6 || m = 9 || m = 11 then 30
  else 31

/-- Days since 1 January 1970, counted over years that begin in March. -/
def dayOfDate (y : Int) (m d : Nat) : Int :=
  let y' : Int := if m ≤ 2 then y - 1 else y
  let era := y' / 400
  let yearOfEra := y' % 400
  let dayOfYear : Int := (153 * ((m + 9) % 12) + 2) / 5 + d - 1
  let dayOfEra := yearOfEra * 365 + yearOfEra / 4 - yearOfEra / 100 + dayOfYear
  era * 146097 + dayOfEra - 719468

/-- Year, month and day. -/
def dateOfDay (day : Int) : Int × Nat × Nat :=
  let z := day + 719468
  let era := z / 146097
  let dayOfEra := z % 146097
  let yearOfEra := (dayOfEra - dayOfEra / 1460 + dayOfEra / 36524 - dayOfEra / 146096) / 365
  let dayOfYear := dayOfEra - (365 * yearOfEra + yearOfEra / 4 - yearOfEra / 100)
  let mp := (5 * dayOfYear + 2) / 153
  let d := (dayOfYear - (153 * mp + 2) / 5 + 1).toNat
  let m := (if mp < 10 then mp + 3 else mp - 9).toNat
  (yearOfEra + era * 400 + (if m ≤ 2 then 1 else 0), m, d)

/-! ### Reading -/

def isAsciiDigit (c : Char) : Bool := '0' ≤ c && c ≤ '9'

def numberOf (cs : List Char) : Nat :=
  cs.foldl (fun acc c => acc * 10 + (c.toNat - '0'.toNat)) 0

def skipBlanks (cs : List Char) : List Char := cs.dropWhile Text.isBlank

/-- A number of at least one digit and at most `width`, blanks before it ignored. -/
def readNumber (width : Nat) (cs : List Char) : Option (Nat × List Char) :=
  let cs := skipBlanks cs
  let ds := (cs.take width).takeWhile isAsciiDigit
  if ds.isEmpty then none else some (numberOf ds, cs.drop ds.length)

/-- Without a sign a year has at most four digits. -/
def readYear (cs : List Char) : Option (Int × List Char) :=
  match skipBlanks cs with
  | '-' :: rest =>
    match rest with
    | c :: _ =>
      if isAsciiDigit c then (readNumber rest.length rest).map fun (n, cs') => (-(n : Int), cs')
      else none
    | [] => none
  | '+' :: rest =>
    match rest with
    | c :: _ =>
      if isAsciiDigit c then (readNumber rest.length rest).map fun (n, cs') => ((n : Int), cs')
      else none
    | [] => none
  | cs => (readNumber 4 cs).map fun (n, cs') => ((n : Int), cs')

/-- Blanks and then the character. -/
def expect (c : Char) (cs : List Char) : Option (List Char) :=
  match skipBlanks cs with
  | c' :: rest => if c' = c then some rest else none
  | [] => none

def readSeparator : List Char → Option (List Char)
  | c :: rest => if c = 'T' || c = 't' || c = ' ' then some rest else none
  | [] => none

/-- The fraction of a second; digits after the ninth are ignored. -/
def readFraction : List Char → Option (Nat × List Char)
  | '.' :: rest =>
    let ds := rest.takeWhile isAsciiDigit
    if ds.isEmpty then none
    else some (numberOf (ds.take 9) * tenTo (9 - min 9 ds.length), rest.drop ds.length)
  | cs => some (0, cs)

def readTwoDigits : List Char → Option (Nat × List Char)
  | a :: b :: rest =>
    if isAsciiDigit a && isAsciiDigit b then some (numberOf [a, b], rest) else none
  | _ => none

def readOffset (cs : List Char) : Option (Int × List Char) :=
  let signed (sign : Int) (rest : List Char) : Option (Int × List Char) := do
    let (hours, rest) ← readTwoDigits rest
    let (minutes, rest) ← readTwoDigits (rest.dropWhile fun c => c = ':' || Text.isBlank c)
    if minutes < 60 then some (sign * (hours * 3600 + minutes * 60), rest) else none
  match cs with
  | '+' :: rest => signed 1 rest
  | '-' :: rest => signed (-1) rest
  | '\u2212' :: rest => signed (-1) rest
  | c :: rest =>
    if c = 'Z' || c = 'z' then some (0, rest)
    else if (cs.take 3).map Char.toLower = ['u', 't', 'c'] then some (0, cs.drop 3)
    else none
  | [] => none

def minYear : Int := -262143

def maxYear : Int := 262142

def parse (text : String) : Option Timestamp := do
  let (year, cs) ← readYear text.toList
  let cs ← expect '-' cs
  let (month, cs) ← readNumber 2 cs
  let cs ← expect '-' cs
  let (day, cs) ← readNumber 2 cs
  let cs ← readSeparator cs
  let (hour, cs) ← readNumber 2 cs
  let cs ← expect ':' cs
  let (minute, cs) ← readNumber 2 cs
  let cs ← expect ':' cs
  let (second, cs) ← readNumber 2 cs
  let (fraction, cs) ← readFraction cs
  let (offset, cs) ← readOffset (skipBlanks cs)
  if !(skipBlanks cs).isEmpty then none
  else if year < minYear || maxYear < year || month < 1 || 12 < month || day < 1 then none
  else if daysInMonth year month < day || 23 < hour || 59 < minute || 60 < second then none
  else if 86400 ≤ offset.natAbs then none
  else
    let seconds : Int := hour * 3600 + minute * 60 + min second 59 - offset
    let utcDay := dayOfDate year month day + seconds / 86400
    let (utcYear, _) := dateOfDay utcDay
    if utcYear < minYear || maxYear < utcYear then none
    else some ⟨utcDay, (seconds % 86400).toNat, fraction + (if second = 60 then 1000000000 else 0)⟩

/-! ### Writing -/

/-- The digits with zeros in front up to the width. -/
def padded (width n : Nat) : String :=
  let ds := Nat.toDigits 10 n
  String.ofList (List.replicate (width - ds.length) '0' ++ ds)

def yearText (y : Int) : String :=
  if 0 ≤ y && y ≤ 9999 then padded 4 y.toNat
  else (if y < 0 then "-" else "+") ++ padded 4 y.natAbs

def fractionText (n : Nat) : String :=
  if n = 0 then ""
  else if n % 1000000 = 0 then "." ++ padded 3 (n / 1000000)
  else if n % 1000 = 0 then "." ++ padded 6 (n / 1000)
  else "." ++ padded 9 n

def render (t : Timestamp) : String :=
  let (y, m, d) := dateOfDay t.day
  let s := t.secondOfDay
  let leap := t.nanosecond / 1000000000
  yearText y ++ "-" ++ padded 2 m ++ "-" ++ padded 2 d ++ "T"
    ++ padded 2 (s / 3600) ++ ":" ++ padded 2 (s / 60 % 60) ++ ":" ++ padded 2 (s % 60 + leap)
    ++ fractionText (t.nanosecond % 1000000000) ++ "Z"

end Timestamp
end Guardrail
