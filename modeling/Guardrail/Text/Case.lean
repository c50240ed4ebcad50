import Guardrail.Text.CaseTable
import Guardrail.Text.ClassTable

/-! Classes of characters and the full case mappings of text. Lower case depends on context at one
letter only: a capital sigma that ends a word becomes `ς`, any other `σ`. A sigma ends a word if,
case-ignorable characters skipped, a cased letter stands before it and none stands after it. -/

namespace Guardrail.Text

def isBlank (c : Char) : Bool := inRanges blankRanges c.toNat

def isDecimal (c : Char) : Bool := inRanges digitRanges c.toNat

def isWordChar (c : Char) : Bool := inRanges wordRanges c.toNat

def isCased (c : Char) : Bool := inRanges casedRanges c.toNat

def isCaseIgnorable (c : Char) : Bool := inRanges caseIgnorableRanges c.toNat

/-- ASCII is mapped without the table. -/
def lowerChar (c : Char) : List Char :=
  if c.toNat < 128 then [c.toLower]
  else if c = 'İ' then ['i', '\u0307']
  else match mapThrough lowerRuns c.toNat with
    | some n => [Char.ofNat n]
    | none => [c]

/-- Whether the nearest character that is not case-ignorable is cased. -/
def reachesCased (cs : List Char) : Bool :=
  (cs.dropWhile isCaseIgnorable).head?.any isCased

/-- Lower case of the characters that follow `before`, which is listed nearest first. -/
def lowerAfter (before : List Char) : List Char → List Char
  | [] => []
  | c :: rest =>
    let mapped :=
      if c = 'Σ' then [if reachesCased before && !reachesCased rest then 'ς' else 'σ']
      else lowerChar c
    mapped ++ lowerAfter (c :: before) rest

def lower (s : String) : String := String.ofList (lowerAfter [] s.toList)

def upperChar (c : Char) : List Char :=
  if c.toNat < 128 then [c.toUpper]
  else match upperExpansions.find? (·.1 == c.toNat) with
    | some (_, cs) => cs.map Char.ofNat
    | none => match mapThrough upperRuns c.toNat with
      | some n => [Char.ofNat n]
      | none => [c]

def upper (s : String) : String := String.ofList (s.toList.flatMap upperChar)

end Guardrail.Text
