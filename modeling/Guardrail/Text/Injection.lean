import Guardrail.Text.Search

/-! Shapes of instructions smuggled into a query. A shape is a sequence of pieces; it is found
wherever a contiguous part of the text splits into parts that match its pieces in turn. No piece
that can follow blanks begins with one, so taking every blank at once misses nothing. -/

namespace Guardrail.Text

inductive Piece where
  /-- The letters in either case. -/
  | literal (text : String)
  /-- One of two words, the letters in either case. -/
  | either (left right : String)
  /-- Blanks, at least one. -/
  | blanks
  /-- Blanks, possibly none. -/
  | gap

/-- Equality under simple case folding with a character of ASCII, which `ſ` and the Kelvin sign
share with `s` and `k`. -/
def foldsTo (c pattern : Char) : Bool :=
  c.toLower == pattern.toLower
    || (c == 'ſ' && pattern.toLower == 's') || (c == '\u212A' && pattern.toLower == 'k')

/-- What is left after the literal, if the characters begin with it. -/
def dropFolded : List Char → List Char → Option (List Char)
  | [], cs => some cs
  | _ :: _, [] => none
  | p :: ps, c :: cs => if foldsTo c p then dropFolded ps cs else none

/-- Whether the characters begin with parts that match the pieces in turn. -/
def beginsWith : List Piece → List Char → Bool
  | [], _ => true
  | .literal t :: ps, cs => (dropFolded t.toList cs).any (beginsWith ps)
  | .either l r :: ps, cs =>
    (dropFolded l.toList cs).any (beginsWith ps) || (dropFolded r.toList cs).any (beginsWith ps)
  | .blanks :: ps, cs => cs.head?.any isBlank && beginsWith ps (cs.dropWhile isBlank)
  | .gap :: ps, cs => beginsWith ps (cs.dropWhile isBlank)

def Piece.Matches : Piece → List Char → Prop
  | .literal t, w => dropFolded t.toList w = some []
  | .either l r, w => dropFolded l.toList w = some [] ∨ dropFolded r.toList w = some []
  | .blanks, w => w ≠ [] ∧ ∀ c ∈ w, isBlank c
  | .gap, w => ∀ c ∈ w, isBlank c

/-- Splits of `w` into parts that match the pieces. -/
inductive Matches : List Piece → List Char → Prop where
  | nil : Matches [] []
  | cons {p : Piece} {ps : List Piece} {u w : List Char} :
    p.Matches u → Matches ps w → Matches (p :: ps) (u ++ w)

/-- The seven shapes that a query must not contain. -/
def injectionShapes : List (List Piece) := [
  [.literal "ignore", .blanks, .literal "previous", .blanks, .literal "instructions"],
  [.literal "forget", .blanks, .literal "all", .blanks, .either "previous" "prior"],
  [.literal "disregard", .blanks, .either "above" "previous"],
  [.literal "system", .gap, .literal ":", .gap, .literal "you", .blanks, .literal "are"],
  [.literal "[inst]"],
  [.literal "<|im_start|>"],
  [.literal "###", .gap, .literal "instruction"]]

/-- Whether a shape begins at some position. -/
def hasShape (shape : List Piece) : List Char → Bool
  | [] => beginsWith shape []
  | c :: cs => beginsWith shape (c :: cs) || hasShape shape cs

def hasInjection (text : String) : Bool := injectionShapes.any (hasShape · text.toList)

end Guardrail.Text
