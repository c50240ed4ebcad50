/-! YAML text laid out in lines and columns. Line breaks of every kind but the two separators are
written as one; some characters may not occur at all. -/

namespace Guardrail.Yaml

/-- A character and where it stands. The offset counts bytes. -/
structure Spot where
  char : Char
  line : Nat
  column : Nat
  offset : Nat

def byteOrderMark : Char := '\ufeff'

def isBreak (c : Char) : Bool := c == '\n' || c == '\u2028' || c == '\u2029'

def isBlank (c : Char) : Bool := c == ' ' || c == '\t'

/-- Characters of names and of the words in tags. -/
def isNameChar (c : Char) : Bool := c.isAlphanum || c == '_' || c == '-'

/-- Control characters and noncharacters of the basic plane may not occur. -/
def mayOccur (c : Char) : Bool :=
  let n := c.toNat
  n == 0x09 || n == 0x0a || n == 0x0d || (0x20 ≤ n && n ≤ 0x7e) || n == 0x85
    || (0xa0 ≤ n && n ≤ 0xfffd) || 0x10000 ≤ n

namespace Spot

def layFrom (line column offset : Nat) : List Char → List Spot
  | [] => []
  | '\r' :: '\n' :: cs => ⟨'\n', line, column, offset⟩ :: layFrom (line + 1) 0 (offset + 2) cs
  | c :: cs =>
    let c' := if c == '\r' || c == '\u0085' then '\n' else c
    let offset' := offset + c.utf8Size
    ⟨c', line, column, offset⟩ ::
      (if isBreak c' then layFrom (line + 1) 0 offset' cs else layFrom line (column + 1) offset' cs)

/-- A byte order mark before everything else is no part of the text. -/
def lay? (text : String) : Option (List Spot) :=
  let cs := match text.toList with
    | c :: cs => if c == byteOrderMark then cs else c :: cs
    | [] => []
  if cs.all mayOccur then some (layFrom 0 0 0 cs) else none

end Spot

/-! ### What comes next -/

/-- The characters still to be read. -/
abbrev Rest := List Spot

namespace Rest

def skip (r : Rest) (n : Nat) : Rest := r.drop n

def starts (p : Char → Bool) (r : Rest) : Bool := r.head?.any fun s => p s.char

/-- The text ends here, or a blank or a break follows. -/
def atGap (r : Rest) : Bool := r.head?.all fun s => isBlank s.char || isBreak s.char

def atLineEnd (r : Rest) : Bool := r.head?.all fun s => isBreak s.char

/-- The mark in the first column of a line that begins or ends a document. -/
def atDocumentMark (mark : Char) (r : Rest) : Bool :=
  match r with
  | a :: b :: c :: more =>
    a.column == 0 && a.char == mark && b.char == mark && c.char == mark && atGap more
  | _ => false

def atAnyDocumentMark (r : Rest) : Bool := r.atDocumentMark '-' || r.atDocumentMark '.'

def dropText (p : Char → Bool) (r : Rest) : Rest := r.dropWhile fun s => p s.char

def dropBlanks (r : Rest) : Rest := r.dropText isBlank

def dropLine (r : Rest) : Rest := r.dropText (!isBreak ·)

/-- What follows blanks, a comment and the end of the line, if nothing else stands on it. -/
def afterLine? (r : Rest) : Option Rest :=
  let r := r.dropBlanks
  let r := if r.starts (· == '#') then r.dropLine else r
  if r.atLineEnd then some (r.skip 1) else none

/-- The characters up to the first that fails the test, as text. -/
def takeText (p : Char → Bool) (r : Rest) : String :=
  String.ofList ((r.takeWhile fun s => p s.char).map (·.char))

end Rest
end Guardrail.Yaml
