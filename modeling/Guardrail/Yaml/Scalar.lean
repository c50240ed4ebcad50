import Guardrail.Text.Number
import Guardrail.Yaml.Layout

/-! The texts of scalars. In a plain or quoted scalar a single line break stands for a blank, and of
several the first is dropped; a block scalar keeps its lines or folds them in the same way where no
line begins with a blank. Every reader goes through the characters once and answers the text and
what follows it. -/

namespace Guardrail.Yaml

/-- What stands between two words: blanks, or line breaks with blanks around them. -/
structure Gap where
  blanks : List Char := []
  breaks : List Char := []
  /-- The first line break was escaped. -/
  joined : Bool := false

namespace Gap

def isEmpty (g : Gap) : Bool := g.blanks.isEmpty && g.breaks.isEmpty

def addBlank (g : Gap) (c : Char) : Gap :=
  if g.breaks.isEmpty && !g.joined then { g with blanks := g.blanks ++ [c] } else g

def addBreak (g : Gap) (c : Char) : Gap := { g with breaks := g.breaks ++ [c] }

/-- The text that a gap stands for. Separators are not folded. -/
def text (g : Gap) : List Char :=
  if g.joined then g.breaks
  else match g.breaks with
    | [] => g.blanks
    | ['\n'] => [' ']
    | '\n' :: more => more
    | all => all

end Gap

/-! ### Plain scalars -/

def flowIndicators : List Char := [',', '[', ']', '{', '}']

structure PlainScalar where
  text : String
  /-- A line break follows the text. -/
  endsLine : Bool
  rest : Rest

/-- Whether a plain scalar ends before a character that follows a gap. -/
def endsAfterGap (inFlow : Bool) (margin : Nat) (s : Spot) (r : Rest) : Bool :=
  (!inFlow && s.column < margin) || Rest.atAnyDocumentMark (s :: r) || s.char == '#'

/-- A plain scalar after the characters of `done`, the last first. A tab may not stand left of the
margin. -/
def plainFrom (inFlow : Bool) (margin : Nat) (done : List Char) (g : Gap) :
    Rest → Option PlainScalar
  | [] => some ⟨String.ofList done.reverse, !g.breaks.isEmpty, []⟩
  | s :: r =>
    let c := s.char
    let ended : PlainScalar := ⟨String.ofList done.reverse, !g.breaks.isEmpty, s :: r⟩
    if isBreak c then plainFrom inFlow margin done (g.addBreak c) r
    else if isBlank c then
      if c == '\t' && !g.breaks.isEmpty && s.column < margin then none
      else plainFrom inFlow margin done (g.addBlank c) r
    else if !g.isEmpty && endsAfterGap inFlow margin s r then some ended
    else if inFlow && c == ':'
        && Rest.starts (fun c => c == '?' || flowIndicators.contains c) r then none
    else if c == ':' && Rest.atGap r then some ended
    else if inFlow && flowIndicators.contains c then some ended
    else plainFrom inFlow margin (c :: (g.text.reverse ++ done)) {} r

/-! ### Quoted scalars -/

/-- Where the reader of a quoted scalar stands. -/
inductive Quoting where
  | inside (g : Gap)
  /-- After a backslash. -/
  | escape
  /-- Within an escape of hexadecimal digits. -/
  | hex (left value : Nat)
  /-- After a single quote, which another may follow. -/
  | quote

def escapes : List (Char × Char) := [
  ('0', '\x00'), ('a', '\x07'), ('b', '\x08'), ('t', '\t'), ('\t', '\t'), ('n', '\n'),
  ('v', '\x0b'), ('f', '\x0c'), ('r', '\r'), ('e', '\x1b'), (' ', ' '), ('"', '"'), ('/', '/'),
  ('\\', '\\'), ('N', '\u0085'), ('_', '\u00a0'), ('L', '\u2028'), ('P', '\u2029')]

def hexEscapes : List (Char × Nat) := [('x', 2), ('u', 4), ('U', 8)]

/-- The rest of a quoted scalar after the characters of `done`, the last first. -/
def quotedFrom (double : Bool) : Quoting → (done : List Char) → Rest → Option (String × Rest)
  | .quote, done, [] => some (String.ofList done.reverse, [])
  | _, _, [] => none
  | .inside g, done, s :: r =>
    let c := s.char
    if isBreak c then quotedFrom double (.inside (g.addBreak c)) done r
    else if isBlank c then quotedFrom double (.inside (g.addBlank c)) done r
    else if Rest.atAnyDocumentMark (s :: r) then none
    else
      let done := g.text.reverse ++ done
      if double && c == '"' then some (String.ofList done.reverse, r)
      else if double && c == '\\' then quotedFrom double .escape done r
      else if !double && c == '\'' then quotedFrom double .quote done r
      else quotedFrom double (.inside {}) (c :: done) r
  | .escape, done, s :: r =>
    let c := s.char
    if isBreak c then quotedFrom double (.inside { joined := true }) done r
    else match escapes.lookup c, hexEscapes.lookup c with
      | some e, _ => quotedFrom double (.inside {}) (e :: done) r
      | none, some n => quotedFrom double (.hex n 0) done r
      | none, none => none
  | .hex left value, done, s :: r =>
    match Text.digitValue? 16 s.char with
    | none => none
    | some d =>
      let value := value * 16 + d
      if 1 < left then quotedFrom double (.hex (left - 1) value) done r
      else if value.isValidChar then quotedFrom double (.inside {}) (Char.ofNat value :: done) r
      else none
  | .quote, done, s :: r =>
    if s.char == '\'' then quotedFrom double (.inside {}) ('\'' :: done) r
    else some (String.ofList done.reverse, s :: r)

/-! ### Block scalars -/

/-- What becomes of the line breaks at the end of a block scalar. -/
inductive Chomping where
  | strip
  | clip
  | keep

/-- The part of a block scalar's head after its first character. -/
structure BlockHead where
  chomping : Chomping := .clip
  /-- The columns that its lines are indented by, if that is said. -/
  indentation : Option Nat := none

namespace BlockHead

def chomping? (c : Char) : Option Chomping :=
  if c == '+' then some .keep else if c == '-' then some .strip else none

/-- The marks of a head in either order; an indentation of zero is none. -/
def read? (r : Rest) : Option (BlockHead × Rest) :=
  match r with
  | [] => some ({}, [])
  | a :: r' =>
    match chomping? a.char, Text.digitValue? 10 a.char with
    | some chomping, _ =>
      match r'.head?.bind fun b => Text.digitValue? 10 b.char with
      | none => some ({ chomping }, r')
      | some 0 => none
      | some n => some (⟨chomping, some n⟩, r'.drop 1)
    | none, none => some ({}, r)
    | none, some 0 => none
    | none, some n =>
      match r'.head?.bind fun b => chomping? b.char with
      | none => some ({ indentation := some n }, r')
      | some chomping => some (⟨chomping, some n⟩, r'.drop 1)

end BlockHead

/-- Where the reader of a block scalar stands. -/
inductive Blocking where
  /-- Before its first line, whose indentation shows the margin; the widest column so far. -/
  | unsettled (widest : Nat)
  /-- Before a line's text. -/
  | margin (column : Nat)
  | line (column : Nat)

structure BlockText where
  /-- The last character first. -/
  done : List Char := []
  /-- The line break after the last line. -/
  lead : List Char := []
  /-- The line breaks after that. -/
  trail : List Char := []
  /-- The last line began with a blank. -/
  afterBlank : Bool := false

namespace BlockText

/-- A line begins with the character. -/
def beginLine (folded : Bool) (t : BlockText) (c : Char) : BlockText :=
  let join := if folded && t.lead == ['\n'] && !t.afterBlank && !isBlank c then
      (if t.trail.isEmpty then [' '] else [])
    else t.lead
  { done := c :: (t.trail.reverse ++ (join.reverse ++ t.done)), afterBlank := isBlank c }

def finish (chomping : Chomping) (t : BlockText) : String :=
  let tail := match chomping with
    | .strip => []
    | .clip => t.lead
    | .keep => t.lead ++ t.trail
  String.ofList (t.done.reverse ++ tail)

end BlockText

/-- The lines of a block scalar. A line belongs to it if its text begins at the margin or beyond;
the margin is found to the right of `least`. Tabs may not stand in front of it. -/
def blockFrom (folded : Bool) (chomping : Chomping) (least : Nat) :
    Blocking → BlockText → Rest → Option (String × Rest)
  | _, t, [] => some (t.finish chomping, [])
  | .unsettled widest, t, s :: r =>
    let c := s.char
    let widest := max widest s.column
    if c == ' ' then blockFrom folded chomping least (.unsettled widest) t r
    else if c == '\t' then none
    else if isBreak c then
      blockFrom folded chomping least (.unsettled widest) { t with trail := t.trail ++ [c] } r
    else
      let column := max widest least
      if s.column == column then
        blockFrom folded chomping least (.line column) (t.beginLine folded c) r
      else some (t.finish chomping, s :: r)
  | .margin column, t, s :: r =>
    let c := s.char
    if isBreak c then
      blockFrom folded chomping least (.margin column) { t with trail := t.trail ++ [c] } r
    else if s.column == column then
      blockFrom folded chomping least (.line column) (t.beginLine folded c) r
    else if c == ' ' && s.column < column then
      blockFrom folded chomping least (.margin column) t r
    else if c == '\t' && s.column < column then none
    else some (t.finish chomping, s :: r)
  | .line column, t, s :: r =>
    let c := s.char
    if isBreak c then blockFrom folded chomping least (.margin column) { t with lead := [c] } r
    else blockFrom folded chomping least (.line column) { t with done := c :: t.done } r

/-- A block scalar after its first character, inside collections that begin at the column of
`parent`, if there are any. -/
def block? (folded : Bool) (parent : Option Nat) (r : Rest) : Option (String × Rest) := do
  let (head, r) ← BlockHead.read? r
  let r ← r.afterLine?
  let least := max 1 ((parent.map (· + 1)).getD 0)
  match head.indentation with
  | none => blockFrom folded head.chomping least (.unsettled 0) {} r
  | some n => blockFrom folded head.chomping least (.margin (parent.getD 0 + n)) {} r

end Guardrail.Yaml
