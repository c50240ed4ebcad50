import Guardrail.Arithmetic
import Guardrail.Yaml.Scalar

/-! The tokens of a YAML text. A key that no question mark announces is known for one only when its
colon is reached; until then the place where it may have begun is remembered, and the tokens that
open it are set in at that place. Such a key stands on one line and is not long. Outside flow
collections the column of what comes next closes block collections. -/

namespace Guardrail.Yaml

/-- How a scalar is written. -/
inductive Style where
  | plain
  | quoted
  | literal
  | folded
  deriving DecidableEq

inductive Token where
  | version (major minor : Nat)
  | tagHandle (handle lead : String)
  | documentStart
  | documentEnd
  | openBlockItems
  | openBlockPairs
  | closeBlock
  | openItems
  | closeItems
  | openPairs
  | closePairs
  /-- The dash of an item in a block. -/
  | item
  | comma
  | key
  | value
  | anchor (name : String)
  | alias (name : String)
  | tag (handle suffix : String)
  | scalar (style : Style) (text : String)
  deriving DecidableEq

/-! ### Tags and directives -/

def isUriChar (c : Char) : Bool := isNameChar c || ";/?:@&=+$.%!~*'()".toList.contains c

/-- How many bytes begin with this one, and the bits of the character in it. -/
def leadByte? (b : Nat) : Option (Nat × Nat) :=
  if b < 0x80 then some (1, b)
  else if 0xc0 ≤ b && b < 0xe0 then some (2, b % 0x20)
  else if 0xe0 ≤ b && b < 0xf0 then some (3, b % 0x10)
  else if 0xf0 ≤ b && b < 0xf8 then some (4, b % 0x08)
  else none

/-- Percent signs with two digits each, for the bytes of a character of which `left` more follow. -/
def decodeUri : (left bits : Nat) → List Char → Option (List Char)
  | 0, _, [] => some []
  | _ + 1, _, [] => none
  | left, bits, '%' :: a :: b :: cs => do
    let byte := (← Text.digitValue? 16 a) * 16 + (← Text.digitValue? 16 b)
    match left with
    | 0 =>
      let (length, bits) ← leadByte? byte
      if length = 1 then (decodeUri 0 0 cs).map (Char.ofNat bits :: ·)
      else decodeUri (length - 1) bits cs
    | left + 1 =>
      if byte / 0x40 ≠ 2 then none
      else
        let bits := bits * 0x40 + byte % 0x40
        if left = 0 then (decodeUri 0 0 cs).map (Char.ofNat bits :: ·) else decodeUri left bits cs
  | 0, _, c :: cs => if c = '%' then none else (decodeUri 0 0 cs).map (c :: ·)
  | _ + 1, _, _ => none

/-- Characters of a URI and what follows them, if there are any or `mayBeEmpty`. -/
def uri? (verbatim mayBeEmpty : Bool) (r : Rest) : Option (String × Rest) := do
  let inUri (c : Char) : Bool := isUriChar c || (verbatim && [',', '[', ']'].contains c)
  let text := r.takeText inUri
  if text.isEmpty && !mayBeEmpty then none
  else some (String.ofList (← decodeUri 0 0 text.toList), r.dropText inUri)

/-- An exclamation mark, the name characters after it, and a second mark if it is there. -/
def handle? (r : Rest) : Option (String × Rest) :=
  if !r.starts (· == '!') then none
  else
    let name := (r.skip 1).takeText isNameChar
    let r := (r.skip 1).dropText isNameChar
    if r.starts (· == '!') then some ("!" ++ name ++ "!", r.skip 1) else some ("!" ++ name, r)

def isNamedHandle (handle : String) : Bool := handle != "!" && handle.endsWith "!"

/-- A tag is written with angle brackets, with a handle, or with an exclamation mark alone. -/
def tag? (inFlow : Bool) (r : Rest) : Option (Token × Rest) := do
  let (token, r) ←
    if (r.skip 1).starts (· == '<') then do
      let (suffix, r) ← uri? true false (r.skip 2)
      if r.starts (· == '>') then some (Token.tag "" suffix, r.skip 1) else none
    else do
      let (handle, r) ← handle? r
      if isNamedHandle handle then
        let (suffix, r) ← uri? false false r
        some (Token.tag handle suffix, r)
      else
        let (more, r) ← uri? false true r
        let suffix := (handle.drop 1).toString ++ more
        some (if suffix.isEmpty then Token.tag "" "!" else Token.tag "!" suffix, r)
  if r.atGap || (inFlow && r.starts (· == ',')) then some (token, r) else none

/-- A number of at most nine digits. -/
def versionNumber? (r : Rest) : Option (Nat × Rest) := do
  let text := r.takeText Char.isDigit
  if 9 < text.length then none
  else some (← Text.digits? 10 (tenTo 9) text.toList, r.dropText Char.isDigit)

/-- A directive stands on a line of its own after a percent sign. -/
def directive? (r : Rest) : Option (Token × Rest) := do
  let name := r.takeText isNameChar
  let r := r.dropText isNameChar
  if !r.atGap then none
  else
    let r := r.dropBlanks
    let (token, r) ←
      if name == "YAML" then do
        let (major, r) ← versionNumber? r
        if !r.starts (· == '.') then none
        else
          let (minor, r) ← versionNumber? (r.skip 1)
          some (Token.version major minor, r)
      else if name == "TAG" then do
        let (handle, r) ← handle? r
        if !(handle == "!" || isNamedHandle handle) || !r.starts isBlank then none
        else
          let (lead, r) ← uri? true false r.dropBlanks
          if r.atGap then some (Token.tagHandle handle lead, r) else none
      else none
    some (token, ← r.afterLine?)

/-- Characters that may follow the name of an anchor or alias without a gap. -/
def endsName (c : Char) : Bool := "?:,]\x7d%@\x60".toList.contains c

def anchorName? (r : Rest) : Option (String × Rest) :=
  let name := r.takeText isNameChar
  let r := r.dropText isNameChar
  if !name.isEmpty && (r.atGap || r.starts endsName) then some (name, r) else none

/-! ### The state of the scan -/

/-- A place where a key may have begun. -/
structure Candidate where
  /-- The tokens before it. -/
  place : Nat
  line : Nat
  column : Nat
  offset : Nat
  /-- Nothing but a key can stand here. -/
  required : Bool

structure Scan where
  rest : Rest
  /-- The latest token first. -/
  tokens : List Token := []
  count : Nat := 0
  /-- Tokens to set in and the place of each, the latest first. -/
  inserted : List (Nat × List Token) := []
  /-- The columns of the open block collections, innermost first. -/
  blocks : List Nat := []
  /-- What may be a key in the open flow collections, innermost first. -/
  outer : List (Option Candidate) := []
  /-- What may be a key in this collection. -/
  candidate : Option Candidate := none
  keyAllowed : Bool := true

namespace Scan

def inFlow (s : Scan) : Bool := !s.outer.isEmpty

def emit (s : Scan) (t : Token) : Scan := { s with tokens := t :: s.tokens, count := s.count + 1 }

def emitAll (s : Scan) (ts : List Token) : Scan := ts.foldl emit s

def skipTo (s : Scan) (r : Rest) : Scan := { s with rest := r }

/-- Blanks, comments and line breaks before a token. A tab may not stand where a key may begin in a
block; a line break lets one begin there. -/
def skipGap (inFlow : Bool) : (inComment keyAllowed : Bool) → Rest → Bool × Rest
  | _, keyAllowed, [] => (keyAllowed, [])
  | inComment, keyAllowed, s :: r =>
    let c := s.char
    if isBreak c then skipGap inFlow false (keyAllowed || !inFlow) r
    else if inComment then skipGap inFlow true keyAllowed r
    else if (c == byteOrderMark && s.column == 0) || c == ' ' then skipGap inFlow false keyAllowed r
    else if c == '\t' && (inFlow || !keyAllowed) then skipGap inFlow false keyAllowed r
    else if c == '#' then skipGap inFlow true keyAllowed r
    else (keyAllowed, s :: r)

/-- How far the colon may be from where the key begins. -/
def maxKeyBytes : Nat := 1024

/-- A place that can be a key no longer is forgotten, unless only a key can stand there. -/
def stillKey? (at_ : Spot) : Option Candidate → Option (Option Candidate)
  | none => some none
  | some k =>
    if k.line < at_.line || k.offset + maxKeyBytes < at_.offset then
      if k.required then none else some none
    else some (some k)

def dropStale (at_ : Spot) (s : Scan) : Option Scan := do
  return { s with
    candidate := ← stillKey? at_ s.candidate
    outer := ← s.outer.mapM (stillKey? at_) }

/-- Block collections that begin to the right of the column are closed. -/
def closeBlocks (s : Scan) (column : Nat) : Scan :=
  if s.inFlow then s
  else
    { s.emitAll ((s.blocks.takeWhile (column < ·)).map fun _ => .closeBlock) with
      blocks := s.blocks.dropWhile (column < ·) }

def closeAllBlocks (s : Scan) : Scan :=
  if s.inFlow then s
  else { s.emitAll (s.blocks.map fun _ => .closeBlock) with blocks := [] }

def isInside (column : Nat) (blocks : List Nat) : Bool := blocks.head?.all (· < column)

/-- A block collection begins at the column unless it has begun already. -/
def openBlock (s : Scan) (column : Nat) (t : Token) : Scan :=
  if !s.inFlow && isInside column s.blocks then
    { s.emit t with blocks := column :: s.blocks }
  else s

/-- No key begins at the remembered place after all. -/
def dropCandidate (s : Scan) : Option Scan :=
  if s.candidate.any (·.required) then none else some { s with candidate := none }

/-- A key may begin here. -/
def saveCandidate (s : Scan) (p : Spot) : Option Scan :=
  if !s.keyAllowed then some s
  else do
    let s ← s.dropCandidate
    return { s with
      candidate := some {
        place := s.count
        line := p.line
        column := p.column
        offset := p.offset
        required := !s.inFlow && s.blocks.head? == some p.column } }

/-- The remembered place turns out to begin a key. -/
def setKey (s : Scan) (k : Candidate) : Scan :=
  let opens := !s.inFlow && isInside k.column s.blocks
  { s with
    inserted := (k.place, if opens then [.openBlockPairs, .key] else [.key]) :: s.inserted
    blocks := if opens then k.column :: s.blocks else s.blocks
    candidate := none
    keyAllowed := false }

/-! ### Single tokens -/

/-- A token that ends what could be a key and stands alone on its level. -/
def mark (s : Scan) (t : Token) (r : Rest) (keyAllowed : Bool) : Option Scan := do
  let s ← s.dropCandidate
  return { s.emit t with rest := r, keyAllowed }

def openFlow (s : Scan) (p : Spot) (t : Token) (r : Rest) : Option Scan := do
  let s ← s.saveCandidate p
  return { s.emit t with
    rest := r
    outer := s.candidate :: s.outer
    candidate := none
    keyAllowed := true }

def closeFlow (s : Scan) (t : Token) (r : Rest) : Option Scan := do
  let s ← s.dropCandidate
  return { s.emit t with
    rest := r
    outer := s.outer.drop 1
    candidate := s.outer.head?.getD none
    keyAllowed := false }

/-- A token with which a key may begin. -/
def word (s : Scan) (p : Spot) (read : Option (Token × Rest)) : Option Scan := do
  let s ← s.saveCandidate p
  let (t, r) ← read
  return { s.emit t with rest := r, keyAllowed := false }

def plain (s : Scan) (p : Spot) : Option Scan := do
  let s ← s.saveCandidate p
  let margin := (s.blocks.head?.map (· + 1)).getD 0
  let text ← plainFrom s.inFlow margin [] {} s.rest
  return { s.emit (.scalar .plain text.text) with rest := text.rest, keyAllowed := text.endsLine }

def block (s : Scan) (folded : Bool) (r : Rest) : Option Scan := do
  let s ← s.dropCandidate
  let (text, r) ← block? folded s.blocks.head? r
  let style := if folded then Style.folded else .literal
  return { s.emit (.scalar style text) with rest := r, keyAllowed := true }

def itemMark (s : Scan) (p : Spot) (r : Rest) : Option Scan :=
  if s.inFlow then s.mark .item r true
  else if s.keyAllowed then (s.openBlock p.column .openBlockItems).mark .item r true
  else none

def keyMark (s : Scan) (p : Spot) (r : Rest) : Option Scan :=
  if s.inFlow then s.mark .key r false
  else if s.keyAllowed then (s.openBlock p.column .openBlockPairs).mark .key r true
  else none

def valueMark (s : Scan) (p : Spot) (r : Rest) : Option Scan :=
  match s.candidate with
  | some k => some ((s.setKey k).emit .value |>.skipTo r)
  | none =>
    if s.inFlow then some { s.emit .value with rest := r, keyAllowed := false }
    else if s.keyAllowed then
      some { (s.openBlock p.column .openBlockPairs).emit .value with rest := r, keyAllowed := true }
    else none

/-- What has been closed at a directive or a document's mark. -/
def atDocument (s : Scan) : Option Scan := do
  let s ← s.closeAllBlocks.dropCandidate
  return { s with keyAllowed := false }

def documentMark (s : Scan) (t : Token) : Option Scan := do
  let s ← s.atDocument
  return (s.emit t).skipTo (s.rest.skip 3)

def directive (s : Scan) (r : Rest) : Option Scan := do
  let s ← s.atDocument
  let (t, r) ← directive? r
  return (s.emit t).skipTo r

/-- Characters that cannot begin a plain scalar wherever they stand. -/
def reserved : List Char := [
  '-', '?', ':', ',', '[', ']', '{', '}', '#', '&', '*', '!', '|', '>', '\'', '"', '%', '@', '\x60']

def mayBeginPlain (inFlow : Bool) (c : Char) (r : Rest) : Bool :=
  !(isBlank c || isBreak c || reserved.contains c)
    || (c == '-' && !r.starts isBlank)
    || (!inFlow && (c == '?' || c == ':') && !r.atGap)

/-- The token that begins with the next character. -/
def token (s : Scan) (p : Spot) (r : Rest) : Option Scan :=
  let c := p.char
  if c == '%' && p.column == 0 then s.directive r
  else if s.rest.atDocumentMark '-' then s.documentMark .documentStart
  else if s.rest.atDocumentMark '.' then s.documentMark .documentEnd
  else if c == '[' then s.openFlow p .openItems r
  else if c == '{' then s.openFlow p .openPairs r
  else if c == ']' then s.closeFlow .closeItems r
  else if c == '}' then s.closeFlow .closePairs r
  else if c == ',' then s.mark .comma r true
  else if c == '-' && r.atGap then s.itemMark p r
  else if c == '?' && (s.inFlow || r.atGap) then s.keyMark p r
  else if c == ':' && (s.inFlow || r.atGap) then s.valueMark p r
  else if c == '*' then s.word p ((anchorName? r).map fun (n, r) => (.alias n, r))
  else if c == '&' then s.word p ((anchorName? r).map fun (n, r) => (.anchor n, r))
  else if c == '!' then s.word p (tag? s.inFlow s.rest)
  else if c == '|' && !s.inFlow then s.block false r
  else if c == '>' && !s.inFlow then s.block true r
  else if c == '\'' || c == '"' then
    s.word p ((quotedFrom (c == '"') (.inside {}) [] r).map fun (t, r) => (.scalar .quoted t, r))
  else if mayBeginPlain s.inFlow c r then s.plain p
  else none

/-- The next token, or nothing more at the end of the text. -/
def next (s : Scan) : Option (Scan × Bool) := do
  let (keyAllowed, r) := skipGap s.inFlow false s.keyAllowed s.rest
  let s := { s with keyAllowed, rest := r }
  match r with
  | [] => return (← s.closeAllBlocks.dropCandidate, true)
  | p :: r =>
    let s ← s.dropStale p
    return (← (s.closeBlocks p.column).token p r, false)

/-- Tokens with those that were set in, from the last place to the first. -/
def settleFrom (place : Nat) (inserted : List (Nat × List Token)) :
    (tokens : List Token) → List Token → List Token
  | [], done => done
  | t :: ts, done =>
    let here := inserted.lookup place
    settleFrom (place - 1) inserted ts ((here.getD []) ++ t :: done)

def run : (bound : Nat) → Scan → Option (List Token)
  | 0, _ => none
  | bound + 1, s => do
    let (s, ended) ← s.next
    if ended then some (settleFrom (s.count - 1) s.inserted s.tokens [])
    else run bound s

end Scan

/-- The tokens of a text. Each takes at least one of its characters. -/
def Token.scan (text : String) : Option (List Token) := do
  let r ← Spot.lay? text
  Scan.run (r.length + 1) { rest := r }

end Guardrail.Yaml
