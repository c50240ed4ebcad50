import Guardrail.Yaml.Token

/-! A YAML document as a tree. An alias stands for the node of an anchor, which may be the one that
the alias stands in, so it is followed only when it is looked at. An anchor gets the number of names
known before it; an alias has the number that its name has last got, and leads to the last node with
that number.

A text holds one document or none. What cannot be read anywhere in it makes it unreadable. -/

namespace Guardrail.Yaml

inductive Node where
  | alias (number : Nat)
  | scalar (tag : Option String) (style : Style) (text : String)
  | sequence (items : List Node)
  | mapping (entries : List (Node × Node))
  deriving Inhabited

/-- A place that is left empty. -/
def Node.empty : Node := .scalar none .plain ""

/-- An anchored node, the number of its anchor and how many there are before it. -/
structure Anchored where
  order : Nat
  number : Nat
  node : Node

structure Document where
  root : Node
  anchored : List Anchored := []

namespace Document

/-- The last node with the number of an anchor. -/
def target? (d : Document) (number : Nat) : Option Node :=
  let found := (d.anchored.filter (·.number == number)).foldl
    (fun best a =>
      match best with
      | some (b : Anchored) => if b.order < a.order then some a else some b
      | none => some a) none
  found.map (·.node)

/-- A node itself, or the one that it is an alias of. -/
def follow (d : Document) : Node → Option Node
  | .alias number => d.target? number
  | n => some n

end Document

/-! ### The grammar of tokens -/

/-- What is left of the tokens, and what is known of handles and anchors. -/
structure Reading where
  tokens : List Token
  handles : List (String × String)
  /-- The number of each name, the latest first. -/
  names : List (String × Nat) := []
  /-- Anchors so far. -/
  count : Nat := 0
  anchored : List Anchored := []

abbrev Grammar := StateT Reading Option

namespace Grammar

def peek : Grammar (Option Token) := do return (← get).tokens.head?

def skip : Grammar Unit := modify fun r => { r with tokens := r.tokens.drop 1 }

/-- Takes the next token if it is the given one. -/
def takes (t : Token) : Grammar Bool := do
  if (← peek) == some t then
    skip
    return true
  else return false

def expect (t : Token) : Grammar Unit := do
  if !(← takes t) then failure

def isNextOf (ts : List Token) : Grammar Bool := do return (← peek).any ts.contains

/-- What stands in front of a node. -/
structure Properties where
  anchor : Option String := none
  tag : Option String := none

/-- The tag of an exclamation mark alone, which says nothing of a scalar that is not left out. -/
def bareTag : String := "!"

def resolveTag (handle suffix : String) : Grammar String := do
  if handle.isEmpty then return suffix
  match (← get).handles.lookup handle with
  | some lead => return lead ++ suffix
  | none => failure

def anchor? : Grammar (Option String) := do
  match ← peek with
  | some (.anchor name) =>
    skip
    return some name
  | _ => return none

def tag? : Grammar (Option String) := do
  match ← peek with
  | some (.tag handle suffix) =>
    skip
    return some (← resolveTag handle suffix)
  | _ => return none

/-- An anchor and a tag, in either order. -/
def properties : Grammar Properties := do
  match ← anchor? with
  | some name => return { anchor := some name, tag := ← tag? }
  | none =>
    let tag ← tag?
    let anchor ← if tag.isSome then anchor? else pure none
    return { anchor, tag }

def aliasOf (name : String) : Grammar Node := do
  match (← get).names.lookup name with
  | some number => return .alias number
  | none => failure

/-- An anchor begins: its place among the anchors and its number. -/
def beginAnchor (name : String) : Grammar (Nat × Nat) := do
  let r ← get
  let number := r.names.length
  set { r with
    names := (name, number) :: r.names.filter (·.1 != name)
    count := r.count + 1 }
  return (r.count, number)

/-- The node of an anchor is complete. -/
def endAnchor (begun : Nat × Nat) (n : Node) : Grammar Unit :=
  modify fun r => { r with anchored := ⟨begun.1, begun.2, n⟩ :: r.anchored }

mutual

/-- A node. `block` lets it be a block collection, and `loose` a block of items without a
collection of their own. -/
def node (block loose : Bool) : (fuel : Nat) → Grammar Node
  | 0 => failure
  | fuel + 1 => do
    match ← peek with
    | some (.alias name) =>
      skip
      aliasOf name
    | _ =>
      let p ← properties
      let begun ← p.anchor.mapM beginAnchor
      let n ← content block loose p fuel
      begun.forM (endAnchor · n)
      return n

def content (block loose : Bool) (p : Properties) : (fuel : Nat) → Grammar Node
  | 0 => failure
  | fuel + 1 => do
    match ← peek with
    | some (.scalar style text) =>
      skip
      return .scalar (p.tag.filter (· != bareTag)) style text
    | some .openItems =>
      skip
      return .sequence (← flowItems true fuel)
    | some .openPairs =>
      skip
      return .mapping (← flowPairs true fuel)
    | t =>
      if loose && t == some .item then return .sequence (← looseItems fuel)
      else if block && t == some .openBlockItems then
        skip
        return .sequence (← blockItems fuel)
      else if block && t == some .openBlockPairs then
        skip
        return .mapping (← blockPairs fuel)
      else if p.anchor.isSome || p.tag.isSome then return .scalar p.tag .plain ""
      else failure

/-- A node, or nothing where one of the tokens follows. -/
def nodeUnless (ends : List Token) (block loose : Bool) : (fuel : Nat) → Grammar Node
  | 0 => failure
  | fuel + 1 => do
    if ← isNextOf ends then return .empty else node block loose fuel

def blockItems : (fuel : Nat) → Grammar (List Node)
  | 0 => failure
  | fuel + 1 => do
    if ← takes .item then
      let n ← nodeUnless [.item, .closeBlock] true false fuel
      return n :: (← blockItems fuel)
    else
      expect .closeBlock
      return []

def looseItems : (fuel : Nat) → Grammar (List Node)
  | 0 => failure
  | fuel + 1 => do
    if ← takes .item then
      let n ← nodeUnless [.item, .key, .value, .closeBlock] true false fuel
      return n :: (← looseItems fuel)
    else return []

def blockPairs : (fuel : Nat) → Grammar (List (Node × Node))
  | 0 => failure
  | fuel + 1 => do
    if ← takes .key then
      let k ← nodeUnless [.key, .value, .closeBlock] true true fuel
      let v ← if ← takes .value then nodeUnless [.key, .value, .closeBlock] true true fuel
        else pure .empty
      return (k, v) :: (← blockPairs fuel)
    else
      expect .closeBlock
      return []

def flowItems (first : Bool) : (fuel : Nat) → Grammar (List Node)
  | 0 => failure
  | fuel + 1 => do
    if ← takes .closeItems then return []
    else
      if !first then expect .comma
      if ← takes .closeItems then return []
      else if ← takes .key then
        let pair ← itemPair fuel
        return .mapping [pair] :: (← flowItems false fuel)
      else
        let n ← node false false fuel
        return n :: (← flowItems false fuel)

/-- A pair that is an item. If its key is left out, so must be what follows. -/
def itemPair : (fuel : Nat) → Grammar (Node × Node)
  | 0 => failure
  | fuel + 1 => do
    let k ← if ← isNextOf [.value, .comma, .closeItems] then do
        skip
        pure Node.empty
      else node false false fuel
    let v ← if ← takes .value then nodeUnless [.comma, .closeItems] false false fuel
      else pure .empty
    return (k, v)

def flowPairs (first : Bool) : (fuel : Nat) → Grammar (List (Node × Node))
  | 0 => failure
  | fuel + 1 => do
    if ← takes .closePairs then return []
    else
      if !first then expect .comma
      if ← takes .closePairs then return []
      else if ← takes .key then
        let k ← nodeUnless [.value, .comma, .closePairs] false false fuel
        let v ← if ← takes .value then nodeUnless [.comma, .closePairs] false false fuel
          else pure .empty
        return (k, v) :: (← flowPairs false fuel)
      else
        let k ← node false false fuel
        return (k, .empty) :: (← flowPairs false fuel)

end

/-! ### The text as a whole -/

/-- What the tags of the core schema begin with. -/
def coreLead : String := "tag:yaml.org,2002:"

def defaultHandles : List (String × String) := [("!", "!"), ("!!", coreLead)]

/-- The directives in front of a document: one version at most, and no handle twice. -/
def directives (hasVersion : Bool) (handles : List (String × String)) :
    List Token → Option (List (String × String) × List Token)
  | .version major minor :: ts =>
    if hasVersion || major != 1 || !(minor == 1 || minor == 2) then none
    else directives true handles ts
  | .tagHandle handle lead :: ts =>
    if (handles.lookup handle).isSome then none
    else directives hasVersion ((handle, lead) :: handles) ts
  | ts => some (handles ++ defaultHandles, ts)

/-- A document that a mark begins may be left empty. -/
def documentNode (marked : Bool) (fuel : Nat) : Grammar Node := do
  if marked && (← isNextOf [.documentStart, .documentEnd]) then return .empty
  else if marked && (← peek).isNone then return .empty
  else node true false fuel

end Grammar

namespace Document

/-- A text without any document is like an empty one. -/
def ofTokens? (all : List Token) : Option Document := do
  let (handles, ts) ← Grammar.directives false [] all
  if all.isEmpty then some ⟨.empty, []⟩
  else
    let marked := ts.head? == some .documentStart
    if !marked && ts.length != all.length then none
    else
      let ts := if marked then ts.drop 1 else ts
      let (root, r) ← Grammar.documentNode marked (4 * all.length + 4) { tokens := ts, handles }
      if r.tokens.all (· == .documentEnd) then some ⟨root, r.anchored⟩ else none

def ofText? (text : String) : Option Document := (Token.scan text).bind ofTokens?

end Document
end Guardrail.Yaml
