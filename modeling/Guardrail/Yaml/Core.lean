import Guardrail.Yaml.Document

/-! What scalars stand for under the core schema. Only plain ones are anything but text, and literal
blocks whose tag says so; every scalar is text where text is asked for. An empty plain scalar is an
empty collection where a collection is asked for. -/

namespace Guardrail.Yaml

/-- The tag of a type of the core schema. -/
def coreTag (name : String) : String := Grammar.coreLead ++ name

/-- Whether a scalar may be of a type other than text. -/
def mayBe (type : String) (tag : Option String) : Style → Bool
  | .plain => true
  | .literal => tag == some (coreTag type)
  | _ => false

def isNull (text : String) : Bool := ["null", "Null", "NULL", "~"].contains text

def flag? (text : String) : Option Bool :=
  if ["true", "True", "TRUE"].contains text then some true
  else if ["false", "False", "FALSE"].contains text then some false
  else none

/-- Whether more digits follow a zero, which makes a text of digits no number. -/
def hasLeadingZero (cs : List Char) : Bool :=
  match cs with
  | '0' :: d :: ds => (d :: ds).all Char.isDigit
  | _ => false

/-- A natural number below the limit, decimal or with the mark of another radix. -/
def number? (limit : Nat) (text : String) : Option Nat :=
  let cs := match text.toList with
    | '+' :: cs => cs
    | cs => cs
  match cs with
  | '0' :: 'x' :: ds => Text.digits? 16 limit ds
  | '0' :: 'o' :: ds => Text.digits? 8 limit ds
  | '0' :: 'b' :: ds => Text.digits? 2 limit ds
  | ds => if hasLeadingZero ds then none else Text.digits? 10 limit ds

namespace Document

variable (d : Document)

def flag (n : Node) : Option Bool := do
  match ← d.follow n with
  | .scalar tag style text => if mayBe "bool" tag style then flag? text else none
  | _ => none

def number (limit : Nat) (n : Node) : Option Nat := do
  match ← d.follow n with
  | .scalar tag style text => if mayBe "int" tag style then number? limit text else none
  | _ => none

def text (n : Node) : Option String := do
  match ← d.follow n with
  | .scalar _ _ text => some text
  | _ => none

/-- The node, or nothing if it stands for nothing. What is tagged so must also read so. -/
def content (n : Node) : Option (Option Node) := do
  match ← d.follow n with
  | .scalar none .plain text => some (if text.isEmpty || isNull text then none else some n)
  | .scalar (some tag) .plain text =>
    if tag == coreTag "null" then (if isNull text then some none else none) else some (some n)
  | _ => some (some n)

def items (n : Node) : Option (List Node) := do
  match ← d.follow n with
  | .sequence items => some items
  | .scalar _ .plain "" => some []
  | _ => none

/-- The entries of a mapping, whose keys must be text. -/
def entries (n : Node) : Option (List (String × Node)) := do
  match ← d.follow n with
  | .mapping entries => entries.mapM fun (k, v) => (d.text k).map (·, v)
  | .scalar _ .plain "" => some []
  | _ => none

end Document
end Guardrail.Yaml
