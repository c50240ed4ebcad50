import Guardrail.Arithmetic
import Guardrail.Json.Tree

/-! Reading trees as typed values. A record is written as an object, in which unknown names are
ignored and a known name may stand once, or as the array of its fields in their order, from which
trailing fields may be missing. What is ignored is not read, so it may hold anything. Only an
optional place or a free-form one takes `null`. -/

namespace Guardrail.Json

/-- Reads the tree that stands inside the given number of brackets. -/
def Reader (α : Type) := Nat → Tree → Option α

namespace Reader

def bool : Reader Bool
  | _, .bool b => some b
  | _, _ => none

def string : Reader String
  | _, .string s => s
  | _, _ => none

/-- A natural number of at most 64 bits, or fewer. -/
def natBelow (limit : Nat) : Reader Nat
  | _, .numeral n =>
    match n.toInteger? with
    | some (.ofNat v) => if v < limit then some v else none
    | _ => none
  | _, _ => none

def word : Reader Nat := natBelow (twoTo 64)

/-- Integers are rounded to doubles. -/
def double : Reader Double
  | _, .numeral n =>
    match n.toInteger? with
    | some i => some (Double.ofInt i)
    | none => n.toDouble?
  | _, _ => none

def value : Reader Json := Tree.toJson?

def option (r : Reader α) : Reader (Option α)
  | _, .null => some none
  | d, t => (r d t).map some

def list (r : Reader α) : Reader (List α)
  | d, .array items => items.mapM (r (d + 1))
  | _, _ => none

/-- An object as a map in the order of its keys; the last of repeated keys counts. -/
def map (r : Reader α) : Reader (List (String × α))
  | d, .object fields =>
    (fields.mapM fun (f : Option String × Tree) => do
      let k ← f.1
      let v ← r (d + 1) f.2
      some (k, v)).map sortFields
  | _, _ => none

/-- One of several labels: a string, or an object with the label as its only key and `null`. -/
def label (labels : List (String × α)) : Reader α
  | _, .string (some s) => labels.lookup s
  | _, .object [(some s, .null)] => labels.lookup s
  | _, _ => none

end Reader

/-- The trees of a record's fields by name, and how deep they stand. -/
structure Record where
  depth : Nat
  fields : List (String × Tree)

namespace Record

/-- The known fields of an object: every key denotes, and no known one is repeated. -/
def known (names : List String) : List (Option String × Tree) → Option (List (String × Tree))
  | [] => some []
  | (k, t) :: rest => do
    let k ← k
    let fields ← known names rest
    if k ∈ names then
      if (fields.lookup k).isSome then none else some ((k, t) :: fields)
    else some fields

def ofTree? (names : List String) (depth : Nat) : Tree → Option Record
  | .object fields => (known names fields).map (⟨depth + 1, ·⟩)
  | .array items =>
    if items.length ≤ names.length then some ⟨depth + 1, names.zip items⟩ else none
  | _ => none

def required (r : Record) (name : String) (read : Reader α) : Option α :=
  (r.fields.lookup name).bind (read r.depth)

/-- A field with a value for its absence. -/
def optional (r : Record) (name : String) (absent : α) (read : Reader α) : Option α :=
  match r.fields.lookup name with
  | some t => read r.depth t
  | none => some absent

end Record

/-- The value that a text holds and nothing but it. -/
def Reader.ofText? (r : Reader α) (text : String) : Option α := (Tree.parse text).bind (r 0)

end Guardrail.Json
