import Guardrail.Arithmetic
import Guardrail.Json
import Guardrail.Json.Token

/-! What JSON text says, before any of it is read as a value: repeated keys, numerals as written and
strings that may not denote. The reader is a machine that takes one token at a time; its state holds
the brackets that are still open. A tree becomes a free-form value if its strings denote, its
numerals are in range and its nesting is not too deep. -/

namespace Guardrail.Json

inductive Tree where
  | null
  | bool (b : Bool)
  | numeral (n : Numeral)
  | string (s : Option String)
  | array (items : List Tree)
  | object (fields : List (Option String × Tree))
  deriving Inhabited

namespace Tree

/-- The brackets open around a place, innermost first, with what they hold so far, last first. -/
inductive Frame where
  | array (items : List Tree)
  | object (fields : List (Option String × Tree)) (key : Option String)

inductive State where
  /-- A value must follow. -/
  | value (open_ : List Frame)
  /-- An array has been opened. -/
  | firstItem (open_ : List Frame)
  /-- An object has been opened. -/
  | firstKey (open_ : List Frame)
  | key (fields : List (Option String × Tree)) (open_ : List Frame)
  | colon (fields : List (Option String × Tree)) (key : Option String) (open_ : List Frame)
  /-- A value is complete in its place. -/
  | complete (t : Tree) (open_ : List Frame)

def beginValue (t : Token) (stack : List Frame) : Option State :=
  match t with
  | .null => some (.complete .null stack)
  | .bool b => some (.complete (.bool b) stack)
  | .numeral n => some (.complete (.numeral n) stack)
  | .string s => some (.complete (.string s) stack)
  | .openArray => some (.firstItem stack)
  | .openObject => some (.firstKey stack)
  | _ => none

def step : State → Token → Option State
  | .value stack, t => beginValue t stack
  | .firstItem stack, .closeArray => some (.complete (.array []) stack)
  | .firstItem stack, t => beginValue t (.array [] :: stack)
  | .firstKey stack, .closeObject => some (.complete (.object []) stack)
  | .firstKey stack, .string k => some (.colon [] k stack)
  | .key fields stack, .string k => some (.colon fields k stack)
  | .colon fields k stack, .colon => some (.value (.object fields k :: stack))
  | .complete v (.array items :: stack), .comma => some (.value (.array (v :: items) :: stack))
  | .complete v (.array items :: stack), .closeArray =>
    some (.complete (.array (v :: items).reverse) stack)
  | .complete v (.object fields k :: stack), .comma => some (.key ((k, v) :: fields) stack)
  | .complete v (.object fields k :: stack), .closeObject =>
    some (.complete (.object ((k, v) :: fields).reverse) stack)
  | _, _ => none

def ofTokens? (ts : List Token) : Option Tree :=
  match ts.foldlM step (.value []) with
  | some (.complete t []) => some t
  | _ => none

def parse (text : String) : Option Tree := (Token.scanAll text).bind ofTokens?

end Tree

namespace Numeral

def wordLimit : Nat := twoTo 64

/-- The leading digits that fit into a word of 64 bits and the digits after them. -/
def takeWord (acc : Nat) : List Nat → Nat × List Nat
  | [] => (acc, [])
  | d :: ds => if acc * 10 + d < wordLimit then takeWord (acc * 10 + d) ds else (acc, d :: ds)

def valueOf (digits : List Nat) : Nat := digits.foldl (fun acc d => acc * 10 + d) 0

/-- A word times a power of ten: the word is rounded, then each factor; a number beyond the largest
is nothing. -/
def scalePower (negative : Bool) (word : Nat) (power : Int) : Option Double :=
  let f := Double.ofNat word
  let finish (d : Double) : Option Double :=
    if d.isFinite then some (if negative then d.neg else d) else none
  if f.isZero then finish f
  else if 308 < power then none
  else if 0 ≤ power then finish (f.mul (Double.ofNat (tenTo power.toNat)))
  else
    let huge := Double.ofNat (tenTo 308)
    let rec shrink (f : Double) (fuel : Nat) (power : Nat) : Double :=
      match fuel with
      | 0 => f.div (Double.ofNat (tenTo power))
      | fuel + 1 =>
        if power ≤ 308 then f.div (Double.ofNat (tenTo power))
        else if f.isZero then f
        else shrink (f.div huge) fuel (power - 308)
    finish (shrink f 4 (min (-power).toNat 1400))

/-- The double that a numeral with a point, an exponent or too many digits denotes. Digits that no
longer fit into a word of 64 bits are dropped, those before the point with their weight. -/
def toDouble? (n : Numeral) : Option Double :=
  let (word, dropped) := takeWord 0 n.whole
  let (word', rest) := takeWord word (n.fraction.getD [])
  let used := (n.fraction.getD []).length - rest.length
  let power : Int := dropped.length - used
  match n.exponent with
  | none => scalePower n.negative word' power
  | some (negative, digits) =>
    let e := valueOf digits
    if twoTo 31 ≤ e then
      if word' ≠ 0 && !negative then none
      else some (Double.signed n.negative 0)
    else scalePower n.negative word' (if negative then power - e else power + e)

/-- A numeral of digits alone that fits into a signed or unsigned word is an integer; minus zero is
not. -/
def toInteger? (n : Numeral) : Option Int :=
  if n.fraction.isSome || n.exponent.isSome then none
  else
    let v := valueOf n.whole
    if n.negative then if 0 < v && v ≤ twoTo 63 then some (-v) else none
    else if v < wordLimit then some v else none

/-- The value of a numeral; beyond the range of doubles there is none. -/
def toJson? (n : Numeral) : Option Json :=
  match n.toInteger? with
  | some i => some (.integer i)
  | none => n.toDouble?.map .float

end Numeral

namespace Tree

/-- How deep arrays and objects may nest in what is read. -/
def maxDepth : Nat := 127

mutual

/-- The free-form value at a place inside `depth` brackets: the last of repeated keys counts. -/
def toJson? (depth : Nat) : Tree → Option Json
  | null => some .null
  | bool b => some (.bool b)
  | numeral n => n.toJson?
  | string s => s.map .string
  | array items =>
    if depth < maxDepth then (itemsToJson? (depth + 1) items).map .array else none
  | object fields =>
    if depth < maxDepth then
      (fieldsToJson? (depth + 1) fields).map fun fs => .object (sortFields fs)
    else none

def itemsToJson? (depth : Nat) : List Tree → Option (List Json)
  | [] => some []
  | t :: ts => do
    let v ← toJson? depth t
    let vs ← itemsToJson? depth ts
    some (v :: vs)

def fieldsToJson? (depth : Nat) : List (Option String × Tree) → Option (List (String × Json))
  | [] => some []
  | (k, t) :: ts => do
    let k ← k
    let v ← toJson? depth t
    let vs ← fieldsToJson? depth ts
    some ((k, v) :: vs)

end

end Tree

/-- The free-form value of a text. -/
def parse (text : String) : Option Json := (Tree.parse text).bind (Tree.toJson? 0)

end Guardrail.Json
