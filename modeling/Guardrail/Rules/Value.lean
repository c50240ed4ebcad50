import Guardrail.Json

/-! Values of the rule language: JSON with sets and with any value as a key. Numbers are exact
decimals. All values are ordered, kinds first; sets are kept in increasing order without repetition
and objects in the order of their keys. -/

namespace Guardrail.Rules

/-- The number `coefficient / 10 ^ scale`. -/
structure Number where
  coefficient : Int
  scale : Nat := 0

namespace Number

/-- Both coefficients at the larger scale. -/
def aligned (a b : Number) : Int × Int × Nat :=
  let scale := max a.scale b.scale
  (a.coefficient * tenTo (scale - a.scale), b.coefficient * tenTo (scale - b.scale), scale)

def compare (a b : Number) : Ordering :=
  let (x, y, _) := aligned a b
  Ord.compare x y

def add (a b : Number) : Number :=
  let (x, y, scale) := aligned a b
  ⟨x + y, scale⟩

def sub (a b : Number) : Number :=
  let (x, y, scale) := aligned a b
  ⟨x - y, scale⟩

def mul (a b : Number) : Number := ⟨a.coefficient * b.coefficient, a.scale + b.scale⟩

def toInt? (n : Number) : Option Int :=
  let d : Int := tenTo n.scale
  if n.coefficient % d = 0 then some (n.coefficient / d) else none

/-- An integer of a machine word is written as one, any other number as the nearest double. -/
def toJson (n : Number) : Json :=
  let nearest := Json.float
    (Double.ofRatio (n.coefficient < 0) n.coefficient.natAbs (tenTo n.scale))
  match n.toInt? with
  | some i => if -(twoTo 63 : Int) ≤ i && i < twoTo 64 then .integer i else nearest
  | none => nearest

/-- `digits * 10 ^ power`. -/
def ofDecimal (digits : Int) (power : Int) : Number :=
  if 0 ≤ power then ⟨digits * tenTo power.toNat, 0⟩ else ⟨digits, (-power).toNat⟩

def ofDouble (d : Double) : Number :=
  if d.isZero || !d.isFinite then ⟨0, 0⟩
  else
    let s := d.shortest
    ofDecimal (if d.negative then -(s.digits : Int) else s.digits) s.exponent

end Number

inductive Value where
  | null
  | bool (b : Bool)
  | number (n : Number)
  | string (s : String)
  | array (items : List Value)
  | set (items : List Value)
  | object (fields : List (Value × Value))
  deriving Inhabited

namespace Value

/-- The place of a kind in the order of values. -/
def rank : Value → Nat
  | null => 0
  | bool _ => 1
  | number _ => 2
  | string _ => 3
  | array _ => 4
  | set _ => 5
  | object _ => 6

mutual

def compare : Value → Value → Ordering
  | bool a, bool b => Ord.compare a b
  | number a, number b => a.compare b
  | string a, string b => Ord.compare a b
  | array a, array b => compareItems a b
  | set a, set b => compareItems a b
  | object a, object b => compareFields a b
  | a, b => Ord.compare a.rank b.rank

def compareItems : List Value → List Value → Ordering
  | [], [] => .eq
  | [], _ :: _ => .lt
  | _ :: _, [] => .gt
  | a :: as, b :: bs => (compare a b).then (compareItems as bs)

def compareFields : List (Value × Value) → List (Value × Value) → Ordering
  | [], [] => .eq
  | [], _ :: _ => .lt
  | _ :: _, [] => .gt
  | (k, v) :: as, (l, w) :: bs => ((compare k l).then (compare v w)).then (compareFields as bs)

end

instance : BEq Value := ⟨fun a b => compare a b == .eq⟩

def insertItem (v : Value) : List Value → List Value
  | [] => [v]
  | w :: ws =>
    match compare v w with
    | .lt => v :: w :: ws
    | .eq => w :: ws
    | .gt => w :: insertItem v ws

def ofItems (items : List Value) : Value := set (items.foldl (fun s v => insertItem v s) [])

/-- The later of two values for a key counts. -/
def insertField (k v : Value) : List (Value × Value) → List (Value × Value)
  | [] => [(k, v)]
  | (l, w) :: rest =>
    match compare k l with
    | .lt => (k, v) :: (l, w) :: rest
    | .eq => (k, v) :: rest
    | .gt => (l, w) :: insertField k v rest

def ofFields (fields : List (Value × Value)) : Value :=
  object (fields.foldl (fun o (k, v) => insertField k v o) [])

/-- The value at a key: an element by its index, a field, or a member of a set. -/
def at? : Value → Value → Option Value
  | array items, number n =>
    match n.toInt? with
    | some (.ofNat i) => items[i]?
    | _ => none
  | object fields, k => fields.lookup k
  | set items, v => if items.contains v then some v else none
  | _, _ => none

/-- Whether a collection holds the value; nothing else holds any. -/
def holds : Value → Value → Bool
  | array items, v => items.contains v
  | set items, v => items.contains v
  | object fields, v => fields.any (·.2 == v)
  | _, _ => false

/-- Keys and values of a collection; the key of a set's member is the member. -/
def entries : Value → List (Value × Value)
  | array items => items.mapIdx fun (i : Nat) v => (number ⟨i, 0⟩, v)
  | set items => items.map fun v => (v, v)
  | object fields => fields
  | _ => []

/-- A condition holds unless its value is false. -/
def truthy : Value → Bool
  | bool b => b
  | _ => true

mutual

def ofJson : Json → Value
  | .null => null
  | .bool b => bool b
  | .integer i => number ⟨i, 0⟩
  | .float d => number (.ofDouble d)
  | .string s => string s
  | .array items => array (ofJsonItems items)
  | .object fields => ofFields (ofJsonFields fields)

def ofJsonItems : List Json → List Value
  | [] => []
  | v :: rest => ofJson v :: ofJsonItems rest

def ofJsonFields : List (String × Json) → List (Value × Value)
  | [] => []
  | (k, v) :: rest => (string k, ofJson v) :: ofJsonFields rest

end

/-- The name of a field: the text itself, or the JSON text of another value. -/
def fieldName (key : Json) : String :=
  match key with
  | .string s => s
  | v => v.compact

mutual

/-- Sets become arrays in the order of their members. -/
def toJson : Value → Json
  | null => .null
  | bool b => .bool b
  | number n => n.toJson
  | string s => .string s
  | array items => .array (toJsonItems items)
  | set items => .array (toJsonItems items)
  | object fields => .object (Json.sortFields (toJsonFields fields))

def toJsonItems : List Value → List Json
  | [] => []
  | v :: rest => toJson v :: toJsonItems rest

def toJsonFields : List (Value × Value) → List (String × Json)
  | [] => []
  | (k, v) :: rest => (fieldName (toJson k), toJson v) :: toJsonFields rest

end

end Value
end Guardrail.Rules
