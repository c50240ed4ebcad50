import Guardrail.Double
import Guardrail.Double.Shortest

/-! JSON values and their compact text. Objects keep the order of their fields; `sorted` gives the
form that free-form values have, with the fields of every object in the order of their names. -/

namespace Guardrail

inductive Json where
  | null
  | bool (b : Bool)
  | integer (i : Int)
  | float (d : Double)
  | string (s : String)
  | array (items : List Json)
  | object (fields : List (String × Json))
  deriving Inhabited

namespace Json

/-- The last of several values for a key, at the place of the key in the order of keys. -/
def insertField (k : String) (v : α) : List (String × α) → List (String × α)
  | [] => [(k, v)]
  | (k', v') :: rest =>
    if k = k' then (k, v) :: rest
    else if k < k' then (k, v) :: (k', v') :: rest
    else (k', v') :: insertField k v rest

theorem eq_or_mem_of_mem_insertField {e : String × α} {fields : List (String × α)}
    (h : e ∈ insertField k v fields) : e = (k, v) ∨ e ∈ fields := by
  induction fields with
  | nil => exact .inl (List.mem_singleton.mp h)
  | cons first rest ih =>
    rw [insertField] at h
    split at h
    · exact (List.mem_cons.mp h).imp_right (List.mem_cons_of_mem _)
    · split at h
      · exact List.mem_cons.mp h
      · rcases List.mem_cons.mp h with he | h
        · exact .inr (he ▸ List.mem_cons_self ..)
        · exact (ih h).imp_right (List.mem_cons_of_mem _)

/-- The fields by key, the last value of each. -/
def sortFields (fields : List (String × α)) : List (String × α) :=
  fields.foldl (fun acc (k, v) => insertField k v acc) []

mutual

def sorted : Json → Json
  | array items => array (sortedItems items)
  | object fields => object (sortFields (sortedFields fields))
  | v => v

def sortedItems : List Json → List Json
  | [] => []
  | v :: rest => sorted v :: sortedItems rest

def sortedFields : List (String × Json) → List (String × Json)
  | [] => []
  | (k, v) :: rest => (k, sorted v) :: sortedFields rest

end

def field? (v : Json) (name : String) : Option Json :=
  match v with
  | object fields => fields.lookup name
  | _ => none

def hexDigit (n : Nat) : Char := "0123456789abcdef".toList.getD n '0'

/-- A character of a string's text: quotes, backslashes and control characters are escaped. -/
def escaped (c : Char) : List Char :=
  if c = '"' then ['\\', '"']
  else if c = '\\' then ['\\', '\\']
  else if c = '\n' then ['\\', 'n']
  else if c = '\r' then ['\\', 'r']
  else if c = '\t' then ['\\', 't']
  else if c = '\x08' then ['\\', 'b']
  else if c = '\x0c' then ['\\', 'f']
  else if c.toNat < 32 then ['\\', 'u', '0', '0', hexDigit (c.toNat / 16), hexDigit (c.toNat % 16)]
  else [c]

def quoted (s : String) : String :=
  "\"" ++ String.ofList (s.toList.flatMap escaped) ++ "\""

mutual

def compact : Json → String
  | null => "null"
  | bool b => if b then "true" else "false"
  | integer i => toString i
  | float d => d.render
  | string s => quoted s
  | array items => "[" ++ ",".intercalate (compactItems items) ++ "]"
  | object fields => "\x7b" ++ ",".intercalate (compactFields fields) ++ "\x7d"

def compactItems : List Json → List String
  | [] => []
  | v :: rest => compact v :: compactItems rest

def compactFields : List (String × Json) → List String
  | [] => []
  | (k, v) :: rest => (quoted k ++ ":" ++ compact v) :: compactFields rest

end

/-- A line break and two blanks for each level. -/
def newline (level : Nat) : String := "\n" ++ String.ofList (List.replicate (2 * level) ' ')

mutual

/-- The text with one item or field on each line; an empty array or object stays on its line. -/
def pretty (level : Nat) : Json → String
  | array [] => "[]"
  | array items =>
    "[" ++ ",".intercalate (prettyItems (level + 1) items) ++ newline level ++ "]"
  | object [] => "\x7b\x7d"
  | object fields =>
    "\x7b" ++ ",".intercalate (prettyFields (level + 1) fields) ++ newline level ++ "\x7d"
  | v => compact v

def prettyItems (level : Nat) : List Json → List String
  | [] => []
  | v :: rest => (newline level ++ pretty level v) :: prettyItems level rest

def prettyFields (level : Nat) : List (String × Json) → List String
  | [] => []
  | (k, v) :: rest =>
    (newline level ++ quoted k ++ ": " ++ pretty level v) :: prettyFields level rest

end

def strings (items : List String) : Json := array (items.map string)

def ofOption (f : α → Json) : Option α → Json
  | some a => f a
  | none => null

/-- The field unless its value is the one that stands for absence. -/
def fieldUnless (absent : Bool) (name : String) (v : Json) : List (String × Json) :=
  if absent then [] else [(name, v)]

/-- A map of names to texts, in the order of the names. -/
def stringMap (m : List (String × String)) : Json :=
  object ((sortFields m).map fun (k, v) => (k, string v))

end Json
end Guardrail
