import Guardrail.Arithmetic
import Guardrail.Rules.Module
import Guardrail.Text.Search

/-! Evaluation of modules and queries. An expression has a value or none: what refers to something
that is not there has none, and so has whatever is computed from it. A body has as many solutions as
there are ways to choose from its collections. All solutions of a rule must agree on its value; a
rule without one takes its default. Rules may not depend on themselves, which bounds the depth of an
evaluation by the length of the texts. -/

namespace Guardrail.Rules

inductive Fault where
  | malformed
  | unknownName (name : String)
  | unknownFunction (name : String)
  | wrongArguments (function : String)
  | wrongOperands
  | conflict (rule : String)
  | recursion (rule : String)
  | tooDeep
  deriving DecidableEq

/-- Evaluation counts the numbers that it counts out, which is what takes it time. -/
abbrev Eval := StateT Nat (Except Fault)

structure Program where
  modules : List Module
  input : Value

/-- Where an expression stands: its package and short names, the values of local names, and the
rules that wait for it. -/
structure Scope where
  package : List String := []
  aliases : List (String × List String) := []
  locals : List (String × Value) := []
  waiting : List (List String × String) := []

namespace Program

/-- The rules of a package with a name, each with its module. -/
def rulesOf (p : Program) (package : List String) (name : String) : List (Module × Rule) :=
  (p.modules.filter (·.package == package)).flatMap fun m =>
    (m.rules.filter (·.name == name)).map fun r => (m, r)

def hasRule (p : Program) (package : List String) (name : String) : Bool :=
  !(p.rulesOf package name).isEmpty

/-- The names of a package's rules in the order of their first appearance. -/
def ruleNames (p : Program) (package : List String) : List String :=
  ((p.modules.filter (·.package == package)).flatMap fun m => m.rules.map (·.name)).eraseDups

/-- Packages that have rules. -/
def packages (p : Program) : List (List String) :=
  ((p.modules.filter (!·.rules.isEmpty)).map (·.package)).eraseDups

/-- The names of the packages right below a path. -/
def below (p : Program) (path : List String) : List String :=
  (p.packages.filterMap fun q =>
    if path.isPrefixOf q then (q.drop path.length).head? else none).eraseDups

end Program

namespace Eval

/-- The base of a reference and its keys, outermost last. -/
def unfold : Expr → Expr × List Expr
  | .ref base key =>
    let (e, keys) := unfold base
    (e, keys ++ [key])
  | e => (e, [])

def follow : Option Value → List Value → Option Value
  | v, [] => v
  | some v, k :: ks => follow (v.at? k) ks
  | none, _ :: _ => none

/-- All of the values, if every one is there. -/
def allThere : List (Option Value) → Option (List Value)
  | [] => some []
  | v :: vs => do return (← v) :: (← allThere vs)

/-- Whole numbers from one to the other, both included, in either direction. -/
def rangeOf (a b : Int) : List Value :=
  (List.range ((b - a).natAbs + 1)).map fun (i : Nat) =>
    .number ⟨if a ≤ b then a + i else a - i, 0⟩

def lengthOf? : Value → Option Nat
  | .string s => some s.length
  | .array items => some items.length
  | .set items => some items.length
  | .object fields => some fields.length
  | _ => none

def functionName (path : List String) : String := ".".intercalate path

def functions : List String := [
  "contains", "startswith", "endswith", "lower", "upper", "count", "numbers.range"]

def apply (function : String) (args : List Value) : Eval Value := do
  match function, args with
  | "contains", [.string s, .string t] => return .bool (Text.contains s t)
  | "startswith", [.string s, .string t] => return .bool (t.toList.isPrefixOf s.toList)
  | "endswith", [.string s, .string t] => return .bool (t.toList.isSuffixOf s.toList)
  | "lower", [.string s] => return .string (Text.lower s)
  | "upper", [.string s] => return .string (Text.upper s)
  | "count", [v] =>
    match lengthOf? v with
    | some n => return .number ⟨n, 0⟩
    | none => throw (.wrongArguments function)
  | "numbers.range", [.number a, .number b] =>
    match a.toInt?, b.toInt? with
    | some a, some b =>
      modify (· + (b - a).natAbs + 1)
      return .array (rangeOf a b)
    | _, _ => throw (.wrongArguments function)
  | _, _ => throw (.wrongArguments function)

def compute (op : Operator) (a b : Value) : Except Fault Value :=
  match op with
  | .eq => .ok (.bool (a.compare b == .eq))
  | .ne => .ok (.bool (a.compare b != .eq))
  | .lt => .ok (.bool (a.compare b == .lt))
  | .le => .ok (.bool (a.compare b != .gt))
  | .gt => .ok (.bool (a.compare b == .gt))
  | .ge => .ok (.bool (a.compare b != .lt))
  | .plus | .minus | .times =>
    match a, b with
    | .number x, .number y =>
      .ok (.number (match op with
        | .plus => x.add y
        | .minus => x.sub y
        | _ => x.mul y))
    | _, _ => .error .wrongOperands

mutual

def expr (p : Program) (s : Scope) : (fuel : Nat) → Expr → Eval (Option Value)
  | 0, _ => throw .tooDeep
  | fuel + 1, e =>
    match e with
    | .literal v => return some v
    | .var n => root p s fuel n []
    | .ref base key => do
      let (base, keys) := unfold (.ref base key)
      let some keys := allThere (← keys.mapM (expr p s fuel)) | return none
      match base with
      | .var n => root p s fuel n keys
      | _ => return follow (← expr p s fuel base) keys
    | .array items => do
      return (allThere (← items.mapM (expr p s fuel))).map .array
    | .set items => do
      return (allThere (← items.mapM (expr p s fuel))).map .ofItems
    | .object fields => do
      let some keys := allThere (← fields.mapM fun f => expr p s fuel f.1) | return none
      let some values := allThere (← fields.mapM fun f => expr p s fuel f.2) | return none
      return some (.ofFields (keys.zip values))
    | .comprehension head body => do
      let solutions ← statements p s fuel body
      let heads ← solutions.mapM fun locals => expr p { s with locals } fuel head
      return some (.array (heads.filterMap id))
    | .binary op left right => do
      let some a ← expr p s fuel left | return none
      let some b ← expr p s fuel right | return none
      return some (← compute op a b)
    | .member item collection => do
      let item ← expr p s fuel item
      let collection ← expr p s fuel collection
      match item, collection with
      | some v, some c => return some (.bool (c.holds v))
      | _, _ => return some (.bool false)
    | .call function args => do
      let name := functionName function
      if !functions.contains name then throw (.unknownFunction name)
      let some args := allThere (← args.mapM (expr p s fuel)) | return none
      return some (← apply name args)

/-- The value that a name stands for, and the value at the keys in it. -/
def root (p : Program) (s : Scope) : (fuel : Nat) → String → List Value → Eval (Option Value)
  | 0, _, _ => throw .tooDeep
  | fuel + 1, name, keys => do
    match s.locals.lookup name with
    | some v => return follow (some v) keys
    | none =>
      if name == "input" then return follow (some p.input) keys
      else if name == "data" then document p s fuel [] keys
      else if p.hasRule s.package name then
        return follow (← rule p s fuel s.package name) keys
      else match s.aliases.lookup name with
        | some (first :: path) =>
          root p { s with locals := [], aliases := [] } fuel first (path.map .string ++ keys)
        | _ => throw (.unknownName name)

/-- The value at the keys below a path of package names. -/
def document (p : Program) (s : Scope) :
    (fuel : Nat) → List String → List Value → Eval (Option Value)
  | 0, _, _ => throw .tooDeep
  | fuel + 1, path, keys => do
    match keys with
    | [] => subtree p s fuel path
    | .string k :: rest =>
      if p.hasRule path k then return follow (← rule p s fuel path k) rest
      else document p s fuel (path ++ [k]) rest
    | _ :: _ => return none

/-- The object of all rules and packages at a path. -/
def subtree (p : Program) (s : Scope) : (fuel : Nat) → List String → Eval (Option Value)
  | 0, _ => throw .tooDeep
  | fuel + 1, path => do
    let children := p.below path
    let ruleNames := p.ruleNames path
    if children.isEmpty && ruleNames.isEmpty && !path.isEmpty then return none
    let inner ← children.mapM fun k => do return (k, ← subtree p s fuel (path ++ [k]))
    let own ← ruleNames.mapM fun k => do return (k, ← rule p s fuel path k)
    return some (.ofFields ((inner ++ own).filterMap fun f => f.2.map (.string f.1, ·)))

/-- The value of the rules of one name. -/
def rule (p : Program) (s : Scope) : (fuel : Nat) → List String → String → Eval (Option Value)
  | 0, _, _ => throw .tooDeep
  | fuel + 1, package, name => do
    if s.waiting.contains (package, name) then throw (.recursion name)
    let waiting := (package, name) :: s.waiting
    let valuesOf (r : Module × Rule) : Eval (List (Option Value)) := do
      let inner : Scope := { package, aliases := r.1.aliases, waiting }
      let solutions ← statements p inner fuel r.2.body
      solutions.mapM fun locals => expr p { inner with locals } fuel r.2.value
    let (defaults, proper) := (p.rulesOf package name).partition (·.2.isDefault)
    if 1 < defaults.length then throw (.conflict name)
    match Value.ofItems ((← proper.mapM valuesOf).flatten.filterMap id) with
    | .set [v] => return some v
    | .set [] =>
      return ((← defaults.mapM valuesOf).flatten.filterMap id).head?
    | _ => throw (.conflict name)

/-- The local names of every solution of a body. -/
def statements (p : Program) (s : Scope) :
    (fuel : Nat) → List Statement → Eval (List (List (String × Value)))
  | 0, _ => throw .tooDeep
  | _ + 1, [] => return [s.locals]
  | fuel + 1, st :: rest => do
    match st with
    | .holds e =>
      let v ← expr p s fuel e
      if v.any (·.truthy) then statements p s fuel rest else return []
    | .fails e =>
      let v ← expr p s fuel e
      if v.any (·.truthy) then return [] else statements p s fuel rest
    | .assign n e =>
      match ← expr p s fuel e with
      | some v => statements p { s with locals := (n, v) :: s.locals } fuel rest
      | none => return []
    | .each k n e =>
      let v ← expr p s fuel e
      let solutions ← ((v.map Value.entries).getD []).mapM fun (key, item) =>
        let bound := (n, item) :: (k.toList.map fun k => (k, key)) ++ s.locals
        statements p { s with locals := bound } fuel rest
      return solutions.flatten

end

/-- Every rule is evaluated, for a fault in any of them is a fault of the whole. -/
def allRules (p : Program) (fuel : Nat) : Eval Unit :=
  p.packages.forM fun package =>
    (p.ruleNames package).forM fun name => do
      let _ ← rule p {} fuel package name

/-- The value of a query is that of its first statement, if the others hold. -/
def query (p : Program) (fuel : Nat) : List Statement → Eval (Option Value)
  | .holds e :: rest => do
    let v ← expr p {} fuel e
    if (← statements p {} fuel rest).isEmpty then return none else return v
  | body => do
    if (← statements p {} fuel body).isEmpty then return none else return some (.bool true)

end Eval

/-- The value of a query over modules by name, with the count that it took. -/
def evaluate (modules : List (String × String)) (query : String) (input : Json) :
    Except Fault (Option Json × Nat) := do
  let some parsed := modules.mapM fun m => Module.parse m.2 | throw .malformed
  let some statements := parseQuery query | throw .malformed
  let p : Program := ⟨parsed, .ofJson input⟩
  let length := total (modules.map (·.2.length)) + query.length
  let fuel := 8 * (length + 8)
  let run : Eval (Option Value) := do
    Eval.allRules p fuel
    Eval.query p fuel statements
  let (v, count) ← run.run 0
  return (v.map (·.toJson), count)

end Guardrail.Rules
