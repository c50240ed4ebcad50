import Guardrail.Rules.Token

/-! Modules of the rule language and their reader: a package, imports and rules. A rule has a name,
a value and a body of statements, all of which must hold. `if`, `in` and the other later keywords
are keywords only once a module imports them. -/

namespace Guardrail.Rules

inductive Operator where
  | eq
  | ne
  | lt
  | le
  | gt
  | ge
  | plus
  | minus
  | times
  deriving DecidableEq

mutual

inductive Expr where
  | literal (v : Value)
  | var (name : String)
  /-- The value at a key. -/
  | ref (base key : Expr)
  | array (items : List Expr)
  | set (items : List Expr)
  | object (fields : List (Expr × Expr))
  /-- The heads of all solutions of the body. -/
  | comprehension (head : Expr) (body : List Statement)
  | binary (op : Operator) (left right : Expr)
  | member (item collection : Expr)
  | call (function : List String) (arguments : List Expr)

inductive Statement where
  | holds (e : Expr)
  | fails (e : Expr)
  | assign (name : String) (e : Expr)
  /-- The names of a key, if there is one, and of a value run through a collection. -/
  | each (key : Option String) (name : String) (collection : Expr)

end

structure Rule where
  name : String
  isDefault : Bool
  value : Expr
  body : List Statement

structure Module where
  package : List String
  rules : List Rule
  /-- Short names of imported references. -/
  aliases : List (String × List String)

/-- The keywords that an import turns on. -/
structure Keywords where
  ifKeyword : Bool := false
  inKeyword : Bool := false
  /-- Whether a rule must have an assignment or `if`. -/
  strict : Bool := false

namespace Parse

/-- A parser takes tokens from the front. -/
abbrev Parser := StateT (List Token) Option

def reserved : List String := [
  "as", "default", "else", "false", "import", "null", "package", "not", "set", "some", "true",
  "with"]

def peek : Parser (Option Token) := do return (← get).head?

def peekLexeme : Parser (Option Lexeme) := do return (← peek).map Token.lexeme

def next : Parser Token := do
  match ← get with
  | t :: ts =>
    set ts
    return t
  | [] => failure

def atMark (s : String) : Parser Bool := do return (← peek).any (·.isMark s)

def atName (s : String) : Parser Bool := do return (← peek).any (·.isName s)

def mark (s : String) : Parser Unit := do
  let t ← next
  if t.isMark s then return else failure

def word (s : String) : Parser Unit := do
  let t ← next
  if t.isName s then return else failure

def acceptMark (s : String) : Parser Bool := do
  if ← atMark s then
    let _ ← next
    return true
  else return false

/-- A name that is no keyword. -/
def name (k : Keywords) : Parser String := do
  match (← next).lexeme with
  | .name s =>
    if reserved.contains s || (k.ifKeyword && s == "if") || (k.inKeyword && s == "in") then failure
    else return s
  | _ => failure

/-- A bracket or point that touches what it refers into. -/
def atAttached (s : String) : Parser Bool := do
  return (← peek).any fun t => t.isMark s && t.attached

/-- The names of a reference that consists of names alone. -/
def pathOf : Expr → Option (List String)
  | .var n => some [n]
  | .ref base (.literal (.string s)) => (pathOf base).map (· ++ [s])
  | _ => none

/-- The names that the statements of one body introduce. -/
def introduced : List Statement → List String
  | [] => []
  | .assign n _ :: rest => n :: introduced rest
  | .each k n _ :: rest => (k.toList ++ [n]) ++ introduced rest
  | _ :: rest => introduced rest

/-- No name but the blank one is introduced twice. -/
def wellScoped (body : List Statement) : Bool :=
  let names := (introduced body).filter (· != "_")
  names.eraseDups.length == names.length

/-- The operators of the two levels below membership, loosest first. -/
def comparisons : List (String × Operator) := [
  ("==", .eq), ("!=", .ne), ("<", .lt), ("<=", .le), (">", .gt), (">=", .ge)]

def sums : List (String × Operator) := [("+", .plus), ("-", .minus)]

def products : List (String × Operator) := [("*", .times)]

def operator? (table : List (String × Operator)) : Parser (Option Operator) := do
  match ← peekLexeme with
  | some (.mark s) =>
    match table.lookup s with
    | some op =>
      let _ ← next
      return some op
    | none => return none
  | _ => return none

/-- Statements are separated by semicolons or stand on lines of their own. -/
def separated (line : Nat) : Parser Unit := do
  if ← acceptMark ";" then return
  match ← peek with
  | some t => if t.line = line && !t.isMark "\x7d" && !t.isMark "]" then failure else return
  | none => return

/-- The line on which what has been read ends, given the tokens there were before. -/
def lastLine (before : List Token) : Parser Nat := do
  let after ← get
  match before[before.length - after.length - 1]? with
  | some t => return t.line
  | none => return 0

mutual

def expr (k : Keywords) : (fuel : Nat) → Parser Expr
  | 0 => failure
  | fuel + 1 => do
    let left ← chain k comparisons [sums, products] fuel
    memberOf k left fuel

/-- `in` and a collection, as often as they follow. -/
def memberOf (k : Keywords) (left : Expr) : (fuel : Nat) → Parser Expr
  | 0 => failure
  | fuel + 1 => do
    if k.inKeyword && (← atName "in") then
      let _ ← next
      let right ← chain k comparisons [sums, products] fuel
      memberOf k (.member left right) fuel
    else return left

/-- Operands of one level joined by its operators, from the left. -/
def chain (k : Keywords) (ops : List (String × Operator))
    (tighter : List (List (String × Operator))) : (fuel : Nat) → Parser Expr
  | 0 => failure
  | fuel + 1 => do
    let left ← operand k tighter fuel
    chainFrom k ops tighter left fuel

def operand (k : Keywords) (levels : List (List (String × Operator))) : (fuel : Nat) → Parser Expr
  | 0 => failure
  | fuel + 1 =>
    match levels with
    | ops :: tighter => chain k ops tighter fuel
    | [] => term k fuel

def chainFrom (k : Keywords) (ops : List (String × Operator))
    (tighter : List (List (String × Operator))) (left : Expr) : (fuel : Nat) → Parser Expr
  | 0 => failure
  | fuel + 1 => do
    match ← operator? ops with
    | some op =>
      let right ← operand k tighter fuel
      chainFrom k ops tighter (.binary op left right) fuel
    | none => return left

/-- A term and what refers into it. -/
def term (k : Keywords) : (fuel : Nat) → Parser Expr
  | 0 => failure
  | fuel + 1 => do
    let base ← primary k fuel
    refFrom k base fuel

def refFrom (k : Keywords) (base : Expr) : (fuel : Nat) → Parser Expr
  | 0 => failure
  | fuel + 1 => do
    if ← atAttached "." then
      let _ ← next
      let t ← next
      match t.lexeme with
      | .name s => if t.attached then refFrom k (.ref base (.literal (.string s))) fuel else failure
      | _ => failure
    else if ← atAttached "[" then
      let _ ← next
      let key ← expr k fuel
      mark "]"
      refFrom k (.ref base key) fuel
    else if ← atAttached "(" then
      let _ ← next
      let args ← items k ")" fuel
      match pathOf base with
      | some path => refFrom k (.call path args) fuel
      | none => failure
    else return base

/-- Expressions up to a closing mark, which is taken too. -/
def items (k : Keywords) (close : String) : (fuel : Nat) → Parser (List Expr)
  | 0 => failure
  | fuel + 1 => do
    if ← acceptMark close then return []
    let e ← expr k fuel
    if ← acceptMark "," then return e :: (← items k close fuel)
    mark close
    return [e]

def fields (k : Keywords) : (fuel : Nat) → Parser (List (Expr × Expr))
  | 0 => failure
  | fuel + 1 => do
    if ← acceptMark "\x7d" then return []
    let key ← expr k fuel
    mark ":"
    let value ← expr k fuel
    if ← acceptMark "," then return (key, value) :: (← fields k fuel)
    mark "\x7d"
    return [(key, value)]

def primary (k : Keywords) : (fuel : Nat) → Parser Expr
  | 0 => failure
  | fuel + 1 => do
    match ← peekLexeme with
    | some (.text s) =>
      let _ ← next
      return .literal (.string s)
    | some (.number n) =>
      let _ ← next
      return .literal (.number n)
    | some (.mark "-") =>
      let _ ← next
      match (← next).lexeme with
      | .number n => return .literal (.number { n with coefficient := -n.coefficient })
      | _ => failure
    | some (.mark "(") =>
      let _ ← next
      let e ← expr k fuel
      mark ")"
      return e
    | some (.mark "[") =>
      let _ ← next
      arrayRest k fuel
    | some (.mark "\x7b") =>
      let _ ← next
      braceRest k fuel
    | some (.name "true") =>
      let _ ← next
      return .literal (.bool true)
    | some (.name "false") =>
      let _ ← next
      return .literal (.bool false)
    | some (.name "null") =>
      let _ ← next
      return .literal .null
    | some (.name "set") =>
      let _ ← next
      mark "("
      mark ")"
      return .set []
    | some (.name _) => return .var (← name k)
    | _ => failure

/-- After an opening bracket: items or a comprehension. -/
def arrayRest (k : Keywords) : (fuel : Nat) → Parser Expr
  | 0 => failure
  | fuel + 1 => do
    if ← acceptMark "]" then return .array []
    let first ← expr k fuel
    if ← acceptMark "|" then
      let body ← statements k "]" fuel
      return .comprehension first body
    if ← acceptMark "," then return .array (first :: (← items k "]" fuel))
    mark "]"
    return .array [first]

/-- After an opening brace: the fields of an object or the members of a set. -/
def braceRest (k : Keywords) : (fuel : Nat) → Parser Expr
  | 0 => failure
  | fuel + 1 => do
    if ← acceptMark "\x7d" then return .object []
    let first ← expr k fuel
    if ← acceptMark ":" then
      let value ← expr k fuel
      if ← acceptMark "," then return .object ((first, value) :: (← fields k fuel))
      mark "\x7d"
      return .object [(first, value)]
    if ← acceptMark "," then return .set (first :: (← items k "\x7d" fuel))
    mark "\x7d"
    return .set [first]

/-- The statements of a body, at least one, up to the closing mark, which is taken too. -/
def statements (k : Keywords) (close : String) : (fuel : Nat) → Parser (List Statement)
  | 0 => failure
  | fuel + 1 => do
    let body ← statementsFrom k close fuel
    mark close
    if wellScoped body then return body else failure

def statementsFrom (k : Keywords) (close : String) : (fuel : Nat) → Parser (List Statement)
  | 0 => failure
  | fuel + 1 => do
    let before ← get
    let s ← statement k fuel
    separated (← lastLine before)
    if ← atMark close then return [s]
    return s :: (← statementsFrom k close fuel)

def statement (k : Keywords) : (fuel : Nat) → Parser Statement
  | 0 => failure
  | fuel + 1 => do
    if ← atName "not" then
      let _ ← next
      return .fails (← expr k fuel)
    else if ← atName "some" then
      let _ ← next
      let first ← name k
      let second ← if ← acceptMark "," then some <$> name k else pure none
      if !k.inKeyword then failure
      word "in"
      let collection ← expr k fuel
      match second with
      | some n => return .each (some first) n collection
      | none => return .each none first collection
    else
      let e ← expr k fuel
      if ← acceptMark ":=" then
        match e with
        | .var n => return .assign n (← expr k fuel)
        | _ => failure
      else return .holds e

end

/-- The statements of a query, up to the end. -/
def query (k : Keywords) : (fuel : Nat) → Parser (List Statement)
  | 0 => failure
  | fuel + 1 => do
    let before ← get
    let s ← statement k fuel
    separated (← lastLine before)
    if (← peek).isNone then return [s]
    return s :: (← query k fuel)

/-- Names joined by points. -/
def path : (fuel : Nat) → Parser (List String)
  | 0 => failure
  | fuel + 1 => do
    match (← next).lexeme with
    | .name s =>
      if ← atAttached "." then
        let _ ← next
        return s :: (← path fuel)
      return [s]
    | _ => failure

def withImport (k : Keywords) : List String → Keywords
  | ["rego", "v1"] => ⟨true, true, true⟩
  | ["future", "keywords"] => { k with ifKeyword := true, inKeyword := true }
  | ["future", "keywords", "if"] => { k with ifKeyword := true }
  | ["future", "keywords", "in"] => { k with inKeyword := true }
  | _ => k

/-- The imports, of which those of data and input give short names. -/
def imports (k : Keywords) : (fuel : Nat) → Parser (Keywords × List (String × List String))
  | 0 => failure
  | fuel + 1 => do
    if ← atName "import" then
      let _ ← next
      let p ← path fuel
      let alias_ ← if ← atName "as" then do
          let _ ← next
          some <$> name k
        else pure none
      let (k, aliases) ← imports (withImport k p) fuel
      match p with
      | "data" :: _ | "input" :: _ => return (k, (alias_.getD (p.getLast?.getD ""), p) :: aliases)
      | "rego" :: _ | "future" :: _ => return (k, aliases)
      | _ => failure
    else return (k, [])

/-- A body in braces, or a single statement. -/
def ruleBody (k : Keywords) (fuel : Nat) : Parser (List Statement) := do
  if ← acceptMark "\x7b" then statements k "\x7d" fuel
  else return [← statement k fuel]

def trueLiteral : Expr := .literal (.bool true)

/-- What follows a rule's head. -/
def ruleRest (k : Keywords) (name : String) (fuel : Nat) : Parser Rule := do
  let assigned ←
    if (← acceptMark ":=") || (← acceptMark "=") then some <$> expr k fuel else pure none
  let value := assigned.getD trueLiteral
  if k.ifKeyword && (← atName "if") then
    let _ ← next
    return ⟨name, false, value, ← ruleBody k fuel⟩
  else if !k.strict && (← atMark "\x7b") then
    return ⟨name, false, value, ← ruleBody k fuel⟩
  else if k.strict && assigned.isNone then failure
  else return ⟨name, false, value, []⟩

def rule (k : Keywords) (fuel : Nat) : Parser Rule := do
  if ← atName "default" then
    let _ ← next
    let n ← name k
    if (← acceptMark ":=") || (← acceptMark "=") then return ⟨n, true, ← expr k fuel, []⟩
    else failure
  else ruleRest k (← name k) fuel

def rules (k : Keywords) : (fuel : Nat) → Parser (List Rule)
  | 0 => failure
  | fuel + 1 => do
    if (← peek).isNone then return []
    let r ← rule k fuel
    return r :: (← rules k fuel)

def module_ (fuel : Nat) : Parser Module := do
  word "package"
  let package ← path fuel
  let (k, aliases) ← imports {} fuel
  return ⟨package, ← rules k fuel, aliases⟩

/-- Every level of an expression takes a few steps for each of its tokens. -/
def fuelFor (ts : List Token) : Nat := 16 * (ts.length + 2)

end Parse

def Module.parse (text : String) : Option Module := do
  let ts ← Token.scanAll text
  let (m, rest) ← (Parse.module_ (Parse.fuelFor ts)).run ts
  if rest.isEmpty then some m else none

/-- A query knows all keywords. -/
def parseQuery (text : String) : Option (List Statement) := do
  let ts ← Token.scanAll text
  let (q, rest) ← (Parse.query ⟨true, true, true⟩ (Parse.fuelFor ts)).run ts
  if rest.isEmpty then some q else none

end Guardrail.Rules
