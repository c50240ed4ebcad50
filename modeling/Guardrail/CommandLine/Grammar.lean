/-! The words of a command line. Parameters are given by long names, their values behind an equals
sign or as the next word. A value is looked at only when the next parameter begins or the words end,
so what is wrong with a later name is told before what is wrong with an earlier value. -/

namespace Guardrail.CommandLine

/-- Why a command line is not carried out. -/
inductive UsageFault where
  | helpAsked
  | versionAsked
  | nothingGiven
  | commandMissing
  | unknownCommand
  | unknownArgument
  | requiredMissing
  | valueMissing
  | valueMalformed
  | valueUnwanted
  | givenTwice
  deriving DecidableEq

namespace UsageFault

/-- Asking for a text about the program is no failure. -/
def isQuestion : UsageFault → Bool
  | helpAsked | versionAsked => true
  | _ => false

def message : UsageFault → String
  | helpAsked => "help was asked for"
  | versionAsked => "the version was asked for"
  | nothingGiven => "nothing was given"
  | commandMissing => "a command is missing"
  | unknownCommand => "there is no such command"
  | unknownArgument => "there is no such argument"
  | requiredMissing => "a required argument is missing"
  | valueMissing => "a value is missing"
  | valueMalformed => "a value is malformed"
  | valueUnwanted => "an argument takes no value"
  | givenTwice => "an argument is given twice"

end UsageFault

inductive Arity where
  /-- Takes no value. -/
  | flag
  | once
  | many
  deriving DecidableEq

structure Parameter where
  name : String
  arity : Arity := .once
  /-- What is wrong with a value. -/
  check : String → Option UsageFault := fun _ => none

/-- What a level of the command line knows: its parameters and the commands below it. -/
structure Level where
  parameters : List Parameter
  commands : List String := []
  hasVersion : Bool := false

/-- Values by name in the order in which they were looked at, and the parameter that has not been
looked at yet, with its value if there is one. -/
structure Given where
  values : List (String × String) := []
  pending : Option (Parameter × Option String) := none

namespace Given

def accept (g : Given) (p : Parameter) (value : String) : Except UsageFault Given :=
  if p.arity ≠ .many && g.values.any (·.1 == p.name) then .error .givenTwice
  else match p.check value with
    | some f => .error f
    | none => .ok { g with values := g.values ++ [(p.name, value)] }

/-- Looks at the parameter that has not been looked at yet. -/
def resolve (g : Given) : Except UsageFault Given :=
  match g.pending with
  | none => .ok g
  | some (_, none) => .error .valueMissing
  | some (p, some v) => { g with pending := none }.accept p v

/-- Whether the next word is a value. -/
def awaitsValue (g : Given) : Bool := g.pending.any (·.2.isNone)

def setValue (g : Given) (v : String) : Given :=
  { g with pending := g.pending.map fun (p, _) => (p, some v) }

def value? (g : Given) (name : String) : Option String := g.values.lookup name

def allOf (g : Given) (name : String) : List String :=
  (g.values.filter (·.1 == name)).map (·.2)

def has (g : Given) (name : String) : Bool := (g.value? name).isSome

end Given

inductive Word where
  /-- Two dashes alone, after which nothing is a name. -/
  | divider
  | long (name : String) (value : Option String)
  | short (letters : List Char)
  | plain (text : String)

/-- A dash alone is a plain word. -/
def Word.ofText (text : String) : Word :=
  match text.toList with
  | ['-', '-'] => divider
  | '-' :: '-' :: cs =>
    let name := String.ofList (cs.takeWhile (· != '='))
    match cs.dropWhile (· != '=') with
    | _ :: value => long name (some (String.ofList value))
    | [] => long name none
  | '-' :: c :: cs => short (c :: cs)
  | _ => plain text

namespace Level

/-- A name that asks for a text about the program. -/
def question? (l : Level) (long : String) : Option UsageFault :=
  if long == "help" then some .helpAsked
  else if long == "version" && l.hasVersion then some .versionAsked
  else none

def shortQuestion? (l : Level) (c : Char) : Option UsageFault :=
  if c == 'h' then some .helpAsked
  else if c == 'V' && l.hasVersion then some .versionAsked
  else none

def readLong (l : Level) (g : Given) (name : String) (value : Option String) :
    Except UsageFault Given :=
  match l.question? name, l.parameters.find? (·.name == name), value with
  | some _, _, some _ => .error .valueUnwanted
  | some f, _, none => g.resolve.bind fun _ => .error f
  | none, none, _ => .error .unknownArgument
  | none, some p, some v =>
    if p.arity = .flag then .error .valueUnwanted else g.resolve.bind fun g => g.accept p v
  | none, some p, none =>
    g.resolve.bind fun g =>
      if p.arity = .flag then g.accept p "" else .ok { g with pending := some (p, none) }

/-- Every known letter ends the reading, so only the first one counts. -/
def readShort (l : Level) (g : Given) (letters : List Char) : Except UsageFault Given :=
  match letters.head?.bind l.shortQuestion? with
  | some f => g.resolve.bind fun _ => .error f
  | none => .error .unknownArgument

/-- A word that is no name, no value and no command. -/
def strayFault (l : Level) (divided : Bool) (word : String) : UsageFault :=
  if l.commands.isEmpty || (divided && l.commands.contains word) then .unknownArgument
  else .unknownCommand

/-- The words up to the first command, and the words after it. -/
def scan (l : Level) (divided : Bool) (g : Given) :
    List String → Except UsageFault (Given × Option (String × List String))
  | [] => .ok (g, none)
  | w :: rest =>
    if divided then .error (l.strayFault true w)
    else if !g.awaitsValue && l.commands.contains w then .ok (g, some (w, rest))
    else match Word.ofText w with
      | .divider => l.scan true g rest
      | .long name value => (l.readLong g name value).bind fun g => l.scan false g rest
      | .short letters => (l.readShort g letters).bind fun g => l.scan false g rest
      | .plain text =>
        if g.awaitsValue then l.scan false (g.setValue text) rest
        else .error (l.strayFault false text)

end Level
end Guardrail.CommandLine
