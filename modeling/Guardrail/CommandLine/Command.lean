import Guardrail.Arithmetic
import Guardrail.CommandLine.Grammar
import Guardrail.Decision.Input
import Guardrail.Text.Number

/-! The commands of the program and what each of them takes. Two parameters belong to all levels;
what a command is given for one of them counts before what stands in front of the command. -/

namespace Guardrail.CommandLine

inductive Command where
  /-- Screen a prompt, with more keywords that block it. -/
  | checkPrompt (tenant prompt : String) (keywords : List String)
  /-- Filter an output, and again after a while in milliseconds if moderation is pending. -/
  | filterOutput (tenant output : String) (wait : Nat)
  /-- Run an agent over tools that do nothing. -/
  | plan (tenant prompt : String) (tools : List String) (maxIterations : Option Nat)
  /-- Ask the policy modules of a directory for a decision. -/
  | decide (tenant prompt : String) (mode : Decision.Mode) (directory : Option String)
      (simulation : Bool)
  /-- Filter the documents of a file for a viewer. -/
  | retrieve (tenant space query documents clearance : String)

structure Invocation where
  settings : Option String
  logJson : Bool
  command : Command

/-! ### Parameters -/

def checkPath (v : String) : Option UsageFault := if v.isEmpty then some .valueMissing else none

def number? (v : String) : Option Nat := Text.natural? (twoTo 64) v

def malformedUnless (ok : Bool) : Option UsageFault := if ok then none else some .valueMalformed

def checkNumber (v : String) : Option UsageFault := malformedUnless (number? v).isSome

def checkMode (v : String) : Option UsageFault := malformedUnless (Decision.Mode.ofLabel? v).isSome

def sharedParameters : List Parameter := [
  { name := "config", check := checkPath },
  { name := "log-json", arity := .flag }]

/-! ### Commands from what is given -/

def readCheckPrompt (g : Given) : Option Command := do
  return .checkPrompt (← g.value? "tenant") (← g.value? "prompt") (g.allOf "keyword")

def readFilterOutput (g : Given) : Option Command := do
  let wait ← number? ((g.value? "wait-ms").getD "0")
  return .filterOutput (← g.value? "tenant") (← g.value? "output") wait

def readPlan (g : Given) : Option Command := do
  let iterations := (g.value? "max-iterations").bind number?
  return .plan (← g.value? "tenant") (← g.value? "prompt") (g.allOf "tool") iterations

def readDecide (g : Given) : Option Command := do
  let tenant := (g.value? "tenant").getD "default"
  let mode ← Decision.Mode.ofLabel? ((g.value? "mode").getD "prompt_check")
  return .decide tenant (← g.value? "prompt") mode (g.value? "policy-dir") (g.has "simulation")

def readRetrieve (g : Given) : Option Command := do
  let space ← g.value? "namespace"
  let documents ← g.value? "docs"
  let clearance := (g.value? "clearance").getD "public"
  return .retrieve (← g.value? "tenant") space (← g.value? "query") documents clearance

/-- A command's parameters, those that must be given, and how it is made of them. -/
structure Form where
  name : String
  parameters : List Parameter
  required : List String
  make : Given → Option Command

def forms : List Form := [
  { name := "check-prompt"
    parameters := [
      { name := "tenant" }, { name := "prompt" }, { name := "keyword", arity := .many }]
    required := ["tenant", "prompt"]
    make := readCheckPrompt },
  { name := "filter-output"
    parameters := [
      { name := "tenant" }, { name := "output" }, { name := "wait-ms", check := checkNumber }]
    required := ["tenant", "output"]
    make := readFilterOutput },
  { name := "plan"
    parameters := [
      { name := "tenant" }, { name := "prompt" }, { name := "tool", arity := .many },
      { name := "max-iterations", check := checkNumber }]
    required := ["tenant", "prompt"]
    make := readPlan },
  { name := "decide"
    parameters := [
      { name := "tenant" }, { name := "prompt" }, { name := "mode", check := checkMode },
      { name := "policy-dir", check := checkPath }, { name := "simulation", arity := .flag }]
    required := ["prompt"]
    make := readDecide },
  { name := "retrieve"
    parameters := [
      { name := "tenant" }, { name := "namespace" }, { name := "query" },
      { name := "docs", check := checkPath }, { name := "clearance" }]
    required := ["tenant", "namespace", "query", "docs"]
    make := readRetrieve }]

def helpCommand : String := "help"

def commandNames : List String := forms.map (·.name) ++ [helpCommand]

def topLevel : Level where
  parameters := sharedParameters
  commands := commandNames
  hasVersion := true

namespace Form

/-- What the words after the command's name give. -/
def read (f : Form) (words : List String) : Except UsageFault Given := do
  let level : Level := { parameters := f.parameters ++ sharedParameters }
  let (g, _) ← level.scan false {} words
  let g ← g.resolve
  if f.required.all g.has then return g else throw .requiredMissing

end Form

/-- Help may be asked for one command. -/
def helpFault (words : List String) : UsageFault :=
  match words with
  | [] => .helpAsked
  | [name] => if commandNames.contains name then .helpAsked else .unknownCommand
  | _ => .unknownCommand

namespace Invocation

def ofWords (words : List String) : Except UsageFault Invocation := do
  let (above, found) ← topLevel.scan false {} words
  match found with
  | none =>
    let above ← above.resolve
    throw (if above.values.isEmpty then .nothingGiven else .commandMissing)
  | some (name, rest) =>
    match forms.find? (·.name == name) with
    | none => throw (helpFault rest)
    | some form =>
      let g ← form.read rest
      let above ← above.resolve
      match form.make g with
      | none => throw .valueMalformed
      | some command =>
        return {
          settings := (g.value? "config").or (above.value? "config")
          logJson := g.has "log-json" || above.has "log-json"
          command }

end Invocation
end Guardrail.CommandLine
