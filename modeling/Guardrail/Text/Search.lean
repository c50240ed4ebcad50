import Guardrail.Text.Case

/-! Search for one text in another, as it stands or with the case of both sides folded, and the
blank margins of a text. -/

namespace Guardrail.Text

/-- Whether `needle` is a contiguous part of the characters. -/
def occursIn (needle : List Char) : List Char → Bool
  | [] => needle.isEmpty
  | c :: cs => needle.isPrefixOf (c :: cs) || occursIn needle cs

theorem occursIn_iff {needle cs : List Char} : occursIn needle cs = true ↔ needle <:+: cs := by
  induction cs with
  | nil => simp [occursIn, List.isEmpty_iff]
  | cons c cs ih => simp [occursIn, ih, List.infix_cons_iff, List.isPrefixOf_iff_prefix]

def contains (text part : String) : Bool := occursIn part.toList text.toList

/-- Whether the lower-cased text contains the lower-cased term. -/
def mentions (text term : String) : Bool := contains (lower text) (lower term)

/-- The first term that is not empty and is mentioned, as it was given. -/
def firstMentioned (text : String) (terms : List String) : Option String :=
  terms.find? fun term => !term.isEmpty && mentions text term

def trim (s : String) : String :=
  String.ofList (((s.toList.dropWhile isBlank).reverse.dropWhile isBlank).reverse)

/-- What follows `lead` in the characters, if they begin with it. -/
def after? (lead cs : List Char) : Option (List Char) :=
  if lead.isPrefixOf cs then some (cs.drop lead.length) else none

/-- Values in increasing order without repetition, strings by their code points. -/
def sortedDistinct (items : List String) : List String :=
  (items.mergeSort (fun a b => a ≤ b)).eraseReps

end Guardrail.Text
