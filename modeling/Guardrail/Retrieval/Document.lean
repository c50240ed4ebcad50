import Guardrail.Json.Record

/-! Retrieved documents and how restricted they are. A label that is not known, or none, stands for
the public level. -/

namespace Guardrail

inductive Sensitivity where
  | public_
  | internal
  | confidential
  | secret
  deriving DecidableEq

namespace Sensitivity

def ofLabel : String → Sensitivity
  | "internal" => internal
  | "confidential" => confidential
  | "secret" => secret
  | _ => public_

def label : Sensitivity → String
  | public_ => "public"
  | internal => "internal"
  | confidential => "confidential"
  | secret => "secret"

def rank : Sensitivity → Nat
  | public_ => 0
  | internal => 1
  | confidential => 2
  | secret => 3

theorem ofLabel_label (s : Sensitivity) : ofLabel s.label = s := by cases s <;> rfl

def reader : Json.Reader Sensitivity := fun depth t =>
  (Json.Reader.option .string depth t).map fun label => ofLabel (label.getD "")

end Sensitivity

structure Document where
  id : String
  namespace_ : String := ""
  content : String := ""
  score : Double := ⟨0⟩
  metadata : List (String × String) := []
  sensitivity : Sensitivity := .public_
  deriving DecidableEq

namespace Document

def fieldNames : List String := ["id", "namespace", "content", "score", "metadata", "sensitivity"]

def toJson (d : Document) : Json :=
  .object ([
    ("id", .string d.id),
    ("namespace", .string d.namespace_),
    ("content", .string d.content),
    ("score", .float d.score)]
    ++ Json.fieldUnless d.metadata.isEmpty "metadata" (.stringMap d.metadata)
    ++ [("sensitivity", .string d.sensitivity.label)])

def reader : Json.Reader Document := fun depth t => do
  let r ← Json.Record.ofTree? fieldNames depth t
  return {
    id := ← r.required "id" .string
    namespace_ := ← r.optional "namespace" "" .string
    content := ← r.optional "content" "" .string
    score := ← r.optional "score" ⟨0⟩ .double
    metadata := ← r.optional "metadata" [] (.map .string)
    sensitivity := ← r.optional "sensitivity" .public_ Sensitivity.reader }

end Document
end Guardrail
