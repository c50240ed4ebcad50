import Guardrail.Proofs.Json.Records
import Guardrail.Proofs.Settings.Rereading

/-! # Texts that are read again

Whatever is read from a text is written in texts that are read as the same value, and so written in
the same texts once more: whatever was left out, misspelt or out of order in the first text. -/

namespace Guardrail

/-- The text, on one line or on many, of the value with the fields of its objects in some order. -/
def Json.WrittenAs (v : Json) (text : String) : Prop :=
  ∃ w, v.Reordered w ∧ (text = w.compact ∨ text = w.pretty 0)

/-- A value that has been read, and whose doubles are read back, is read again from each of its
texts and has the same texts then. -/
def RoundTrips (read : String → Option α) (write : α → Json) : Prop :=
  ∀ text a, read text = some a → (write a).Exact → ∀ text', (write a).WrittenAs text' →
    ∃ a', read text' = some a' ∧ a' = a ∧ (write a').WrittenAs text'

open Json (Lossless)

theorem Json.WrittenAs.exists_tree {v : Json} {text : String} (h : v.WrittenAs text) :
    ∃ w, v.Reordered w ∧ Tree.parse text = some w.tree := by
  obtain ⟨w, hw, rfl | rfl⟩ := h
  · exact ⟨w, hw, parse_compact w⟩
  · exact ⟨w, hw, parse_pretty 0 w⟩

theorem roundTrips_of_lossless {α : Type} {r : Json.Reader α} {write : α → Json}
    (h : Lossless r write) : RoundTrips r.ofText? write := by
  intro text a hread hexact text' htext
  obtain ⟨t, -, ht⟩ := Option.bind_eq_some_iff.mp hread
  obtain ⟨w, hw, htree⟩ := htext.exists_tree
  refine ⟨a, ?_, rfl, htext⟩
  rw [Json.Reader.ofText?, htree, Option.bind_some, h 0 t a ht hexact w hw]

/-- **What is read is read again.** Every record and every label that a text was read as comes back
from each text that is written for it. -/
theorem readers_roundTrip :
    RoundTrips Verdict.reader.ofText? Verdict.toJson ∧
    RoundTrips LeakReport.reader.ofText? LeakReport.toJson ∧
    RoundTrips Document.reader.ofText? Document.toJson ∧
    RoundTrips Sensitivity.reader.ofText? (fun s => .string s.label) ∧
    RoundTrips OutputMode.reader.ofText? (fun m => .string m.label) ∧
    RoundTrips Decision.Mode.reader.ofText? (fun m => .string m.label) ∧
    RoundTrips Decision.Input.reader.ofText? Decision.Input.toJson ∧
    RoundTrips TenantPolicy.reader.ofText? TenantPolicy.toJson ∧
    RoundTrips Agent.PlanRequest.reader.ofText? Agent.PlanRequest.toJson ∧
    RoundTrips Agent.PlanReport.reader.ofText? Agent.PlanReport.toJson ∧
    RoundTrips Agent.Step.reader.ofText? Agent.Step.toJson ∧
    RoundTrips Agent.ToolDescription.reader.ofText? Agent.ToolDescription.toJson ∧
    RoundTrips Settings.ofJsonText? Settings.toJson := by
  refine ⟨roundTrips_of_lossless Verdict.lossless, roundTrips_of_lossless LeakReport.lossless,
    roundTrips_of_lossless Document.lossless,
    roundTrips_of_lossless fun depth _ s _ => Sensitivity.rereads depth s,
    roundTrips_of_lossless fun depth _ m _ => OutputMode.rereads depth m,
    roundTrips_of_lossless fun depth _ m _ => Decision.Mode.rereads depth m,
    roundTrips_of_lossless Decision.Input.lossless, roundTrips_of_lossless TenantPolicy.lossless,
    roundTrips_of_lossless Agent.PlanRequest.lossless,
    roundTrips_of_lossless Agent.PlanReport.lossless, roundTrips_of_lossless Agent.Step.lossless,
    roundTrips_of_lossless Agent.ToolDescription.lossless, ?_⟩
  exact roundTrips_of_lossless Settings.lossless

/-- A document as an array, with a level that is missing and names out of order. -/
def arrayText : String :=
  "[\"d1\", \"hr\", \"text\", 0.5, \x7b\"b\": \"2\", \"a\": \"1\"\x7d, null]"

def arrayDocument : Document where
  id := "d1"
  namespace_ := "hr"
  content := "text"
  score := ⟨0x3FE0000000000000⟩
  metadata := [("a", "1"), ("b", "2")]

/-- What is written for the document, with its names as they were. -/
def objectText : String :=
  "\x7b\"id\":\"d1\",\"namespace\":\"hr\",\"content\":\"text\",\"score\":0.5," ++
    "\"metadata\":\x7b\"b\":\"2\",\"a\":\"1\"\x7d,\"sensitivity\":\"public\"\x7d"

theorem arrayDocument_writtenAs : arrayDocument.toJson.WrittenAs objectText := by
  have hmetadata : (Json.object [("a", .string "1"), ("b", .string "2")]).Reordered
      (.object [("b", .string "2"), ("a", .string "1")]) :=
    .object (.swap ..) rfl (.cons (.refl _) (.cons (.refl _) .nil))
  refine ⟨.object [("id", .string "d1"), ("namespace", .string "hr"), ("content", .string "text"),
    ("score", .float ⟨0x3FE0000000000000⟩),
    ("metadata", .object [("b", .string "2"), ("a", .string "1")]),
    ("sensitivity", .string "public")], .object (.refl _) rfl ?_, .inl (by decide +kernel)⟩
  exact .cons (.refl _) (.cons (.refl _) (.cons (.refl _) (.cons (.refl _) (.cons hmetadata
    (.cons (.refl _) .nil)))))

theorem arrayDocument_read_again :
    Document.reader.ofText? arrayText = some arrayDocument ∧
      Document.reader.ofText? objectText = some arrayDocument := by
  have hread : Document.reader.ofText? arrayText = some arrayDocument := by decide +kernel
  obtain ⟨d, hd, rfl, -⟩ := readers_roundTrip.2.2.1 arrayText arrayDocument hread
    (by decide +kernel) objectText arrayDocument_writtenAs
  exact ⟨hread, hd⟩

end Guardrail
