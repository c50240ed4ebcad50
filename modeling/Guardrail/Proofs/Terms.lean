import Guardrail.Agent.Sandbox
import Guardrail.Firewall
import Guardrail.Proofs.Text.WordEnd
import Guardrail.Retrieval.Access

/-! # Where terms are looked for

Keywords and rules of prompts, sensitive terms of outputs and results, and denied names of tools are
all found by mention. So a term that a text contains is caught at all of these places or at none of
them, and which it is depends only on the sigmas of the term. -/

namespace Guardrail

variable {term text : String}

/-! ## Lists of terms -/

theorem Text.isSome_firstMentioned_iff {terms : List String} :
    (Text.firstMentioned text terms).isSome = true ↔
      ∃ term ∈ terms, term ≠ "" ∧ Text.mentions text term = true := by
  rw [Text.firstMentioned, List.find?_isSome]
  simp

theorem Text.isSome_firstMentioned {terms : List String} (hne : term ≠ "")
    (hm : Text.mentions text term = true) (h : term ∈ terms) :
    (Text.firstMentioned text terms).isSome = true :=
  Text.isSome_firstMentioned_iff.mpr ⟨term, h, hne, hm⟩

theorem Text.firstMentioned_filter (hm : Text.mentions text term = false) (terms : List String) :
    Text.firstMentioned text (terms.filter (· ≠ term)) = Text.firstMentioned text terms := by
  rw [Text.firstMentioned, Text.firstMentioned, List.find?_filter]
  congr 1
  funext other
  by_cases he : other = term
  · subst he
    simp [hm]
  · rw [Bool.eq_iff_iff]
    simp [he]

theorem Text.mem_eraseRepsBy_loop {x : String} (items : List String) : ∀ (a : String) acc,
    x ∈ List.eraseRepsBy.loop (· == ·) a items acc ↔ x = a ∨ x ∈ items ∨ x ∈ acc := by
  induction items with
  | nil =>
    intro a acc
    simp [List.eraseRepsBy.loop, or_comm]
  | cons b rest ih =>
    intro a acc
    rw [List.eraseRepsBy.loop]
    split
    · rename_i hab
      rw [ih, List.mem_cons, ← beq_iff_eq.mp hab]
      tauto
    · rw [ih, List.mem_cons, List.mem_cons]
      tauto

theorem Text.mem_sortedDistinct {x : String} {items : List String} :
    x ∈ Text.sortedDistinct items ↔ x ∈ items := by
  have hsort : x ∈ items.mergeSort (fun a b => a ≤ b) ↔ x ∈ items := List.mem_mergeSort
  rw [← hsort, Text.sortedDistinct, List.eraseReps]
  cases items.mergeSort (fun a b => a ≤ b) with
  | nil => exact Iff.rfl
  | cons a rest =>
    rw [List.eraseRepsBy, Text.mem_eraseRepsBy_loop, List.mem_cons]
    simp

theorem Store.mem_sensitiveTerms {s : Store} {tenant : String} {p : TenantPolicy}
    (hp : p ∈ s.list tenant) (h : term ∈ p.sensitiveTerms) : term ∈ s.sensitiveTerms tenant :=
  Text.mem_sortedDistinct.mpr (List.mem_flatMap.mpr ⟨p, hp, h⟩)

theorem Filter.mem_findLeaks {terms : List String} (hne : term ≠ "")
    (hm : Text.mentions text term = true) (h : term ∈ terms) :
    term ∈ Filter.findLeaks text terms :=
  List.mem_append_right _ (List.mem_filter.mpr ⟨h, by simp [hne, hm]⟩)

theorem Filter.scanLeaks_hit_of_mem {terms : List String} (hne : term ≠ "")
    (hm : Text.mentions text term = true) (h : term ∈ terms) :
    (Filter.scanLeaks text terms).hit = true := by
  rw [Filter.scanLeaks_hit, Bool.not_eq_true', ← Bool.not_eq_true, List.isEmpty_iff]
  exact List.ne_nil_of_mem (Filter.mem_findLeaks hne hm h)

theorem Filter.findLeaks_filter (hm : Text.mentions text term = false) (terms : List String) :
    Filter.findLeaks text (terms.filter (· ≠ term)) = Filter.findLeaks text terms := by
  rw [Filter.findLeaks, Filter.findLeaks, List.filter_filter]
  congr 2
  funext other
  by_cases he : other = term
  · subst he
    simp [hm]
  · simp [he]

/-! ## All places together -/

/-- Wherever the term is on a list, the text is held back for it or masked. -/
structure Caught (term text : String) : Prop where
  keyword : ∀ keywords, term ∈ keywords → (Filter.checkPrompt text keywords).allowed = false
  rule : ∀ (s : Store) tenant p, p ∈ s.list tenant → term ∈ p.promptRules →
    (s.evaluatePrompt tenant text).allowed = false
  leak : ∀ terms, term ∈ terms → (Filter.scanLeaks text terms).hit = true
  output : ∀ (f : Firewall) now tenant p, p ∈ f.store.list tenant → term ∈ p.sensitiveTerms →
    (f.filterOutput now tenant text).1.allowed = false
  result : ∀ (s : Store) tenant p, p ∈ s.list tenant → term ∈ p.sensitiveTerms →
    Retrieval.mask s tenant text = Retrieval.termNotice
  tool : ∀ sandbox : Agent.Sandbox, term ∈ sandbox.denied →
    sandbox.check text = .error .toolNotAllowed

/-- Wherever the term is on a list, the answer about the text is the one without it. -/
structure Missed (term text : String) : Prop where
  keyword : ∀ keywords,
    Filter.checkPrompt text keywords = Filter.checkPrompt text (keywords.filter (· ≠ term))
  rule : ∀ (s s' : Store) tenant,
    s'.promptRules tenant = (s.promptRules tenant).filter (· ≠ term) →
      s.evaluatePrompt tenant text = s'.evaluatePrompt tenant text
  leak : ∀ terms, Filter.scanLeaks text terms = Filter.scanLeaks text (terms.filter (· ≠ term))
  output : ∀ (f : Firewall) (s' : Store) now tenant,
    s'.sensitiveTerms tenant = (f.store.sensitiveTerms tenant).filter (· ≠ term) →
      (f.filterOutput now tenant text).1 = ({ f with store := s' }.filterOutput now tenant text).1
  result : ∀ (s s' : Store) tenant,
    s'.sensitiveTerms tenant = (s.sensitiveTerms tenant).filter (· ≠ term) →
      Retrieval.mask s tenant text = Retrieval.mask s' tenant text
  tool : ∀ sandbox sandbox' : Agent.Sandbox, sandbox'.allowed = sandbox.allowed →
    sandbox'.denied = sandbox.denied.filter (· ≠ term) → sandbox.check text = sandbox'.check text

theorem caught_of_mentions (hne : term ≠ "") (hm : Text.mentions text term = true) :
    Caught term text where
  keyword keywords h := by
    obtain ⟨first, hf⟩ := Option.isSome_iff_exists.mp (Text.isSome_firstMentioned hne hm h)
    rw [Filter.checkPrompt, hf]
    split <;> rfl
  rule s tenant p hp h := by
    have hr : term ∈ s.promptRules tenant := List.mem_flatMap.mpr ⟨p, hp, h⟩
    obtain ⟨first, hf⟩ := Option.isSome_iff_exists.mp (Text.isSome_firstMentioned hne hm hr)
    rw [Store.evaluatePrompt, hf]
    rfl
  leak terms h := Filter.scanLeaks_hit_of_mem hne hm h
  output f now tenant p hp h := by
    have hhit := Filter.scanLeaks_hit_of_mem hne hm (Store.mem_sensitiveTerms hp h)
    simp only [Firewall.filterOutput, hhit, if_true]
    rfl
  result s tenant p hp h := by
    rw [Retrieval.mask, if_pos (Text.isSome_firstMentioned hne hm (Store.mem_sensitiveTerms hp h))]
  tool sandbox h := by
    rw [Agent.Sandbox.check, Text.isSome_firstMentioned hne hm h, Bool.true_or, if_pos rfl]

theorem missed_of_not_mentions (hm : Text.mentions text term = false) : Missed term text where
  keyword keywords := by
    rw [Filter.checkPrompt, Filter.checkPrompt, Text.firstMentioned_filter hm]
  rule s s' tenant h := by
    rw [Store.evaluatePrompt, Store.evaluatePrompt, h, Text.firstMentioned_filter hm]
  leak terms := by
    rw [Filter.scanLeaks, Filter.scanLeaks, Filter.findLeaks_filter hm]
  output f s' now tenant h := by
    have hscan : Filter.scanLeaks text (s'.sensitiveTerms tenant) =
        Filter.scanLeaks text (f.store.sensitiveTerms tenant) := by
      rw [h, Filter.scanLeaks, Filter.scanLeaks, Filter.findLeaks_filter hm]
    simp only [Firewall.filterOutput, hscan]
    split
    · rfl
    · split <;> rfl
  result s s' tenant h := by
    rw [Retrieval.mask, Retrieval.mask, h, Text.firstMentioned_filter hm]
  tool sandbox sandbox' ha hd := by
    rw [Agent.Sandbox.check, Agent.Sandbox.check, Agent.Sandbox.isAllowed, Agent.Sandbox.isAllowed,
      ha, hd, Text.firstMentioned_filter hm]

/-- A rule that nobody breaks is as good as none. -/
theorem mentions_of_caught (h : Caught term text) : Text.mentions text term = true := by
  by_contra hm
  let p : TenantPolicy := { tenant := "", promptRules := [term] }
  have hblocked := h.rule ⟨[p]⟩ "" p (List.mem_singleton_self p) (List.mem_singleton_self term)
  have hsame := (missed_of_not_mentions (eq_false_of_ne_true hm)).rule ⟨[p]⟩ {} ""
    (by simp [Store.promptRules, Store.list, p])
  rw [hsame] at hblocked
  cases hblocked

/-- **A term is caught in every text that contains it exactly if none of its capital sigmas is
open.** Otherwise some text that contains it is treated everywhere as if the term were on no
list. -/
theorem term_caught_or_missed (hne : term ≠ "") :
    (Text.Steady term ↔ ∀ text, Text.contains text term = true → Caught term text) ∧
      (¬ Text.Steady term → ∃ text, Text.contains text term = true ∧ Missed term text) := by
  have hcaught (hs : Text.Steady term) (text : String) (hin : Text.contains text term = true) :
      Caught term text := caught_of_mentions hne (Text.mentions_of_contains hs hin)
  refine ⟨⟨hcaught, fun hall => ?_⟩, fun hs => ?_⟩
  · by_contra hs
    obtain ⟨text, hin, hm⟩ := Text.exists_not_mentions hs
    rw [mentions_of_caught (hall text hin)] at hm
    cases hm
  · obtain ⟨text, hin, hm⟩ := Text.exists_not_mentions hs
    exact ⟨text, hin, missed_of_not_mentions hm⟩

/-- Sigmas inside a word are not open; the one at its end is. -/
theorem inner_sigma_caught_last_missed :
    ("ΟΔΥΣΣΕΙΑ" ≠ "" ∧ ∀ text, Text.contains text "ΟΔΥΣΣΕΙΑ" = true → Caught "ΟΔΥΣΣΕΙΑ" text) ∧
      ("ΟΔΟΣ" ≠ "" ∧ ∃ text, Text.contains text "ΟΔΟΣ" = true ∧ Missed "ΟΔΟΣ" text) :=
  have hinner : "ΟΔΥΣΣΕΙΑ" ≠ "" := by decide
  have hlast : "ΟΔΟΣ" ≠ "" := by decide
  ⟨⟨hinner, (term_caught_or_missed hinner).1.mp (by decide +kernel)⟩,
    hlast, (term_caught_or_missed hlast).2 (by decide +kernel)⟩

/-- A text that begins with the term and goes on in the same word. -/
theorem longer_word_not_caught :
    Text.contains "ΟΔΟΣΑ" "ΟΔΟΣ" = true ∧
      (Filter.checkPrompt "ΟΔΟΣΑ" ["ΟΔΟΣ"]).allowed = true ∧
      (Store.evaluatePrompt ⟨[{ tenant := "acme", promptRules := ["ΟΔΟΣ"] }]⟩ "acme"
        "ΟΔΟΣΑ").allowed = true ∧
      (Filter.scanLeaks "ΟΔΟΣΑ" ["ΟΔΟΣ"]).hit = false ∧
      ((Firewall.new ⟨[{ tenant := "acme", sensitiveTerms := ["ΟΔΟΣ"] }]⟩ none .mark).filterOutput 0
        "acme" "ΟΔΟΣΑ").1.allowed = true ∧
      Retrieval.mask ⟨[{ tenant := "acme", sensitiveTerms := ["ΟΔΟΣ"] }]⟩ "acme" "ΟΔΟΣΑ" =
        "ΟΔΟΣΑ" ∧
      Agent.Sandbox.check { extraDenied := ["ΟΔΟΣ"] } "ΟΔΟΣΑ" = .ok () := by
  decide +kernel

end Guardrail
