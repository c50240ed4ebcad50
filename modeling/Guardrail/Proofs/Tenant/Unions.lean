import Guardrail.Proofs.Tenant.Isolation
import Guardrail.Proofs.Terms
import Mathlib.Data.List.Sort
import Mathlib.Data.String.Basic

/-! # Answers as unions

What a store answers about a tenant is a matter of what its policies list, taken together: whether a
tool or a rule is on some list, and which namespaces and terms are. Neither the order of the
policies nor the way in which they divide up their entries can be seen, except that a prompt which
breaks several rules is blocked for the first of them. -/

namespace Guardrail

/-! ## Sorted values -/

namespace Text

theorem pairwise_eraseRepsBy_loop (items : List String) : ∀ (a : String) acc,
    (a :: acc).Pairwise (· > ·) → (a :: items).Pairwise (· ≤ ·) →
      (List.eraseRepsBy.loop (· == ·) a items acc).Pairwise (· < ·) := by
  induction items with
  | nil =>
    intro a acc hacc _
    exact List.pairwise_reverse.mpr hacc
  | cons b rest ih =>
    intro a acc hacc hitems
    obtain ⟨hle, hrest⟩ := List.pairwise_cons.mp hitems
    rw [List.eraseRepsBy.loop]
    split
    · exact ih a acc hacc (List.pairwise_cons.mpr
        ⟨fun x hx => hle x (List.mem_cons_of_mem _ hx), hrest.of_cons⟩)
    · rename_i hab
      have hlt : a < b :=
        lt_of_le_of_ne (hle b (List.mem_cons_self ..)) (beq_eq_false_iff_ne.mp hab)
      refine ih b (a :: acc) (List.pairwise_cons.mpr ⟨fun x hx => ?_, hacc⟩) hrest
      rcases List.mem_cons.mp hx with rfl | hx
      · exact hlt
      · exact lt_trans ((List.pairwise_cons.mp hacc).1 x hx) hlt

theorem pairwise_sortedDistinct (items : List String) :
    (sortedDistinct items).Pairwise (· < ·) := by
  have hsorted : (items.mergeSort (fun a b => a ≤ b)).Pairwise (· ≤ ·) :=
    List.pairwise_mergeSort' (· ≤ ·) items
  unfold sortedDistinct List.eraseReps
  cases he : items.mergeSort (fun a b => a ≤ b) with
  | nil => exact .nil
  | cons a rest =>
    rw [he] at hsorted
    exact pairwise_eraseRepsBy_loop rest a [] (List.pairwise_singleton ..) hsorted

/-- Values in increasing order are known by what is among them. -/
theorem sortedDistinct_congr {items items' : List String} (h : ∀ x, x ∈ items ↔ x ∈ items') :
    sortedDistinct items = sortedDistinct items' := by
  have hlt := pairwise_sortedDistinct items
  have hlt' := pairwise_sortedDistinct items'
  have hperm : (sortedDistinct items).Perm (sortedDistinct items') :=
    (List.perm_ext_iff_of_nodup (hlt.imp ne_of_lt) (hlt'.imp ne_of_lt)).mpr fun x => by
      rw [mem_sortedDistinct, mem_sortedDistinct, h]
  exact hperm.eq_of_pairwise (fun a b _ _ hab hba => absurd hab (lt_asymm hba)) hlt hlt'

end Text

/-! ## Lists of policies -/

/-- The policies list the same rules, tools, namespaces and terms, all of them taken together. -/
structure SameUnions (own own' : List TenantPolicy) : Prop where
  rules : ∀ rule, rule ∈ own.flatMap (·.promptRules) ↔ rule ∈ own'.flatMap (·.promptRules)
  tools : ∀ tool, tool ∈ own.flatMap (·.tools) ↔ tool ∈ own'.flatMap (·.tools)
  namespaces : ∀ name, name ∈ own.flatMap (·.namespaces) ↔ name ∈ own'.flatMap (·.namespaces)
  terms : ∀ term, term ∈ own.flatMap (·.sensitiveTerms) ↔ term ∈ own'.flatMap (·.sensitiveTerms)

/-- Values in strictly increasing order by code points, namely those that some policy lists. -/
structure Collected (own : List TenantPolicy) (field : TenantPolicy → List String)
    (values : List String) : Prop where
  increasing : values.Pairwise (· < ·)
  mem : ∀ value, value ∈ values ↔ ∃ p ∈ own, value ∈ field p

/-- Policies created in another order list the same. -/
theorem SameUnions.of_perm {own own' : List TenantPolicy} (h : own.Perm own') :
    SameUnions own own' where
  rules _ := (h.flatMap_right _).mem_iff
  tools _ := (h.flatMap_right _).mem_iff
  namespaces _ := (h.flatMap_right _).mem_iff
  terms _ := (h.flatMap_right _).mem_iff

theorem collected_sortedDistinct (own : List TenantPolicy) (field : TenantPolicy → List String) :
    Collected own field (Text.sortedDistinct (own.flatMap field)) :=
  ⟨Text.pairwise_sortedDistinct _, fun _ => Text.mem_sortedDistinct.trans List.mem_flatMap⟩

namespace Store

variable {s s' : Store} {tenant tenant' : String}

/-- What a store answers about a tenant, put in terms of all the policies of the tenant at once. A
prompt is checked against all their rules as if these were the keywords. -/
structure AnswersAsUnion (s : Store) (tenant : String) : Prop where
  tool : ∀ tool, s.allowsTool tenant tool = true ↔
    (∀ p ∈ s.list tenant, p.tools = []) ∨ ∃ p ∈ s.list tenant, tool ∈ p.tools
  namespaces : Collected (s.list tenant) (·.namespaces) (s.namespaces tenant)
  terms : Collected (s.list tenant) (·.sensitiveTerms) (s.sensitiveTerms tenant)
  prompt : ∀ prompt, Text.contains (Text.lower prompt) Filter.injectionPhrase = false →
    let checked := Filter.checkPrompt prompt ((s.list tenant).flatMap (·.promptRules))
    let answer := s.evaluatePrompt tenant prompt
    answer.allowed = checked.allowed ∧ answer.signals = checked.signals ∧
      answer.reason = (if checked.allowed then "" else "blocked_by_prompt_rule") ∧
      checked.reason = if checked.allowed then "" else "keyword_block"

/-- The same answers, but where a prompt is blocked it may be for another rule. -/
structure SameUpToRule (s s' : Store) (tenant tenant' : String) : Prop where
  tool : ∀ tool, s.allowsTool tenant tool = s'.allowsTool tenant' tool
  namespaces : s.namespaces tenant = s'.namespaces tenant'
  terms : s.sensitiveTerms tenant = s'.sensitiveTerms tenant'
  prompt : ∀ prompt, { s.evaluatePrompt tenant prompt with signals := [] } =
    { s'.evaluatePrompt tenant' prompt with signals := [] }

/-- Some rule is mentioned in the prompt, or none is. -/
theorem evaluatePrompt_cases (s : Store) (tenant prompt : String) :
    (∃ rule, Text.firstMentioned prompt (s.promptRules tenant) = some rule ∧
        s.evaluatePrompt tenant prompt = .block "blocked_by_prompt_rule" [rule]) ∨
      Text.firstMentioned prompt (s.promptRules tenant) = none ∧
        s.evaluatePrompt tenant prompt = .allow := by
  rw [evaluatePrompt]
  cases Text.firstMentioned prompt (s.promptRules tenant) with
  | some rule => exact .inl ⟨rule, rfl, rfl⟩
  | none => exact .inr ⟨rfl, rfl⟩

theorem answersAsUnion (s : Store) (tenant : String) : s.AnswersAsUnion tenant where
  tool := allowsTool_iff s tenant
  namespaces := collected_sortedDistinct _ _
  terms := collected_sortedDistinct _ _
  prompt prompt hphrase := by
    have hkeywords : s.promptRules tenant = (s.list tenant).flatMap (·.promptRules) := rfl
    rw [Filter.checkPrompt, hphrase, if_neg Bool.false_ne_true, ← hkeywords]
    obtain ⟨rule, hfirst, hanswer⟩ | ⟨hfirst, hanswer⟩ := s.evaluatePrompt_cases tenant prompt
    · rw [hfirst, hanswer]
      exact ⟨rfl, rfl, rfl, rfl⟩
    · rw [hfirst, hanswer]
      exact ⟨rfl, rfl, rfl, rfl⟩

theorem sameUpToRule (h : SameUnions (s.list tenant) (s'.list tenant')) :
    s.SameUpToRule s' tenant tenant' where
  tool := allowsTool_congr h.tools
  namespaces := Text.sortedDistinct_congr h.namespaces
  terms := Text.sortedDistinct_congr h.terms
  prompt prompt := by
    -- which rule comes first depends on the order, whether there is one does not
    have hsome : (Text.firstMentioned prompt (s.promptRules tenant)).isSome =
        (Text.firstMentioned prompt (s'.promptRules tenant')).isSome := by
      rw [Bool.eq_iff_iff, Text.isSome_firstMentioned_iff, Text.isSome_firstMentioned_iff]
      exact exists_congr fun rule => and_congr_left' (h.rules rule)
    obtain ⟨rule, hfirst, hanswer⟩ | ⟨hfirst, hanswer⟩ := s.evaluatePrompt_cases tenant prompt <;>
      obtain ⟨rule', hfirst', hanswer'⟩ | ⟨hfirst', hanswer'⟩ :=
        s'.evaluatePrompt_cases tenant' prompt
    · rw [hanswer, hanswer']
      rfl
    · simp [hfirst, hfirst'] at hsome
    · simp [hfirst, hfirst'] at hsome
    · rw [hanswer, hanswer']

/-- Every draft becomes a policy under its id, at its time. -/
def createAll (s : Store) (drafts : List (String × Timestamp × TenantPolicy)) : Store :=
  s.run (drafts.map fun (id, now, draft) => .create id now draft)

theorem policies_createAll (s : Store) (drafts : List (String × Timestamp × TenantPolicy)) :
    (s.createAll drafts).policies =
      s.policies ++ drafts.map fun (id, now, draft) => draft.created id now := by
  induction drafts generalizing s with
  | nil => exact (List.append_nil _).symm
  | cons d rest ih =>
    rw [List.map_cons, List.append_cons]
    exact ih (s.create d.1 d.2.1 d.2.2).1

theorem list_createAll_perm (s : Store) {drafts drafts' : List (String × Timestamp × TenantPolicy)}
    (h : drafts.Perm drafts') (tenant : String) :
    ((s.createAll drafts).list tenant).Perm ((s.createAll drafts').list tenant) := by
  rw [list, list, policies_createAll, policies_createAll]
  exact ((h.map _).append_left _).filter _

/-- **The answers about a tenant are unions over its policies.** They are determined by what the
policies list together. The order in which policies were created and how they divide up their
entries make no difference, except to which of several broken rules is named. -/
theorem answers_are_unions (s : Store) (tenant : String) :
    s.AnswersAsUnion tenant ∧
      (∀ s' tenant', SameUnions (s.list tenant) (s'.list tenant') →
        s.SameUpToRule s' tenant tenant') ∧
      ∀ drafts drafts' : List (String × Timestamp × TenantPolicy), drafts.Perm drafts' →
        (s.createAll drafts).SameUpToRule (s.createAll drafts') tenant tenant :=
  ⟨answersAsUnion s tenant, fun _ _ => sameUpToRule,
    fun _ _ h => sameUpToRule (.of_perm (list_createAll_perm s h tenant))⟩

/-- Entries divided between two policies of a tenant, with a repetition. -/
def dividedStore : Store := ⟨[
  { tenant := "acme", promptRules := ["salary", ""], namespaces := ["kb/hr", "kb/eng"] },
  { tenant := "acme", promptRules := ["bonus"], namespaces := ["kb/eng"], tools := ["search"] }]⟩

/-- The same entries in one policy. -/
def gatheredStore : Store := ⟨[
  { tenant := "acme", promptRules := ["bonus", "", "salary"], namespaces := ["kb/eng", "kb/hr"],
    tools := ["search"] }]⟩

theorem divided_gathered_alike :
    SameUnions (dividedStore.list "acme") (gatheredStore.list "acme") ∧
      dividedStore.SameUpToRule gatheredStore "acme" "acme" ∧
      Text.contains (Text.lower "Bonus or salary?") Filter.injectionPhrase = false ∧
      (dividedStore.evaluatePrompt "acme" "Bonus or salary?").signals =
        (Filter.checkPrompt "Bonus or salary?" ["salary", "", "bonus"]).signals ∧
      (dividedStore.evaluatePrompt "acme" "Bonus or salary?").signals = ["salary"] ∧
      (gatheredStore.evaluatePrompt "acme" "Bonus or salary?").signals = ["bonus"] ∧
      dividedStore.allowsTool "acme" "search" = true ∧
      dividedStore.allowsTool "acme" "Search" = false := by
  have hdivided : dividedStore.list "acme" = dividedStore.policies := by decide +kernel
  have hgathered : gatheredStore.list "acme" = gatheredStore.policies := by decide +kernel
  have hunions : SameUnions (dividedStore.list "acme") (gatheredStore.list "acme") := by
    rw [hdivided, hgathered]
    constructor <;> simp [dividedStore, gatheredStore] <;> tauto
  have halike := (answers_are_unions dividedStore "acme").2.1 gatheredStore "acme" hunions
  have hphrase : Text.contains (Text.lower "Bonus or salary?") Filter.injectionPhrase = false := by
    decide +kernel
  have hchecked := (answers_are_unions dividedStore "acme").1.prompt _ hphrase
  rw [hdivided] at hchecked
  exact ⟨hunions, halike, hphrase, hchecked.2.1, by decide +kernel⟩

end Store
end Guardrail
