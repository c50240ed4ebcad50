import Guardrail.Proofs.Retrieval.Filtering
import Guardrail.Retrieval.Access
import Mathlib.Data.Finset.Preimage

/-! # Two readings of a list of namespaces

The check of a request takes the namespaces of a tenant for patterns, the filter for documents
compares names. They differ where a star at the end of a pattern stands for more than itself: a name
that only such a pattern admits passes the check, and its documents are dropped. -/

namespace Guardrail.Retrieval

variable {patterns : List String} {pattern name : String}

/-! ## Patterns -/

/-- The pattern ends in a star, and the name begins with what stands before it. -/
def StemAdmits (pattern name : String) : Prop :=
  ∃ stem, pattern.toList = stem ++ ['*'] ∧ stem <+: name.toList

instance (pattern name : String) : Decidable (StemAdmits pattern name) :=
  decidable_of_iff
    (pattern.toList.getLast? = some '*' ∧ pattern.toList.dropLast <+: name.toList) <| by
      rw [List.getLast?_eq_some_iff]
      constructor
      · rintro ⟨⟨stem, hstem⟩, h⟩
        rw [hstem, List.dropLast_concat] at h
        exact ⟨stem, hstem, h⟩
      · rintro ⟨stem, hstem, h⟩
        exact ⟨⟨stem, hstem⟩, by rwa [hstem, List.dropLast_concat]⟩

theorem patternAdmits_iff :
    patternAdmits pattern name = true ↔ pattern = name ∨ StemAdmits pattern name := by
  rw [patternAdmits, Bool.or_eq_true, beq_iff_eq]
  refine or_congr_right ?_
  split
  · rename_i lead hlead
    have hpattern : pattern.toList = lead.reverse ++ ['*'] := by
      rw [← List.reverse_reverse pattern.toList, hlead, List.reverse_cons]
    rw [List.isPrefixOf_iff_prefix]
    constructor
    · exact fun h => ⟨lead.reverse, hpattern, h⟩
    · rintro ⟨stem, hstem, h⟩
      rwa [List.append_cancel_right (hpattern.symm.trans hstem)]
  · rename_i hnone
    refine iff_of_false Bool.false_ne_true ?_
    rintro ⟨stem, hstem, -⟩
    exact hnone stem.reverse (by rw [hstem, List.reverse_append]; rfl)

/-- The star alone has an empty stem. -/
theorem stemAdmits_star (name : String) : StemAdmits "*" name := ⟨[], rfl, List.nil_prefix⟩

theorem admits_iff :
    admits patterns name = true ↔
      patterns = [] ∨ name ∈ patterns ∨ ∃ p ∈ patterns, StemAdmits p name := by
  simp only [admits, Bool.or_eq_true, List.isEmpty_iff, List.any_eq_true, patternAdmits_iff,
    and_or_left, exists_or, exists_eq_right]

theorem checkNamespace_eq_ok_iff {s : Store} {tenant : String} :
    checkNamespace s tenant name = .ok () ↔ admits (s.namespaces tenant) name = true := by
  simp [checkNamespace]

/-! ## Names that only a pattern admits -/

/-- The list is restricted and does not have the name, but one of its patterns admits it. -/
def OnlyByStem (patterns : List String) (name : String) : Prop :=
  patterns ≠ [] ∧ "*" ∉ patterns ∧ name ∉ patterns ∧ ∃ p ∈ patterns, StemAdmits p name

instance (patterns : List String) (name : String) : Decidable (OnlyByStem patterns name) :=
  inferInstanceAs (Decidable (patterns ≠ [] ∧ "*" ∉ patterns ∧ name ∉ patterns ∧
    ∃ p ∈ patterns, StemAdmits p name))

theorem keeps_within_iff (viewer : Sensitivity) (d : Document) :
    (Filter.within patterns).keeps viewer d = true ↔
      admits patterns d.namespace_ = true ∧ ¬ OnlyByStem patterns d.namespace_ := by
  have hkeeps : (Filter.within patterns).keeps viewer d = true ↔
      patterns = [] ∨ "*" ∈ patterns ∨ d.namespace_ ∈ patterns := by
    simp [Filter.keeps, or_assoc]
  rw [hkeeps, admits_iff]
  constructor
  · intro h
    constructor
    · rcases h with h | h | h
      · exact .inl h
      · exact .inr (.inr ⟨"*", h, stemAdmits_star _⟩)
      · exact .inr (.inl h)
    · rintro ⟨hne, hstar, hname, -⟩
      exact h.elim hne (·.elim hstar hname)
  · rintro ⟨hadmits, hstem⟩
    by_contra hnot
    obtain ⟨hne, hrest⟩ := not_or.mp hnot
    obtain ⟨hstar, hname⟩ := not_or.mp hrest
    exact hstem ⟨hne, hstar, hname, (hadmits.resolve_left hne).resolve_left hname⟩

/-- A stem admits more names than a list can have. -/
theorem exists_onlyByStem {stem : List Char} (hp : pattern ∈ patterns)
    (hpattern : pattern.toList = stem ++ ['*']) (hstar : "*" ∉ patterns) :
    ∃ name, OnlyByStem patterns name := by
  let longer (n : Nat) : String := String.ofList (stem ++ List.replicate n 'a')
  have hinj : Function.Injective longer := by
    intro i j h
    simpa [longer] using congrArg (·.toList.length) h
  obtain ⟨n, hn⟩ := Infinite.exists_notMem_finset (patterns.toFinset.preimage longer hinj.injOn)
  rw [Finset.mem_preimage, List.mem_toFinset] at hn
  refine ⟨longer n, List.ne_nil_of_mem hp, hstar, hn, pattern, hp, stem, hpattern, ?_⟩
  rw [String.toList_ofList]
  exact List.prefix_append _ _

/-- **The filter keeps the documents that the check accepts, but for those that only a pattern
admits.** So they agree on all documents if the list restricts nothing or none of its patterns ends
in a star, and only then. -/
theorem within_namespaces_exact (s : Store) (tenant : String) (viewer : Sensitivity) :
    let patterns := s.namespaces tenant
    (∀ docs, (Filter.within patterns).apply viewer docs = docs.filter fun d =>
        checkNamespace s tenant d.namespace_ = .ok () ∧ ¬ OnlyByStem patterns d.namespace_) ∧
      ((∀ docs, (Filter.within patterns).apply viewer docs =
          docs.filter fun d => checkNamespace s tenant d.namespace_ = .ok ()) ↔
        patterns = [] ∨ "*" ∈ patterns ∨ ∀ p ∈ patterns, ∀ stem, p.toList ≠ stem ++ ['*']) := by
  intro patterns
  have hexact (docs : List Document) : (Filter.within patterns).apply viewer docs =
      docs.filter fun d =>
        checkNamespace s tenant d.namespace_ = .ok () ∧ ¬ OnlyByStem patterns d.namespace_ := by
    have hid : (Filter.within patterns).rewrite = id := rfl
    rw [Filter.apply_eq, hid, List.map_id]
    congr 1
    funext d
    rw [Bool.eq_iff_iff, keeps_within_iff, decide_eq_true_iff, checkNamespace_eq_ok_iff]
  refine ⟨hexact, fun hagree => ?_, fun hplain docs => ?_⟩
  · refine .inr (or_iff_not_imp_left.mpr fun hstar p hp stem hstem => ?_)
    obtain ⟨name, hname⟩ := exists_onlyByStem hp hstem hstar
    have hadmits : checkNamespace s tenant name = .ok () :=
      checkNamespace_eq_ok_iff.mpr (admits_iff.mpr (.inr (.inr hname.2.2.2)))
    have hone := (hexact [{ id := "", namespace_ := name }]).symm.trans (hagree _)
    simp [hadmits, hname] at hone
  · rw [hexact]
    congr 1
    funext d
    have hnone : ¬ OnlyByStem patterns d.namespace_ := by
      rintro ⟨hne, hstar, -, p, hp, stem, hstem, -⟩
      exact (hplain.resolve_left hne).resolve_left hstar p hp stem hstem
    rw [Bool.eq_iff_iff, decide_eq_true_iff, decide_eq_true_iff]
    exact and_iff_left hnone

/-- A tenant with all namespaces below `docs`. -/
def starred : Store := ⟨[{ tenant := "acme", namespaces := ["docs/*"] }]⟩

theorem accepted_namespace_dropped :
    checkNamespace starred "acme" "docs/eng" = .ok () ∧
      (Filter.within (starred.namespaces "acme")).apply .secret
        [{ id := "1", namespace_ := "docs/eng" }] = [] := by
  decide +kernel

end Guardrail.Retrieval
