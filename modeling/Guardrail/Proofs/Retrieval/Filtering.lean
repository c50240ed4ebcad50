import Guardrail.Proofs.Text.WordEnd
import Guardrail.Retrieval.Chain

/-! # Chains of filters

A filter decides by the level or the namespace of a document and writes its content, so no filter
reads what another one writes. A chain therefore keeps the documents that all of its filters keep
and masks secrets if one of them does (`Chain.apply_eq`). Its order does not matter, a second run
has nothing left to do, and who has less clearance sees a part of the same documents. -/

namespace Guardrail

/-- The document as a viewer gets to see it. -/
def Document.redacted (d : Document) : Document :=
  if Retrieval.hasSecret d.content then { d with content := Retrieval.leakNotice } else d

@[simp] theorem Document.redacted_namespace (d : Document) :
    d.redacted.namespace_ = d.namespace_ := by
  unfold redacted
  split <;> rfl

@[simp] theorem Document.redacted_sensitivity (d : Document) :
    d.redacted.sensitivity = d.sensitivity := by
  unfold redacted
  split <;> rfl

namespace Retrieval

variable {viewer : Sensitivity} {d : Document} {docs : List Document}

/-! ## What is masked -/

/-- The notice is no secret itself. -/
theorem hasSecret_leakNotice : hasSecret leakNotice = false := by decide +kernel

@[simp] theorem hasSecret_redacted (d : Document) : hasSecret d.redacted.content = false := by
  unfold Document.redacted
  split
  · exact hasSecret_leakNotice
  · exact eq_false_of_ne_true ‹_›

@[simp] theorem redacted_redacted (d : Document) : d.redacted.redacted = d.redacted := by
  conv_lhs => rw [Document.redacted, hasSecret_redacted]
  rfl

/-- A marker is found as it is written, since it is in lower case. -/
theorem not_contains_of_not_hasSecret {content marker : String}
    (h : hasSecret content = false) (hm : marker ∈ secretMarkers) :
    Text.contains content marker = false := by
  have hplain : ∀ m ∈ secretMarkers, Text.Steady m ∧ Text.lower m = m := by decide +kernel
  obtain ⟨hsteady, hlower⟩ := hplain marker hm
  have hmiss : Text.contains (Text.lower content) marker = false := by
    simpa using List.any_eq_false.mp h marker hm
  refine eq_false_of_ne_true fun hin => ?_
  have hfound : Text.contains (Text.lower content) (Text.lower marker) = true :=
    Text.mentions_of_contains hsteady hin
  rw [hlower, hmiss] at hfound
  cases hfound

/-! ## One filter -/

/-- Whether the filter lets the document through. -/
def Filter.keeps (viewer : Sensitivity) : Filter → Document → Bool
  | redact, _ => true
  | clearance, d => d.sensitivity.rank ≤ viewer.rank
  | within allowed, d => allowed.isEmpty || allowed.contains "*" || allowed.contains d.namespace_

/-- What the filter makes of a document that it lets through. -/
def Filter.rewrite : Filter → Document → Document
  | redact, d => d.redacted
  | clearance, d | within _, d => d

theorem Filter.screen_eq (f : Filter) (d : Document) :
    f.screen viewer d = if f.keeps viewer d then some (f.rewrite d) else none := by
  cases f with
  | redact => rfl
  | clearance => simp only [screen, keeps, rewrite, decide_eq_true_eq]
  | within => rfl

theorem Filter.apply_eq (f : Filter) (docs : List Document) :
    f.apply viewer docs = (docs.filter (f.keeps viewer)).map f.rewrite := by
  rw [apply, ← List.filterMap_eq_map, List.filterMap_filter]
  exact congrArg (docs.filterMap ·) (funext f.screen_eq)

/-- No filter reads what another one writes. -/
theorem Filter.keeps_rewrite (f f' : Filter) (d : Document) :
    f.keeps viewer (f'.rewrite d) = f.keeps viewer d := by
  cases f' with
  | redact => cases f <;> simp [keeps, rewrite]
  | clearance | within => rfl

/-! ## Chains -/

namespace Chain

variable (viewer) in
/-- Whether all filters of the chain let the document through. -/
def keeps (chain : Chain) (d : Document) : Bool := chain.all (·.keeps viewer d)

/-- What the chain makes of a document that it lets through. -/
def rewrite (chain : Chain) (d : Document) : Document :=
  if Filter.redact ∈ chain then d.redacted else d

theorem apply_cons (f : Filter) (chain : Chain) :
    Chain.apply viewer (f :: chain) docs = chain.apply viewer (f.apply viewer docs) := rfl

theorem keeps_rewrite (chain : Chain) (f : Filter) (d : Document) :
    chain.keeps viewer (f.rewrite d) = chain.keeps viewer d := by
  simp only [keeps, Filter.keeps_rewrite]

theorem rewrite_cons (f : Filter) (chain : Chain) (d : Document) :
    Chain.rewrite (f :: chain) d = chain.rewrite (f.rewrite d) := by
  unfold rewrite
  cases f with
  | redact =>
    rw [if_pos (List.mem_cons_self ..)]
    split
    · exact (redacted_redacted d).symm
    · rfl
  | clearance | within => simp [Filter.rewrite]

/-- **A chain keeps what all its filters keep**, and masks it if one of them does. -/
theorem apply_eq (chain : Chain) (docs : List Document) :
    chain.apply viewer docs = (docs.filter (chain.keeps viewer)).map chain.rewrite := by
  induction chain generalizing docs with
  | nil =>
    have hkeeps : Chain.keeps viewer [] = fun _ => true := rfl
    have hrewrite : Chain.rewrite [] = id := funext fun _ => if_neg List.not_mem_nil
    rw [hkeeps, hrewrite, List.filter_true, List.map_id]
    rfl
  | cons f rest ih =>
    have hrest : Chain.keeps viewer rest ∘ f.rewrite = Chain.keeps viewer rest :=
      funext fun d => keeps_rewrite rest f d
    have hrewrite : Chain.rewrite rest ∘ f.rewrite = Chain.rewrite (f :: rest) :=
      funext fun d => (rewrite_cons f rest d).symm
    rw [apply_cons, ih, Filter.apply_eq, List.filter_map, hrest, List.filter_filter, List.map_map,
      hrewrite]
    congr 2
    funext d
    exact Bool.and_comm ..

/-- Documents that a chain has let through and rewritten are let through again. -/
theorem keeps_rewrite_chain (chain chain' : Chain) (d : Document) :
    chain.keeps viewer (chain'.rewrite d) = chain.keeps viewer d := by
  unfold rewrite
  split
  · exact keeps_rewrite chain .redact d
  · rfl

theorem rewrite_rewrite (chain : Chain) (d : Document) :
    chain.rewrite (chain.rewrite d) = chain.rewrite d := by
  unfold rewrite
  split
  · exact redacted_redacted d
  · rfl

theorem apply_perm {chain chain' : Chain} (h : chain.Perm chain') (docs : List Document) :
    chain.apply viewer docs = chain'.apply viewer docs := by
  have hkeeps : chain.keeps viewer = chain'.keeps viewer := by
    funext d
    exact h.all_eq
  have hrewrite : chain.rewrite = chain'.rewrite := by
    funext d
    simp only [rewrite, h.mem_iff]
  rw [apply_eq, apply_eq, hkeeps, hrewrite]

theorem apply_apply (chain : Chain) (docs : List Document) :
    chain.apply viewer (chain.apply viewer docs) = chain.apply viewer docs := by
  have hkeeps : chain.keeps viewer ∘ chain.rewrite = chain.keeps viewer :=
    funext (keeps_rewrite_chain chain chain)
  have hrewrite : chain.rewrite ∘ chain.rewrite = chain.rewrite :=
    funext (rewrite_rewrite chain)
  rw [apply_eq, apply_eq, List.filter_map, hkeeps, List.filter_filter, List.map_map, hrewrite]
  simp only [Bool.and_self]

theorem keeps_of_rank_le {lower : Sensitivity} (hle : lower.rank ≤ viewer.rank) (chain : Chain)
    (d : Document) (h : chain.keeps lower d = true) : chain.keeps viewer d = true := by
  rw [keeps, List.all_eq_true] at h ⊢
  intro f hf
  have hfd := h f hf
  cases f with
  | redact | within => exact hfd
  | clearance =>
    simp only [Filter.keeps, decide_eq_true_eq] at hfd ⊢
    exact Nat.le_trans hfd hle

theorem apply_sublist {lower : Sensitivity} (hle : lower.rank ≤ viewer.rank) (chain : Chain)
    (docs : List Document) : (chain.apply lower docs).Sublist (chain.apply viewer docs) := by
  rw [apply_eq, apply_eq]
  exact (List.monotone_filter_right docs (keeps_of_rank_le hle chain)).map _

/-! ## Chains that begin with the standard one -/

theorem foldl_add (chain : Chain) (filters : List Filter) :
    filters.foldl Chain.add chain = chain ++ filters := by
  induction filters generalizing chain with
  | nil => exact (List.append_nil chain).symm
  | cons f rest ih => simp [ih, add]

/-- The namespace lists of a chain. -/
def namespaceLists (chain : Chain) : List (List String) :=
  chain.filterMap fun
    | .within names => some names
    | _ => none

theorem mem_namespaceLists {chain : Chain} {names : List String} :
    names ∈ chain.namespaceLists ↔ Filter.within names ∈ chain := by
  rw [namespaceLists, List.mem_filterMap]
  constructor
  · rintro ⟨f, hf, hnames⟩
    cases f with
    | within => exact Option.some.inj hnames ▸ hf
    | redact | clearance => cases hnames
  · exact fun hf => ⟨_, hf, rfl⟩

/-- The document lies within the clearance and in every namespace list that restricts at all. -/
def Admits (viewer : Sensitivity) (chain : Chain) (d : Document) : Prop :=
  d.sensitivity.rank ≤ viewer.rank ∧
    ∀ names ∈ chain.namespaceLists, names = [] ∨ "*" ∈ names ∨ d.namespace_ ∈ names

instance (viewer : Sensitivity) (chain : Chain) : DecidablePred (chain.Admits viewer) :=
  fun d => inferInstanceAs (Decidable (d.sensitivity.rank ≤ viewer.rank ∧
    ∀ names ∈ chain.namespaceLists, names = [] ∨ "*" ∈ names ∨ d.namespace_ ∈ names))

theorem keeps_iff_admits {chain : Chain} (h : Filter.clearance ∈ chain) (d : Document) :
    chain.keeps viewer d = true ↔ chain.Admits viewer d := by
  have hwithin (names : List String) : (Filter.within names).keeps viewer d = true ↔
      names = [] ∨ "*" ∈ names ∨ d.namespace_ ∈ names := by
    simp [Filter.keeps, or_assoc]
  have hclearance : Filter.clearance.keeps viewer d = true ↔
      d.sensitivity.rank ≤ viewer.rank := decide_eq_true_iff
  rw [keeps, List.all_eq_true, Admits]
  constructor
  · intro hall
    exact ⟨hclearance.mp (hall _ h),
      fun names hnames => (hwithin names).mp (hall _ (mem_namespaceLists.mp hnames))⟩
  · rintro ⟨hrank, hlists⟩ f hf
    cases f with
    | redact => rfl
    | clearance => exact hclearance.mpr hrank
    | within names => exact (hwithin names).mpr (hlists names (mem_namespaceLists.mpr hf))

/-- **What a chain lets through that begins with the standard one.** It removes the documents above
the viewer's clearance and those outside a namespace list that restricts, and leaves the others in
their order and as they are, except that content with a secret marker is masked. So nothing that it
returns contains a marker. The order of its filters does not matter, a second run changes nothing,
and a lower clearance shows a part of the same documents. -/
theorem extended_standard_exact (viewer : Sensitivity) (filters : List Filter)
    (docs : List Document) :
    let chain := filters.foldl Chain.add Chain.standard
    chain.apply viewer docs = (docs.filter (chain.Admits viewer ·)).map Document.redacted ∧
      (∀ d ∈ chain.apply viewer docs, hasSecret d.content = false ∧
        ∀ marker ∈ secretMarkers, Text.contains d.content marker = false) ∧
      (∀ chain' : Chain, chain'.Perm chain → chain'.apply viewer docs = chain.apply viewer docs) ∧
      chain.apply viewer (chain.apply viewer docs) = chain.apply viewer docs ∧
      ∀ lower : Sensitivity, lower.rank ≤ viewer.rank →
        (chain.apply lower docs).Sublist (chain.apply viewer docs) := by
  intro chain
  have hchain : chain = Chain.standard ++ filters := foldl_add _ _
  have hclearance : Filter.clearance ∈ chain := hchain ▸ by simp [Chain.standard]
  have hredact : chain.rewrite = Document.redacted :=
    funext fun _ => if_pos (hchain ▸ by simp [Chain.standard])
  have hkeeps : chain.keeps viewer = (chain.Admits viewer ·) := by
    funext d
    rw [Bool.eq_iff_iff, decide_eq_true_iff]
    exact keeps_iff_admits hclearance d
  have hexact : chain.apply viewer docs =
      (docs.filter (chain.Admits viewer ·)).map Document.redacted := by
    rw [apply_eq, hkeeps, hredact]
  have hclean (d : Document) (hd : d ∈ chain.apply viewer docs) : hasSecret d.content = false := by
    rw [hexact] at hd
    obtain ⟨d', -, rfl⟩ := List.mem_map.mp hd
    exact hasSecret_redacted d'
  exact ⟨hexact,
    fun d hd => ⟨hclean d hd, fun _ hm => not_contains_of_not_hasSecret (hclean d hd) hm⟩,
    fun _ hperm => apply_perm hperm docs, apply_apply chain docs,
    fun _ hle => apply_sublist hle chain docs⟩

/-- A shelf with a secret, a document of another namespace and one for few. -/
def shelf : List Document := [
  { id := "1", namespace_ := "kb", content := "the PASSWORD is hunter2" },
  { id := "2", namespace_ := "wiki", content := "opening hours" },
  { id := "3", namespace_ := "kb", content := "merger plans", sensitivity := .secret }]

/-- Filters that are added in vain, in one order and in another. -/
theorem shelf_screened :
    let chain : Chain := [.within [], .within ["kb", "faq"], .clearance].foldl add standard
    let other : Chain := [.within ["kb", "faq"], .clearance, .clearance, .within [], .redact]
    other.apply .secret shelf = [
        { id := "1", namespace_ := "kb", content := leakNotice },
        { id := "3", namespace_ := "kb", content := "merger plans", sensitivity := .secret }] ∧
      Sensitivity.internal.rank ≤ Sensitivity.secret.rank ∧ other.Perm chain ∧
      (chain.apply .internal shelf).Sublist (other.apply .secret shelf) := by
  intro chain other
  obtain ⟨hexact, -, hperm, -, hlower⟩ :=
    extended_standard_exact .secret [.within [], .within ["kb", "faq"], .clearance] shelf
  have hother : other.Perm chain := by decide
  have hsame := hperm other hother
  have hle : Sensitivity.internal.rank ≤ Sensitivity.secret.rank := by decide
  refine ⟨?_, hle, hother, hsame ▸ hlower .internal hle⟩
  rw [hsame, hexact]
  decide +kernel

end Chain
end Retrieval
end Guardrail
