import Guardrail.CommandLine.Program
import Guardrail.Proofs.Retrieval.Filtering
import Guardrail.Proofs.Tenant.Isolation
import Guardrail.Proofs.Terms

/-! # What a retrieval shows

A chain of filters leaves every document that it keeps in the namespace it came from, and it keeps a
tenant within some namespaces if one of its filters does (`Chain.namespace_mem_of_within`). No
filter of the standard chain does: a retrieval that is granted shows whatever the file holds up to
the clearance, whoever asks for it and under whichever namespace. -/

namespace Guardrail

/-! ## Chains of filters -/

namespace Retrieval

variable {viewer : Sensitivity} {d : Document} {docs : List Document}

theorem Chain.namespace_mem_of_within {chain : Chain} {names : List String}
    (hf : Filter.within names ∈ chain) (hne : names ≠ []) (hstar : "*" ∉ names)
    (h : d ∈ chain.apply viewer docs) : d.namespace_ ∈ names := by
  rw [Chain.apply_eq] at h
  obtain ⟨kept, hkept, rfl⟩ := List.mem_map.mp h
  have hwithin : (Filter.within names).keeps viewer kept = true :=
    List.all_eq_true.mp (List.mem_filter.mp hkept).2 _ hf
  have hname : (chain.rewrite kept).namespace_ = kept.namespace_ := by
    unfold Chain.rewrite
    split
    · exact kept.redacted_namespace
    · rfl
  rw [hname]
  simpa [Filter.keeps, hne, hstar] using hwithin

end Retrieval

/-! ## Namespaces from settings -/

theorem Retrieval.admits_sortedDistinct (patterns : List String) (name : String) :
    admits (Text.sortedDistinct patterns) name = admits patterns name := by
  have hempty : (Text.sortedDistinct patterns).isEmpty = patterns.isEmpty := by
    rw [Bool.eq_iff_iff, List.isEmpty_iff, List.isEmpty_iff, List.eq_nil_iff_forall_not_mem,
      List.eq_nil_iff_forall_not_mem]
    simp only [Text.mem_sortedDistinct]
  have hany : (Text.sortedDistinct patterns).any (patternAdmits · name) =
      patterns.any (patternAdmits · name) := by
    rw [Bool.eq_iff_iff, List.any_eq_true, List.any_eq_true]
    simp only [Text.mem_sortedDistinct]
  rw [admits, admits, hempty, hany]

namespace Settings

theorem list_foldl_create (now : Timestamp) (tenant : String)
    (entries : List (String × TenantSettings)) (store : Store) :
    (entries.foldl (fun store e => (store.create e.1 now (e.2.policy e.1)).1) store).list tenant =
      store.list tenant ++ (entries.filter (·.1 == tenant)).map fun e =>
        (e.2.policy e.1).created e.1 now := by
  induction entries generalizing store with
  | nil => simp
  | cons e rest ih =>
    have howner : (e.2.policy e.1).tenant = e.1 := rfl
    rw [List.foldl_cons, ih, Store.list_create, List.filter_cons, howner]
    split
    · rw [List.append_assoc]
      rfl
    · rfl

theorem list_store (s : Settings) (now : Timestamp) (tenant : String) :
    (s.store now).list tenant = (s.tenants.filter (·.1 == tenant)).map fun e =>
      (e.2.policy e.1).created e.1 now :=
  list_foldl_create now tenant s.tenants {}

/-- The patterns that count for a tenant are those of its settings. -/
theorem checkNamespace_store (s : Settings) (now : Timestamp) (tenant name : String) :
    Retrieval.checkNamespace (s.store now) tenant name = .ok () ↔ Retrieval.admits
      ((s.tenants.filter (·.1 == tenant)).flatMap (·.2.namespaces)) name = true := by
  have hpatterns : ((s.store now).list tenant).flatMap (·.namespaces) =
      (s.tenants.filter (·.1 == tenant)).flatMap (·.2.namespaces) := by
    rw [list_store, List.flatMap_map]
    rfl
  rw [Retrieval.checkNamespace, Store.namespaces, Retrieval.admits_sortedDistinct, hpatterns]
  simp

end Settings

/-! ## Documents that are shown -/

/-- A document's JSON names its namespace. -/
theorem Document.namespace_field (d : Document) :
    d.toJson.sorted.field? "namespace" = some (.string d.namespace_) := by
  unfold toJson
  cases d.metadata.isEmpty <;> rfl

namespace CommandLine

variable {w : Surroundings} {s : Settings} {tenant space query path clearance : String}
variable {docs : List Document}

/-- Whether a viewer with the clearance may see the document. -/
def cleared (clearance : String) (d : Document) : Bool :=
  d.sensitivity.rank ≤ (Sensitivity.ofLabel clearance).rank

theorem visible_eq (clearance : String) (docs : List Document) :
    visible clearance docs = (docs.filter (cleared clearance)).map Document.redacted := by
  have hkeeps : Retrieval.Chain.keeps (.ofLabel clearance) Retrieval.Chain.standard =
      cleared clearance := by
    funext d
    simp [Retrieval.Chain.keeps, Retrieval.Chain.standard, Retrieval.Filter.keeps, cleared]
  have hredact : Retrieval.Chain.standard.rewrite = Document.redacted :=
    funext fun _ => if_pos (by decide)
  rw [visible, Retrieval.Chain.apply_eq, hkeeps, hredact]

/-- What is printed when documents are shown. -/
def listing (shown : List Document) : Json :=
  .sorted (.object [("allowed", .bool true), ("documents", .array (shown.map (·.toJson)))])

/-- The namespaces that the documents of a printed listing name. -/
def shownNamespaces (e : Ending) : List String :=
  match e.output with
  | .value v =>
    match v.field? "documents" with
    | some (.array items) => items.filterMap fun item =>
      match item.field? "namespace" with
      | some (.string name) => some name
      | _ => none
    | _ => []
  | _ => []

/-- The request is in order and the file holds the documents. -/
structure Granted (w : Surroundings) (s : Settings) (tenant space query path : String)
    (docs : List Document) : Prop where
  request : refusal? (s.store w.now) tenant space query = .ok ()
  file : ∃ text, w.files.readText path = .ok text ∧
    (Json.Reader.list Document.reader).ofText? text = some docs

theorem retrieve_of_granted (h : Granted w s tenant space query path docs) (clearance : String) :
    retrieve w s tenant space query path clearance =
      .printed true (listing ((docs.filter (cleared clearance)).map Document.redacted)) := by
  obtain ⟨hrequest, text, hread, hparse⟩ := h
  unfold retrieve
  rw [hrequest]
  dsimp only
  rw [hread]
  dsimp only
  rw [hparse]
  dsimp only
  rw [visible_eq]
  rfl

theorem shownNamespaces_ofVerdict (v : Verdict) : shownNamespaces (.ofVerdict v) = [] := by
  have hfield : v.toJson.field? "documents" = none := by
    unfold Verdict.toJson
    cases v.reason.isEmpty <;> cases v.signals.isEmpty <;> rfl
  simp only [shownNamespaces, Ending.ofVerdict, Ending.printed, hfield]

/-- Without a grant nothing is shown, and the status says so. -/
theorem retrieve_of_not_granted (h : ∀ docs, ¬ Granted w s tenant space query path docs) :
    (retrieve w s tenant space query path clearance).status ≠ 0 ∧
      shownNamespaces (retrieve w s tenant space query path clearance) = [] := by
  unfold retrieve
  split
  · exact ⟨by simp [Ending.ofVerdict, Ending.printed, Ending.statusOf, Verdict.block],
      shownNamespaces_ofVerdict _⟩
  · rename_i hrequest
    split
    · exact ⟨Nat.one_ne_zero, rfl⟩
    · rename_i text hread
      split
      · exact ⟨Nat.one_ne_zero, rfl⟩
      · rename_i docs hparse
        exact absurd ⟨hrequest, text, hread, hparse⟩ (h docs)

theorem sortedItems_eq (items : List Json) : Json.sortedItems items = items.map Json.sorted := by
  induction items with
  | nil => rfl
  | cons v rest ih => rw [Json.sortedItems, ih, List.map_cons]

theorem shownNamespaces_listing (shown : List Document) :
    shownNamespaces (.printed true (listing shown)) = shown.map (·.namespace_) := by
  have hfield : (listing shown).field? "documents" =
      some (.array (Json.sortedItems (shown.map (·.toJson)))) := rfl
  simp only [shownNamespaces, Ending.printed, hfield, sortedItems_eq, List.map_map,
    List.filterMap_map]
  rw [← List.filterMap_eq_map]
  congr 1
  funext d
  simp [Document.namespace_field]

theorem shownNamespaces_of_granted (h : Granted w s tenant space query path docs)
    (clearance : String) :
    shownNamespaces (retrieve w s tenant space query path clearance) =
      (docs.filter (cleared clearance)).map (·.namespace_) := by
  rw [retrieve_of_granted h, shownNamespaces_listing, List.map_map]
  congr 1
  funext d
  exact Document.redacted_namespace d

/-- **A retrieval shows documents of admitted namespaces only, exactly if the file holds no others
up to the clearance.** The namespace that is asked for is checked, but those of the documents are
not: a request that is granted shows all that the clearance allows. -/
theorem shown_admitted_iff (w : Surroundings) (s : Settings)
    (tenant space query path clearance : String) :
    (∀ docs, Granted w s tenant space query path docs →
      retrieve w s tenant space query path clearance =
        .printed true (listing ((docs.filter (cleared clearance)).map Document.redacted))) ∧
      ((∀ name ∈ shownNamespaces (retrieve w s tenant space query path clearance),
          Retrieval.checkNamespace (s.store w.now) tenant name = .ok ()) ↔
        ∀ docs, Granted w s tenant space query path docs →
          ∀ d ∈ docs, cleared clearance d = true →
            Retrieval.checkNamespace (s.store w.now) tenant d.namespace_ = .ok ()) := by
  refine ⟨fun docs hgranted => retrieve_of_granted hgranted clearance, ?_⟩
  constructor
  · intro hall docs hgranted d hd hclear
    rw [shownNamespaces_of_granted hgranted] at hall
    exact hall _ (List.mem_map_of_mem (List.mem_filter.mpr ⟨hd, hclear⟩))
  · intro hall name hname
    by_cases hgranted : ∃ docs, Granted w s tenant space query path docs
    · obtain ⟨docs, hgranted⟩ := hgranted
      rw [shownNamespaces_of_granted hgranted] at hname
      obtain ⟨d, hd, rfl⟩ := List.mem_map.mp hname
      obtain ⟨hd, hclear⟩ := List.mem_filter.mp hd
      exact hall docs hgranted d hd hclear
    · rw [(retrieve_of_not_granted (not_exists.mp hgranted)).2] at hname
      cases hname

/-- A place where every file holds one document of the namespace `finance`. -/
def financeOnly : Surroundings where
  files := ⟨fun _ => .ok "[\x7b\"id\":\"1\",\"namespace\":\"finance\"\x7d]".toUTF8,
    fun _ => .error .notFound⟩
  home := "/root"
  environment := fun _ => none
  services := fun _ _ _ => .unreachable
  now := ⟨0, 0, 0⟩

/-- Settings with a tenant whose only namespace is `kb`. -/
def kbOnly : Settings where
  tenants := [("acme", { namespaces := ["kb"] })]

theorem foreign_namespace_shown :
    shownNamespaces (retrieve financeOnly kbOnly "acme" "kb" "holidays" "docs.json" "public") =
        ["finance"] ∧
      Retrieval.checkNamespace (kbOnly.store financeOnly.now) "acme" "finance" =
        .error (.namespaceNotAllowed "finance") := by
  decide +kernel

end CommandLine
end Guardrail
