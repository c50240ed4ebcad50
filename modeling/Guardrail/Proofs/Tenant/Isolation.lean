import Guardrail.Firewall
import Guardrail.Retrieval.Access
import Mathlib.Data.List.Forall2
import Mathlib.Logic.Equiv.Basic

/-! # Isolation of tenants

A call on the store changes the policies of the tenant it names and no others (`list_perform`), and
all that a store answers about a tenant it reads from the policies of that tenant. So two histories
in which the calls that name a tenant agree, up to the ids that were generated and the times at which
they were made, cannot be told apart by asking about that tenant. -/

namespace Guardrail

/-- The policy as it is stored when it takes the place of another one. -/
def TenantPolicy.succeeding (p existing : TenantPolicy) (now : Timestamp) : TenantPolicy :=
  { p with modifiedAt := some now, version := existing.version + 1 }

/-- The policy as it is stored at first. -/
def TenantPolicy.created (p : TenantPolicy) (id : String) (now : Timestamp) : TenantPolicy :=
  { p with id, modifiedAt := some now, version := 1 }

namespace Store

/-! ## Calls -/

/-- A call that may change the store. The id of a new policy is generated, not asked for. -/
inductive Call where
  | create (id : String) (now : Timestamp) (draft : TenantPolicy)
  | update (now : Timestamp) (draft : TenantPolicy)
  | delete (tenant id : String)

/-- The tenant that a call names. -/
def Call.tenant : Call → String
  | create _ _ draft => draft.tenant
  | update _ draft => draft.tenant
  | delete tenant _ => tenant

/-- The store after a call; a call that fails leaves it as it was. -/
def perform (s : Store) : Call → Store
  | .create id now draft => (s.create id now draft).1
  | .update now draft =>
    match s.update now draft with
    | .ok (s', _) => s'
    | .error _ => s
  | .delete tenant id =>
    match s.delete tenant id with
    | .ok s' => s'
    | .error _ => s

def run (s : Store) (calls : List Call) : Store := calls.foldl perform s

/-- What a call makes of the policies of the tenant that it names. -/
def Call.on : Call → List TenantPolicy → List TenantPolicy
  | create id now draft, own => own ++ [draft.created id now]
  | update now draft, own =>
    match own.find? (·.id == draft.id) with
    | some existing => own.set (own.findIdx (·.id == draft.id)) (draft.succeeding existing now)
    | none => own
  | delete _ id, own => own.eraseP (·.id == id)

/-! ## The policies of one tenant -/

theorem find?_owns (s : Store) (tenant id : String) :
    s.policies.find? (owns tenant id) = (s.list tenant).find? (·.id == id) := by
  rw [list, List.find?_filter]
  congr 1
  funext q
  rw [owns, Bool.decide_and, Bool.decide_eq_true, Bool.decide_eq_true]

/-- A policy is looked for among those of its tenant. -/
theorem get_eq (s : Store) (tenant id : String) :
    s.get tenant id = match (s.list tenant).find? (·.id == id) with
      | some p => .ok p
      | none => .error (.policyNotFound id) := by
  rw [← find?_owns s tenant id]
  rfl

theorem list_create (s : Store) (id : String) (now : Timestamp) (p : TenantPolicy)
    (tenant : String) :
    (s.create id now p).1.list tenant =
      if p.tenant == tenant then s.list tenant ++ [p.created id now] else s.list tenant := by
  have happend : (s.create id now p).1.policies = s.policies ++ [p.created id now] := rfl
  have howner : (p.created id now).tenant = p.tenant := rfl
  rw [list, happend, List.filter_append, List.filter_singleton, howner]
  cases p.tenant == tenant
  · exact List.append_nil _
  · rfl

/-! The first policy with a property gives way to another one. -/

section Replacing

variable {p : TenantPolicy → Bool} {q : TenantPolicy} {rest : List TenantPolicy}

theorem set_findIdx_cons_of_pos (h : p q = true) (new : TenantPolicy) :
    (q :: rest).set ((q :: rest).findIdx p) new = new :: rest := by
  rw [List.findIdx_cons, h]
  rfl

theorem set_findIdx_cons_of_neg (h : ¬ p q = true) (new : TenantPolicy) :
    (q :: rest).set ((q :: rest).findIdx p) new =
      q :: rest.set (rest.findIdx p) new := by
  rw [List.findIdx_cons, Bool.eq_false_iff.mpr h]
  rfl

end Replacing

/-- Where a policy takes the place of another one of its tenant, no other tenant sees it. -/
theorem filter_set_owns (policies : List TenantPolicy) (id tenant : String) (new : TenantPolicy) :
    (policies.set (policies.findIdx (owns new.tenant id)) new).filter (·.tenant == tenant) =
      if new.tenant == tenant then
        (policies.filter (·.tenant == tenant)).set
          ((policies.filter (·.tenant == tenant)).findIdx (·.id == id)) new
      else policies.filter (·.tenant == tenant) := by
  induction policies with
  | nil => simp
  | cons q rest ih =>
    by_cases ho : owns new.tenant id q = true
    · have hq := ho
      rw [owns, Bool.and_eq_true, beq_iff_eq] at hq
      rw [set_findIdx_cons_of_pos ho, List.filter_cons, List.filter_cons, hq.1]
      cases new.tenant == tenant with
      | true => exact (set_findIdx_cons_of_pos hq.2 new).symm
      | false => rfl
    · rw [set_findIdx_cons_of_neg ho, List.filter_cons, List.filter_cons, ih]
      by_cases hq : (q.tenant == tenant) = true
      · rw [if_pos hq, if_pos hq]
        by_cases ht : (new.tenant == tenant) = true
        · have hid : ¬ (q.id == id) = true := fun hid => ho (by
            rw [owns, hid, Bool.and_true, beq_iff_eq.mp ht, hq])
          rw [if_pos ht, if_pos ht, set_findIdx_cons_of_neg (p := (·.id == id)) hid]
        · rw [if_neg ht, if_neg ht]
      · rw [if_neg hq, if_neg hq]

theorem filter_eraseP_owns (policies : List TenantPolicy) (owner id tenant : String) :
    (policies.eraseP (owns owner id)).filter (·.tenant == tenant) =
      if owner == tenant then (policies.filter (·.tenant == tenant)).eraseP (·.id == id)
      else policies.filter (·.tenant == tenant) := by
  split
  · rename_i ht
    rw [List.eraseP_filter]
    congr 2
    funext q
    rw [owns, beq_iff_eq.mp ht, Bool.and_comm]
  · rename_i ht
    induction policies with
    | nil => rfl
    | cons q rest ih =>
      by_cases ho : owns owner id q = true
      · have hq : (q.tenant == tenant) = false := by
          rw [owns, Bool.and_eq_true] at ho
          rw [beq_iff_eq.mp ho.1]
          exact Bool.eq_false_iff.mpr ht
        rw [List.eraseP_cons_of_pos ho, List.filter_cons, hq]
        rfl
      · rw [List.eraseP_cons_of_neg ho, List.filter_cons, List.filter_cons, ih]

theorem perform_update (s : Store) (now : Timestamp) (draft : TenantPolicy) :
    s.perform (.update now draft) =
      match (s.list draft.tenant).find? (·.id == draft.id) with
      | some existing => ⟨s.policies.set (s.policies.findIdx (owns draft.tenant draft.id))
        (draft.succeeding existing now)⟩
      | none => s := by
  simp only [perform, update, get_eq]
  cases (s.list draft.tenant).find? (·.id == draft.id) <;> rfl

theorem perform_delete (s : Store) (owner id : String) :
    s.perform (.delete owner id) =
      match (s.list owner).find? (·.id == id) with
      | some _ => ⟨s.policies.eraseP (owns owner id)⟩
      | none => s := by
  simp only [perform, delete, get_eq]
  cases (s.list owner).find? (·.id == id) <;> rfl

/-- **A call concerns the tenant that it names.** -/
theorem list_perform (s : Store) (c : Call) (tenant : String) :
    (s.perform c).list tenant =
      if c.tenant == tenant then c.on (s.list tenant) else s.list tenant := by
  cases c with
  | create id now draft => exact list_create s id now draft tenant
  | update now draft =>
    rw [perform_update, Call.tenant]
    by_cases ht : draft.tenant = tenant
    · subst ht
      rw [if_pos (beq_self_eq_true _), Call.on]
      cases (s.list draft.tenant).find? (·.id == draft.id) with
      | none => rfl
      | some existing =>
        exact (filter_set_owns s.policies draft.id draft.tenant
          (draft.succeeding existing now)).trans (if_pos (beq_self_eq_true _))
    · rw [if_neg (mt beq_iff_eq.mp ht)]
      cases (s.list draft.tenant).find? (·.id == draft.id) with
      | none => rfl
      | some existing =>
        exact (filter_set_owns s.policies draft.id tenant
          (draft.succeeding existing now)).trans (if_neg (mt beq_iff_eq.mp ht))
  | delete owner id =>
    rw [perform_delete, Call.tenant]
    cases hfind : (s.list owner).find? (·.id == id) with
    | none =>
      by_cases ht : owner = tenant
      · subst ht
        rw [if_pos (beq_self_eq_true _), Call.on,
          List.eraseP_of_forall_not (List.find?_eq_none.mp hfind)]
      · rw [if_neg (mt beq_iff_eq.mp ht)]
    | some existing => exact filter_eraseP_owns s.policies owner id tenant

/-- After a run a tenant has the policies that the calls naming it have left. -/
theorem list_run (s : Store) (calls : List Call) (tenant : String) :
    (s.run calls).list tenant =
      (calls.filter (·.tenant == tenant)).foldl (fun own c => c.on own) (s.list tenant) := by
  induction calls generalizing s with
  | nil => rfl
  | cons c rest ih =>
    rw [run, List.foldl_cons, ← run, ih, list_perform, List.filter_cons]
    split <;> rfl

end Store

/-- Without a detector only the scan counts. -/
theorem Firewall.filterOutput_new (s : Store) (mode : OutputMode) (now : Nat)
    (tenant text : String) :
    ((Firewall.new s none mode).filterOutput now tenant text).1 =
      if (Filter.scanLeaks text (s.sensitiveTerms tenant)).hit then
        .block (Filter.scanLeaks text (s.sensitiveTerms tenant)).reason
          (Filter.scanLeaks text (s.sensitiveTerms tenant)).findings
      else .allow := by
  unfold Firewall.filterOutput
  dsimp only [Firewall.new]
  split <;> rfl

/-! ## Policies and calls of two histories -/

variable {rename : String → String} {times : Timestamp → Timestamp → Prop}

/-- What the caller writes of a policy; the rest is set by the store. -/
def TenantPolicy.content (p : TenantPolicy) : TenantPolicy :=
  { p with id := "", modifiedAt := none, version := 0 }

/-- The same policy in two histories, its id renamed and written at corresponding times. -/
structure TenantPolicy.Agrees (rename : String → String) (times : Timestamp → Timestamp → Prop)
    (p q : TenantPolicy) : Prop where
  id : q.id = rename p.id
  modifiedAt : Option.Rel times p.modifiedAt q.modifiedAt
  version : p.version = q.version
  content : p.content = q.content

namespace Store

/-- The same call in two histories. What the store sets by itself may differ in what is handed to
it. -/
inductive Call.Agrees (rename : String → String) (times : Timestamp → Timestamp → Prop) :
    Call → Call → Prop where
  | create {id id' : String} {now now' : Timestamp} {draft draft' : TenantPolicy} :
    id' = rename id → times now now' → draft.content = draft'.content →
      Agrees rename times (.create id now draft) (.create id' now' draft')
  | update {now now' : Timestamp} {draft draft' : TenantPolicy} :
    draft'.id = rename draft.id → times now now' → draft.content = draft'.content →
      Agrees rename times (.update now draft) (.update now' draft')
  | delete {tenant id id' : String} :
    id' = rename id → Agrees rename times (.delete tenant id) (.delete tenant id')

variable {own own' : List TenantPolicy} {s s' : Store} {tenant : String}

theorem agrees_id_beq {p q : TenantPolicy} (hrename : Function.Injective rename)
    (h : p.Agrees rename times q) (id : String) : (q.id == rename id) = (p.id == id) := by
  rw [h.id, Bool.eq_iff_iff, beq_iff_eq, beq_iff_eq]
  exact hrename.eq_iff

theorem find?_agrees (hrename : Function.Injective rename)
    (h : List.Forall₂ (TenantPolicy.Agrees rename times) own own') (id : String) :
    Option.Rel (TenantPolicy.Agrees rename times) (own.find? (·.id == id))
      (own'.find? (·.id == rename id)) := by
  induction h with
  | nil => exact .none
  | cons hpq _ ih =>
    rw [List.find?_cons, List.find?_cons, agrees_id_beq hrename hpq]
    split
    · exact .some hpq
    · exact ih

theorem eraseP_agrees (hrename : Function.Injective rename)
    (h : List.Forall₂ (TenantPolicy.Agrees rename times) own own') (id : String) :
    List.Forall₂ (TenantPolicy.Agrees rename times) (own.eraseP (·.id == id))
      (own'.eraseP (·.id == rename id)) := by
  induction h with
  | nil => exact .nil
  | cons hpq hrest ih =>
    rw [List.eraseP_cons, List.eraseP_cons, agrees_id_beq hrename hpq]
    cases _ == id with
    | true => exact hrest
    | false => exact .cons hpq ih

theorem set_findIdx_agrees {new new' : TenantPolicy} (hrename : Function.Injective rename)
    (hnew : new.Agrees rename times new')
    (h : List.Forall₂ (TenantPolicy.Agrees rename times) own own') (id : String) :
    List.Forall₂ (TenantPolicy.Agrees rename times) (own.set (own.findIdx (·.id == id)) new)
      (own'.set (own'.findIdx (·.id == rename id)) new') := by
  induction h with
  | nil => exact .nil
  | @cons p q _ _ hpq hrest ih =>
    have hsame := agrees_id_beq hrename hpq id
    by_cases hid : (p.id == id) = true
    · rw [set_findIdx_cons_of_pos (p := (·.id == id)) hid,
        set_findIdx_cons_of_pos (p := (·.id == rename id)) (hsame.trans hid)]
      exact .cons hnew hrest
    · rw [set_findIdx_cons_of_neg (p := (·.id == id)) hid,
        set_findIdx_cons_of_neg (p := (·.id == rename id)) (hsame ▸ hid)]
      exact .cons hpq ih

/-- One call in both histories. -/
theorem Call.on_agrees {c c' : Call} (hrename : Function.Injective rename)
    (hc : c.Agrees rename times c')
    (h : List.Forall₂ (TenantPolicy.Agrees rename times) own own') :
    List.Forall₂ (TenantPolicy.Agrees rename times) (c.on own) (c'.on own') := by
  cases hc with
  | create hid htimes hcontent =>
    exact List.rel_append h (.cons ⟨hid, .some htimes, rfl, hcontent⟩ .nil)
  | @update now now' draft draft' hid htimes hcontent =>
    have hfind := find?_agrees hrename h draft.id
    rw [Call.on, Call.on, hid]
    cases hown : own.find? (·.id == draft.id) with
    | none =>
      rw [hown] at hfind
      cases hfind' : own'.find? (·.id == rename draft.id) with
      | none => exact h
      | some existing' =>
        rw [hfind'] at hfind
        cases hfind
    | some existing =>
      rw [hown] at hfind
      cases hfind' : own'.find? (·.id == rename draft.id) with
      | none =>
        rw [hfind'] at hfind
        cases hfind
      | some existing' =>
        rw [hfind'] at hfind
        cases hfind with
        | some hexisting =>
          have hnew : (draft.succeeding existing now).Agrees rename times
              (draft'.succeeding existing' now') :=
            ⟨hid, .some htimes, congrArg (· + 1) hexisting.version, hcontent⟩
          exact set_findIdx_agrees hrename hnew h draft.id
  | delete hid =>
    rw [Call.on, Call.on, hid]
    exact eraseP_agrees hrename h _

theorem foldl_on_agrees {calls calls' : List Call} (hrename : Function.Injective rename)
    (hcalls : List.Forall₂ (Call.Agrees rename times) calls calls')
    (h : List.Forall₂ (TenantPolicy.Agrees rename times) own own') :
    List.Forall₂ (TenantPolicy.Agrees rename times) (calls.foldl (fun own c => c.on own) own)
      (calls'.foldl (fun own c => c.on own) own') := by
  induction hcalls generalizing own own' with
  | nil => exact h
  | cons hc _ ih => exact ih (Call.on_agrees hrename hc h)

/-! ## Answers about a tenant -/

/-- The same policy is found, or none in both. -/
inductive SameFinding (rename : String → String) (times : Timestamp → Timestamp → Prop)
    (id : String) : Except StoreError TenantPolicy → Except StoreError TenantPolicy → Prop where
  | found {p q : TenantPolicy} : p.Agrees rename times q → SameFinding rename times id (.ok p) (.ok q)
  | missing : SameFinding rename times id (.error (.policyNotFound id))
    (.error (.policyNotFound (rename id)))

/-- Two stores that answer every question about a tenant alike. -/
structure SameAnswers (rename : String → String) (times : Timestamp → Timestamp → Prop)
    (tenant : String) (s s' : Store) : Prop where
  list : List.Forall₂ (TenantPolicy.Agrees rename times) (s.list tenant) (s'.list tenant)
  get : ∀ id, SameFinding rename times id (s.get tenant id) (s'.get tenant (rename id))
  prompt : ∀ prompt, s.evaluatePrompt tenant prompt = s'.evaluatePrompt tenant prompt
  tool : ∀ tool, s.allowsTool tenant tool = s'.allowsTool tenant tool
  namespaces : s.namespaces tenant = s'.namespaces tenant
  terms : s.sensitiveTerms tenant = s'.sensitiveTerms tenant
  namespaceCheck : ∀ name,
    Retrieval.checkNamespace s tenant name = Retrieval.checkNamespace s' tenant name
  result : ∀ text, Retrieval.mask s tenant text = Retrieval.mask s' tenant text
  output : ∀ mode now text, ((Firewall.new s none mode).filterOutput now tenant text).1 =
    ((Firewall.new s' none mode).filterOutput now tenant text).1

theorem flatMap_agrees {field : TenantPolicy → List String}
    (hfield : ∀ p : TenantPolicy, field p.content = field p)
    (h : List.Forall₂ (TenantPolicy.Agrees rename times) own own') :
    own.flatMap field = own'.flatMap field := by
  induction h with
  | nil => rfl
  | @cons p q _ _ hpq _ ih =>
    rw [List.flatMap_cons, List.flatMap_cons, ih, ← hfield p, ← hfield q, hpq.content]

theorem get_agrees (hrename : Function.Injective rename)
    (h : List.Forall₂ (TenantPolicy.Agrees rename times) (s.list tenant) (s'.list tenant))
    (id : String) :
    SameFinding rename times id (s.get tenant id) (s'.get tenant (rename id)) := by
  have hfind := find?_agrees hrename h id
  rw [get_eq, get_eq]
  generalize (s.list tenant).find? (·.id == id) = found at hfind ⊢
  generalize (s'.list tenant).find? (·.id == rename id) = found' at hfind ⊢
  cases hfind with
  | none => exact .missing
  | some hpq => exact .found hpq

/-- Nothing but the policies of the tenant counts. -/
theorem sameAnswers_of_list (hrename : Function.Injective rename)
    (h : List.Forall₂ (TenantPolicy.Agrees rename times) (s.list tenant) (s'.list tenant)) :
    SameAnswers rename times tenant s s' := by
  have hrules : s.promptRules tenant = s'.promptRules tenant := flatMap_agrees (fun _ => rfl) h
  have htools : (s.list tenant).flatMap (·.tools) = (s'.list tenant).flatMap (·.tools) :=
    flatMap_agrees (fun _ => rfl) h
  have hspaces : s.namespaces tenant = s'.namespaces tenant :=
    congrArg Text.sortedDistinct (flatMap_agrees (fun _ => rfl) h)
  have hterms : s.sensitiveTerms tenant = s'.sensitiveTerms tenant :=
    congrArg Text.sortedDistinct (flatMap_agrees (fun _ => rfl) h)
  constructor
  case list => exact h
  case get => exact get_agrees hrename h
  case prompt =>
    intro prompt
    rw [evaluatePrompt, evaluatePrompt, hrules]
  case tool =>
    intro tool
    exact allowsTool_congr (fun _ => by rw [htools]) tool
  case namespaces => exact hspaces
  case terms => exact hterms
  case namespaceCheck =>
    intro name
    rw [Retrieval.checkNamespace, Retrieval.checkNamespace, hspaces]
  case result =>
    intro text
    rw [Retrieval.mask, Retrieval.mask, hterms]
  case output =>
    intro mode now text
    rw [Firewall.filterOutput_new, Firewall.filterOutput_new, hterms]

/-- **Tenants are isolated from each other.** Two histories in which the calls that name a tenant
agree up to a renaming of ids leave stores that answer alike about it. It does not matter which calls
name other tenants, where they stand, whose ids they mention and whether they fail. A renaming keeps
different ids apart; that generated ids are new is not needed. -/
theorem tenant_isolated {calls calls' : List Call} (hrename : Function.Injective rename)
    (h : List.Forall₂ (Call.Agrees rename times) (calls.filter (·.tenant == tenant))
      (calls'.filter (·.tenant == tenant))) :
    SameAnswers rename times tenant (({} : Store).run calls) (({} : Store).run calls') := by
  apply sameAnswers_of_list hrename
  rw [list_run, list_run]
  exact foldl_on_agrees hrename h .nil

/-- Calls of two tenants, each of which also tries an id of the other. -/
def mixedCalls : List Call := [
  .create "g1" ⟨0, 0, 0⟩ { tenant := "globex", tools := ["search"] },
  .create "a1" ⟨0, 1, 0⟩ { tenant := "acme", promptRules := ["salary"] },
  .delete "globex" "a1",
  .delete "acme" "g1",
  .update ⟨0, 2, 0⟩ { id := "g1", tenant := "globex", sensitiveTerms := ["merger"] },
  .update ⟨0, 3, 0⟩ { id := "a1", tenant := "acme", promptRules := ["bonus"] }]

/-- The calls of the one tenant alone, on another day and with another id. -/
def lonelyCalls : List Call := [
  .create "a2" ⟨7, 0, 0⟩ { tenant := "acme", promptRules := ["salary"] },
  .delete "acme" "g1",
  .update ⟨7, 0, 0⟩ { id := "a2", tenant := "acme", promptRules := ["bonus"] }]

theorem mixed_lonely_sameAnswers :
    (({} : Store).run mixedCalls).promptRules "acme" = ["bonus"] ∧
      (({} : Store).run mixedCalls).sensitiveTerms "globex" = ["merger"] ∧
      Function.Injective (Equiv.swap "a1" "a2") ∧
      List.Forall₂ (Call.Agrees (Equiv.swap "a1" "a2") fun t t' => t.day ≤ t'.day)
        (mixedCalls.filter (·.tenant == "acme")) (lonelyCalls.filter (·.tenant == "acme")) ∧
      SameAnswers (Equiv.swap "a1" "a2") (fun t t' => t.day ≤ t'.day) "acme"
        (({} : Store).run mixedCalls) (({} : Store).run lonelyCalls) := by
  have hcalls : List.Forall₂ (Call.Agrees (Equiv.swap "a1" "a2") fun t t' => t.day ≤ t'.day)
      (mixedCalls.filter (·.tenant == "acme")) (lonelyCalls.filter (·.tenant == "acme")) :=
    .cons (.create (by decide) (by decide) (by decide))
      (.cons (.delete (by decide)) (.cons (.update (by decide) (by decide) (by decide)) .nil))
  have hrename : Function.Injective (Equiv.swap "a1" "a2") := (Equiv.swap "a1" "a2").injective
  exact ⟨by decide +kernel, by decide +kernel, hrename, hcalls, tenant_isolated hrename hcalls⟩

end Store
end Guardrail
