import Guardrail.Failure
import Guardrail.Tenant.Policy
import Guardrail.Text.Search
import Guardrail.Verdict

/-! The policies of all tenants, one table in the order of creation. A policy is found by its tenant
and its id together, so no operation on one tenant reads or writes another's policies. The store
sets the id of a new policy, and the time and version of every policy it writes. -/

namespace Guardrail

inductive StoreError where
  | policyNotFound (id : String)
  deriving DecidableEq

namespace StoreError

def message : StoreError → String
  | policyNotFound id => "policy not found: " ++ id

def failure (e : StoreError) : Failure := ⟨.policy, e.message⟩

end StoreError

structure Store where
  policies : List TenantPolicy := []

namespace Store

def owns (tenant id : String) (p : TenantPolicy) : Bool := p.tenant == tenant && p.id == id

/-- The policies of a tenant in the order of their creation. -/
def list (s : Store) (tenant : String) : List TenantPolicy :=
  s.policies.filter (·.tenant == tenant)

def get (s : Store) (tenant id : String) : Except StoreError TenantPolicy :=
  match s.policies.find? (owns tenant id) with
  | some p => .ok p
  | none => .error (.policyNotFound id)

/-- A new policy at the end of the table, under an id that is not in use. -/
def create (s : Store) (id : String) (now : Timestamp) (p : TenantPolicy) : Store × TenantPolicy :=
  let created := { p with id, modifiedAt := some now, version := 1 }
  (⟨s.policies ++ [created]⟩, created)

/-- The policy takes the place of the one with its tenant and id, one version later. -/
def update (s : Store) (now : Timestamp) (p : TenantPolicy) :
    Except StoreError (Store × TenantPolicy) := do
  let existing ← s.get p.tenant p.id
  let updated := { p with modifiedAt := some now, version := existing.version + 1 }
  return (⟨s.policies.set (s.policies.findIdx (owns p.tenant p.id)) updated⟩, updated)

def delete (s : Store) (tenant id : String) : Except StoreError Store := do
  let _ ← s.get tenant id
  return ⟨s.policies.eraseP (owns tenant id)⟩

/-- The prompt rules of a tenant, policy by policy. -/
def promptRules (s : Store) (tenant : String) : List String :=
  (s.list tenant).flatMap (·.promptRules)

/-- The first rule that the prompt mentions blocks it. -/
def evaluatePrompt (s : Store) (tenant prompt : String) : Verdict :=
  match Text.firstMentioned prompt (s.promptRules tenant) with
  | some rule => .block "blocked_by_prompt_rule" [rule]
  | none => .allow

/-- The first of the policies that lists the tool allows it. It is `restricted` once a policy that
does not list it has a tool list. -/
def allowsToolAfter (tool : String) (restricted : Bool) : List TenantPolicy → Bool
  | [] => !restricted
  | p :: rest =>
    if p.tools.isEmpty then allowsToolAfter tool restricted rest
    else if p.tools.contains tool then true
    else allowsToolAfter tool true rest

/-- Without a tool list anywhere every tool is allowed, else those on one of the lists. -/
def allowsTool (s : Store) (tenant tool : String) : Bool :=
  allowsToolAfter tool false (s.list tenant)

def namespaces (s : Store) (tenant : String) : List String :=
  Text.sortedDistinct ((s.list tenant).flatMap (·.namespaces))

def sensitiveTerms (s : Store) (tenant : String) : List String :=
  Text.sortedDistinct ((s.list tenant).flatMap (·.sensitiveTerms))

theorem allowsToolAfter_iff (tool : String) (policies : List TenantPolicy) : ∀ restricted,
    allowsToolAfter tool restricted policies = true ↔
      (restricted = false ∧ ∀ p ∈ policies, p.tools = []) ∨ ∃ p ∈ policies, tool ∈ p.tools := by
  induction policies with
  | nil =>
    intro restricted
    simp [allowsToolAfter]
  | cons p rest ih =>
    intro restricted
    rw [allowsToolAfter]
    split
    · rename_i hempty
      have hp : p.tools = [] := List.isEmpty_iff.mp hempty
      simp [ih, hp]
    · rename_i hlisted
      have hp : p.tools ≠ [] := fun h => hlisted (List.isEmpty_iff.mpr h)
      split
      · rename_i hfound
        have htool : tool ∈ p.tools := List.contains_iff_mem.mp hfound
        simp [htool]
      · rename_i hmissing
        have htool : tool ∉ p.tools := fun h => hmissing (List.contains_iff_mem.mpr h)
        simp [ih, hp, htool]

theorem allowsTool_iff (s : Store) (tenant tool : String) :
    s.allowsTool tenant tool = true ↔
      (∀ p ∈ s.list tenant, p.tools = []) ∨ ∃ p ∈ s.list tenant, tool ∈ p.tools := by
  rw [allowsTool, allowsToolAfter_iff]
  simp only [true_and]

/-- Only the tools that are listed count, not where they are. -/
theorem allowsTool_congr {s s' : Store} {tenant tenant' : String}
    (h : ∀ tool, tool ∈ (s.list tenant).flatMap (·.tools) ↔
      tool ∈ (s'.list tenant').flatMap (·.tools)) (tool : String) :
    s.allowsTool tenant tool = s'.allowsTool tenant' tool := by
  have hnone : (s.list tenant).flatMap (·.tools) = [] ↔
      (s'.list tenant').flatMap (·.tools) = [] := by
    simp only [List.eq_nil_iff_forall_not_mem, h]
  rw [Bool.eq_iff_iff, allowsTool_iff, allowsTool_iff, ← List.mem_flatMap, ← List.mem_flatMap, h,
    ← List.flatMap_eq_nil_iff, ← List.flatMap_eq_nil_iff, hnone]

end Store
end Guardrail
