import Guardrail.Proofs.Agent.History

/-! The gates of a run. They are passed in a fixed order and before anything else, so the first one
that refuses decides how the run ends, and no tool has been started by then. -/

namespace Guardrail.Agent

inductive Gate where
  | prompt
  | policy (tool : String)
  | sandbox (tool : String)

namespace Gate

/-- All gates of a request: those of every tool, also of tools that the run will not come to. -/
def all (req : PlanRequest) : List Gate :=
  .prompt :: req.tools.flatMap fun tool => [.policy tool, .sandbox tool]

/-- How a gate that does not let the request pass ends the run. -/
def refusal? (g : Gateway) (req : PlanRequest) : Gate → Option Gateway.Stop
  | .prompt =>
    let v := Filter.checkPrompt req.prompt []
    if v.allowed then none else some ⟨⟨.promptRejected, v.reason, v.signals⟩, 0⟩
  | .policy tool =>
    if g.firewall.store.allowsTool req.tenant tool then none
    else some ⟨⟨.toolBlockedByPolicy, "tool_not_allowed", [tool]⟩, 0⟩
  | .sandbox tool =>
    match g.sandbox.check tool with
    | .ok () => none
    | .error f => some ⟨⟨f, "tool_sandbox_rejected", [tool, f.message]⟩, 0⟩

/-- The prompt and every tool of the request get through. -/
def Passed (g : Gateway) (req : PlanRequest) : Prop :=
  (Filter.checkPrompt req.prompt []).allowed = true ∧
    ∀ tool ∈ req.tools, g.firewall.store.allowsTool req.tenant tool = true ∧
      g.sandbox.check tool = .ok ()

end Gate

namespace Gateway

variable {g : Gateway} {req : PlanRequest}

/-- Ticks for the questions about these tools, up to the first one that a gate refuses. -/
def questionTime (g : Gateway) (tenant : String) : List String → Nat
  | [] => 0
  | tool :: rest => g.toolDelay rest.length +
      if g.firewall.store.allowsTool tenant tool && (g.sandbox.check tool).isOk then
        g.questionTime tenant rest
      else 0

/-- Ticks that a request spends at the gates; the prompt is looked at in no time. -/
def gateTime (g : Gateway) (req : PlanRequest) : Nat :=
  if (Filter.checkPrompt req.prompt []).allowed then g.questionTime req.tenant req.tools else 0

theorem questionTime_occupy (g : Gateway) (ticks : Nat) (tenant : String) (tools : List String) :
    (g.occupy ticks).questionTime tenant tools = g.questionTime tenant tools := by
  induction tools with
  | nil => rfl
  | cons tool rest ih =>
    rw [questionTime, ih]
    rfl

/-- Passing the tools' gates takes time and nothing else. -/
theorem checkTools_eq (req : PlanRequest) (tools : List String) : ∀ g : Gateway,
    g.checkTools req.tenant tools = (g.occupy (g.questionTime req.tenant tools),
      (tools.flatMap fun tool => [.policy tool, .sandbox tool]).findSome?
        (Gate.refusal? g req)) := by
  induction tools with
  | nil => exact fun g => rfl
  | cons tool rest ih =>
    intro g
    have hlater : (g.occupy (g.toolDelay rest.length)).questionTime req.tenant rest =
        g.questionTime req.tenant rest := questionTime_occupy ..
    unfold checkTools
    simp only [List.flatMap_cons, List.cons_append, List.nil_append, List.findSome?_cons,
      Gate.refusal?, questionTime]
    by_cases hp : g.firewall.store.allowsTool req.tenant tool = true
    · cases hs : g.sandbox.check tool with
      | error f => simp [occupy, hp, hs, Except.isOk, Except.toBool]
      | ok u =>
        have he := ih (g.occupy (g.toolDelay rest.length))
        rw [hlater] at he
        simp only [occupy, hp, hs, Bool.not_true, Bool.false_eq_true, if_false,
          Nat.add_assoc] at he ⊢
        exact he
    · simp [occupy, hp]

theorem checkGates_eq (g : Gateway) (req : PlanRequest) :
    g.checkGates req =
      (g.occupy (g.gateTime req), (Gate.all req).findSome? (Gate.refusal? g req)) := by
  unfold checkGates Gate.all gateTime
  simp only [List.findSome?_cons, Gate.refusal?]
  by_cases hv : (Filter.checkPrompt req.prompt []).allowed = true
  · simp only [hv, if_true, checkTools_eq]
  · simp [hv, occupy]

theorem refusal?_prompt_eq_none :
    Gate.refusal? g req .prompt = none ↔ (Filter.checkPrompt req.prompt []).allowed = true := by
  simp only [Gate.refusal?]
  split <;> simp_all

theorem refusal?_policy_eq_none {tool : String} :
    Gate.refusal? g req (.policy tool) = none ↔
      g.firewall.store.allowsTool req.tenant tool = true := by
  simp only [Gate.refusal?]
  split <;> simp_all

theorem refusal?_sandbox_eq_none {tool : String} :
    Gate.refusal? g req (.sandbox tool) = none ↔ g.sandbox.check tool = .ok () := by
  simp only [Gate.refusal?]
  split <;> simp_all

theorem passed_iff :
    Gate.Passed g req ↔ (Gate.all req).findSome? (Gate.refusal? g req) = none := by
  rw [List.findSome?_eq_none_iff, Gate.all, List.forall_mem_cons, refusal?_prompt_eq_none,
    List.forall_mem_flatMap, Gate.Passed]
  refine and_congr_right fun _ => forall₂_congr fun tool _ => ?_
  rw [List.forall_mem_cons, List.forall_mem_singleton, refusal?_policy_eq_none,
    refusal?_sandbox_eq_none]

/-- A run that a gate refuses has no steps and starts nothing. -/
theorem plan_of_refusal {stop : Stop}
    (h : (Gate.all req).findSome? (Gate.refusal? g req) = some stop) :
    (g.plan req).1.starts = g.starts ∧
      ∃ time, (g.plan req).2 = .error ⟨stop.fault, reportOf time [] (some stop)⟩ := by
  have he := checkGates_eq { g with runs := g.runs + 1 } req
  have hr : Gate.refusal? { g with runs := g.runs + 1 } req = Gate.refusal? g req := by
    funext gate
    cases gate <;> rfl
  rw [hr, h] at he
  simp only [plan, runGuarded, he]
  exact ⟨starts_cancelRun _ _, _, rfl⟩

/-- **A run starts nothing unless every gate lets the request pass.** If one does not, the run ends
with the error of the first gate that refuses, with its reason and signals and without a step. -/
theorem plan_passed_or_refused (g : Gateway) (req : PlanRequest) :
    Gate.Passed g req ∨
      ∃ stop report, (Gate.all req).findSome? (Gate.refusal? g req) = some stop ∧
        (g.plan req).1.starts = g.starts ∧ (g.plan req).2 = .error ⟨stop.fault, report⟩ ∧
        report.allowed = false ∧ report.steps = [] ∧
        report.reason = stop.reason ∧ report.signals = stop.signals := by
  cases h : (Gate.all req).findSome? (Gate.refusal? g req) with
  | none => exact .inl (passed_iff.mpr h)
  | some stop =>
    obtain ⟨hs, time, hr⟩ := plan_of_refusal h
    exact .inr ⟨stop, _, rfl, hs, hr, rfl, rfl, rfl, rfl⟩

end Gateway
end Guardrail.Agent
