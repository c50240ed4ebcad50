import Guardrail.Proofs.Agent.Gates

/-! # Runs and the prompt rules of a tenant

A run asks the store which tools a tenant may use and which terms are sensitive, and it checks the
prompt by itself. So the rules of the tenant have no influence on it (`plan_withStore`): of the
prompts that a check blocks, a run refuses only those that contain the injection phrase. -/

namespace Guardrail

/-- The store with no prompt rules in any policy. -/
def Store.withoutRules (s : Store) : Store := ⟨s.policies.map fun p => { p with promptRules := [] }⟩

theorem Store.list_withoutRules (s : Store) (tenant : String) :
    s.withoutRules.list tenant = (s.list tenant).map fun p => { p with promptRules := [] } := by
  rw [Store.list, Store.list, Store.withoutRules, List.filter_map]
  rfl

theorem Store.allowsTool_withoutRules (s : Store) (tenant tool : String) :
    s.withoutRules.allowsTool tenant tool = s.allowsTool tenant tool :=
  Store.allowsTool_congr (fun _ => by rw [Store.list_withoutRules, List.flatMap_map]) tool

theorem Store.sensitiveTerms_withoutRules (s : Store) (tenant : String) :
    s.withoutRules.sensitiveTerms tenant = s.sensitiveTerms tenant := by
  rw [Store.sensitiveTerms, Store.sensitiveTerms, Store.list_withoutRules, List.flatMap_map]

def Firewall.withStore (f : Firewall) (s : Store) : Firewall := { f with store := s }

theorem Firewall.filterOutput_withStore {f : Firewall} {s : Store} {tenant : String}
    (h : s.sensitiveTerms tenant = f.store.sensitiveTerms tenant) (now : Nat) (output : String) :
    (f.withStore s).filterOutput now tenant output =
      ((f.filterOutput now tenant output).1, (f.filterOutput now tenant output).2.withStore s) := by
  obtain ⟨store, detector, mode⟩ := f
  simp only [Firewall.filterOutput, Firewall.withStore, h]
  split
  · rfl
  · cases detector <;> rfl

theorem Firewall.filterOutput_store (f : Firewall) (now : Nat) (tenant output : String) :
    (f.filterOutput now tenant output).2.store = f.store := by
  unfold Firewall.filterOutput
  dsimp only
  split
  · rfl
  · split <;> rfl

namespace Agent.Gateway

variable {g : Gateway} {s : Store} {req : PlanRequest}

/-! ## The same gateway over another store -/

def withStore (g : Gateway) (s : Store) : Gateway :=
  { g with firewall := g.firewall.withStore s }

@[simp] theorem withStore_now : (g.withStore s).now = g.now := rfl

@[simp] theorem withStore_firewall : (g.withStore s).firewall = g.firewall.withStore s := rfl

@[simp] theorem withStore_sandbox : (g.withStore s).sandbox = g.sandbox := rfl

@[simp] theorem withStore_metrics : (g.withStore s).metrics = g.metrics := rfl

@[simp] theorem withStore_toolDelay (left : Nat) :
    (g.withStore s).toolDelay left = g.toolDelay left := rfl

@[simp] theorem withStore_termsDelay : (g.withStore s).termsDelay = g.termsDelay := rfl

theorem advance_withStore (target : Nat) :
    (g.withStore s).advance target = (g.advance target).withStore s := rfl

theorem startTask_withStore (run : Nat) (t : Tool) (args : Json) :
    (g.withStore s).startTask run t args = (g.startTask run t args).withStore s := rfl

theorem occupy_withStore (ticks : Nat) :
    (g.withStore s).occupy ticks = (g.occupy ticks).withStore s := rfl

theorem execute_withStore (g : Gateway) (s : Store) (ctx : RunContext) (tool : String)
    (args : Json) :
    (g.withStore s).execute ctx tool args =
      ((g.execute ctx tool args).1.withStore s, (g.execute ctx tool args).2) := by
  have hadm : (g.withStore s).admission tool args = g.admission tool args := rfl
  have hlimit : (g.withStore s).giveUpAt ctx = g.giveUpAt ctx := rfl
  unfold execute
  rw [hadm]
  cases g.admission tool args with
  | error f => rfl
  | ok t =>
    dsimp only
    rw [hlimit, withStore_now, startTask_withStore, advance_withStore, advance_withStore]
    have htime : (g.withStore s).inTime (g.now + (t.behave args).duration) (g.giveUpAt ctx) =
      g.inTime (g.now + (t.behave args).duration) (g.giveUpAt ctx) := rfl
    rw [htime]
    by_cases hin : g.inTime (g.now + (t.behave args).duration) (g.giveUpAt ctx) = true
    · rw [if_pos hin, if_pos hin]
    · rw [if_neg hin, if_neg hin]
      by_cases hc : ctx.isCancelled (g.giveUpAt ctx) = true
      · rw [if_pos hc, if_pos hc]
        rfl
      · rw [if_neg hc, if_neg hc]

theorem execute_store (g : Gateway) (ctx : RunContext) (tool : String) (args : Json) :
    (g.execute ctx tool args).1.firewall.store = g.firewall.store := by
  simp only [execute]
  cases g.admission tool args with
  | error f => rfl
  | ok t =>
    dsimp only
    split
    · rfl
    · split <;> rfl

theorem filterOutput_withStore {tenant : String}
    (h : s.sensitiveTerms tenant = g.firewall.store.sensitiveTerms tenant) (output : String) :
    (g.withStore s).filterOutput tenant output =
      ((g.filterOutput tenant output).1, (g.filterOutput tenant output).2.withStore s) := by
  have hf : s.sensitiveTerms tenant =
    (g.occupy g.termsDelay).firewall.store.sensitiveTerms tenant := h
  have happ := Firewall.filterOutput_withStore hf (g.occupy g.termsDelay).now output
  unfold filterOutput
  dsimp only
  rw [withStore_termsDelay, occupy_withStore, withStore_now, withStore_firewall, happ]
  rfl

theorem filterOutput_store (g : Gateway) (tenant output : String) :
    (g.filterOutput tenant output).2.firewall.store = g.firewall.store :=
  Firewall.filterOutput_store ..

/-! ## Runs -/

theorem checkTools_withStore {tenant : String}
    (h : ∀ tool, s.allowsTool tenant tool = g.firewall.store.allowsTool tenant tool)
    (tools : List String) :
    (g.withStore s).checkTools tenant tools =
      ((g.checkTools tenant tools).1.withStore s, (g.checkTools tenant tools).2) := by
  induction tools generalizing g with
  | nil => rfl
  | cons tool rest ih =>
    have hrest := ih (g := g.occupy (g.toolDelay rest.length)) h
    have htool : ((g.occupy (g.toolDelay rest.length)).firewall.withStore s).store.allowsTool
        tenant tool =
      (g.occupy (g.toolDelay rest.length)).firewall.store.allowsTool tenant tool := h tool
    unfold checkTools
    dsimp only
    rw [withStore_toolDelay, occupy_withStore, withStore_firewall, withStore_sandbox, hrest, htool]
    split
    · rfl
    · cases (g.occupy (g.toolDelay rest.length)).sandbox.check tool <;> rfl

theorem runSteps_withStore (ctx : RunContext) (limit : Nat) (tools : List String) :
    ∀ {g : Gateway} {index : Nat},
      s.sensitiveTerms req.tenant = g.firewall.store.sensitiveTerms req.tenant →
        (g.withStore s).runSteps ctx req limit index tools =
          ((g.runSteps ctx req limit index tools).1.withStore s,
            (g.runSteps ctx req limit index tools).2) := by
  induction tools with
  | nil =>
    intro g index h
    unfold runSteps
    rw [withStore_now]
    split
    · rfl
    · split <;> rfl
  | cons tool rest ih =>
    intro g index h
    have hstore := execute_store g ctx tool (toolArguments req index)
    unfold runSteps
    dsimp only
    rw [withStore_now, execute_withStore]
    by_cases hlimit : limit ≤ index
    · rw [if_pos hlimit, if_pos hlimit]
    rw [if_neg hlimit, if_neg hlimit]
    by_cases hexpired : ctx.isExpired g.now = true
    · rw [if_pos hexpired, if_pos hexpired]
    rw [if_neg hexpired, if_neg hexpired]
    dsimp only
    generalize g.execute ctx tool (toolArguments req index) = out at hstore ⊢
    obtain ⟨g₁, result⟩ := out
    cases result with
    | error f => rfl
    | ok v =>
      -- neither the call nor the screening touches the store, so the rest runs under `h` again
      have hterms : s.sensitiveTerms req.tenant = g₁.firewall.store.sensitiveTerms req.tenant := by
        rw [hstore, h]
      have hnext (output : String) : s.sensitiveTerms req.tenant =
          (g₁.filterOutput req.tenant output).2.firewall.store.sensitiveTerms req.tenant := by
        rw [filterOutput_store, hterms]
      dsimp only
      rw [withStore_now, filterOutput_withStore hterms, ih (hnext _)]
      by_cases hfinish : tool = finishAction
      · rw [if_pos hfinish, if_pos hfinish]
      rw [if_neg hfinish, if_neg hfinish]
      dsimp only
      split <;> rfl

theorem runGuarded_withStore (ctx : RunContext) (htools : ∀ tool,
      s.allowsTool req.tenant tool = g.firewall.store.allowsTool req.tenant tool)
    (hterms : s.sensitiveTerms req.tenant = g.firewall.store.sensitiveTerms req.tenant) :
    (g.withStore s).runGuarded ctx req =
      ((g.runGuarded ctx req).1.withStore s, (g.runGuarded ctx req).2) := by
  have hgates : (g.withStore s).checkGates req =
      ((g.checkGates req).1.withStore s, (g.checkGates req).2) := by
    unfold checkGates
    dsimp only
    rw [checkTools_withStore htools]
    split <;> rfl
  have he := checkGates_eq g req
  generalize g.gateTime req = ticks at he
  have hsteps (limit : Nat) : ((g.occupy ticks).withStore s).runSteps ctx req limit 0 req.tools = _ :=
    runSteps_withStore ctx limit req.tools hterms
  unfold runGuarded
  rw [hgates, he]
  cases (Gate.all req).findSome? (Gate.refusal? g req) with
  | some stop => rfl
  | none => exact hsteps _

/-- A run over a store that gives the same answers about tools and sensitive terms is the same
run. -/
theorem plan_withStore (htools : ∀ tool,
      s.allowsTool req.tenant tool = g.firewall.store.allowsTool req.tenant tool)
    (hterms : s.sensitiveTerms req.tenant = g.firewall.store.sensitiveTerms req.tenant) :
    (g.withStore s).plan req = ((g.plan req).1.withStore s, (g.plan req).2) := by
  have hrun : ({ g with runs := g.runs + 1 }.withStore s).runGuarded (g.contextFor req) req = _ :=
    runGuarded_withStore (g.contextFor req) htools hterms
  have hbegin : { g.withStore s with runs := (g.withStore s).runs + 1 } =
    { g with runs := g.runs + 1 }.withStore s := rfl
  have hctx : (g.withStore s).contextFor req = g.contextFor req := rfl
  unfold plan
  dsimp only
  rw [hbegin, hctx, hrun]
  generalize { g with runs := g.runs + 1 }.runGuarded (g.contextFor req) req = out
  obtain ⟨g', steps, stop⟩ := out
  dsimp only
  rw [withStore_metrics, withStore_now, withStore_now]
  rfl

theorem plan_withoutRules (g : Gateway) (req : PlanRequest) :
    (g.withStore g.firewall.store.withoutRules).plan req =
      ((g.plan req).1.withStore g.firewall.store.withoutRules, (g.plan req).2) :=
  plan_withStore (Store.allowsTool_withoutRules _ _) (Store.sensitiveTerms_withoutRules _ _)

/-! ## Prompts that a check blocks -/

/-- The run ends with an error and has started nothing. -/
def Refuses (g : Gateway) (req : PlanRequest) : Prop :=
  (g.plan req).1.starts = g.starts ∧ ∃ e, (g.plan req).2 = .error e

theorem refuses_of_phrase (h : (Filter.checkPrompt req.prompt []).allowed = false) :
    g.Refuses req := by
  have hstop : (Gate.all req).findSome? (Gate.refusal? g req) = some ⟨⟨.promptRejected,
      (Filter.checkPrompt req.prompt []).reason, (Filter.checkPrompt req.prompt []).signals⟩,
      0⟩ := by
    rw [Gate.all, List.findSome?_cons]
    simp [Gate.refusal?, h]
  obtain ⟨hs, time, hr⟩ := plan_of_refusal hstop
  exact ⟨hs, _, hr⟩

/-- Without tools a run that has time left has nothing to fail at. -/
theorem plan_without_tools (ht : req.tools = []) (hpos : req.timeout ≠ 0)
    (h : (Filter.checkPrompt req.prompt []).allowed = true) :
    ∃ report, (g.plan req).2 = .ok report := by
  have hgates : { g with runs := g.runs + 1 }.checkGates req =
      ({ g with runs := g.runs + 1 }, none) := by
    unfold checkGates
    dsimp only
    rw [if_pos h, ht]
    rfl
  have hleft : (g.contextFor req).isExpired g.now = false := by
    have hdeadline : (g.contextFor req).deadline = g.now + req.timeout := by
      rw [contextFor, timeLimit, if_neg hpos]
    have hopen : (g.contextFor req).isCancelled g.now = false := rfl
    rw [RunContext.isExpired, hopen, hdeadline, Bool.false_or, decide_eq_false_iff_not]
    omega
  have hsteps (limit : Nat) : ∃ steps,
      { g with runs := g.runs + 1 }.runSteps (g.contextFor req) req limit 0 [] =
        ({ g with runs := g.runs + 1 }, steps, none) := by
    unfold runSteps
    dsimp only
    rw [hleft]
    split
    · exact ⟨_, rfl⟩
    · exact ⟨_, rfl⟩
  obtain ⟨steps, hs⟩ := hsteps (g.iterationLimit req)
  have hrun : { g with runs := g.runs + 1 }.runGuarded (g.contextFor req) req =
      ({ g with runs := g.runs + 1 }, steps, none) := by
    unfold runGuarded
    rw [hgates]
    dsimp only
    rw [ht]
    exact hs
  unfold plan
  dsimp only
  rw [hrun]
  exact ⟨_, rfl⟩

theorem checkPrompt_reason_iff {tenant prompt : String} :
    (s.checkPrompt tenant prompt []).reason = "prompt_injection_detected" ↔
      (Filter.checkPrompt prompt []).allowed = false := by
  unfold Store.checkPrompt Filter.checkPrompt Store.evaluatePrompt
  by_cases hphrase : Text.contains (Text.lower prompt) Filter.injectionPhrase = true
  · rw [if_pos hphrase]
    exact ⟨fun _ => rfl, fun _ => rfl⟩
  · rw [if_neg hphrase]
    have hnone : Text.firstMentioned prompt [] = none := rfl
    rw [hnone]
    cases Text.firstMentioned prompt (s.promptRules tenant) <;> simp [Verdict.allow, Verdict.block]

/-- **Of the prompts that a check blocks, runs refuse those with the injection phrase and no
others.** Where a rule of the tenant blocks a prompt, every run goes as it does without any rules,
and there are requests with this prompt that complete. -/
theorem prompt_refused_iff_phrase (g : Gateway) (tenant prompt : String) :
    ((∀ req : PlanRequest, req.tenant = tenant → req.prompt = prompt → g.Refuses req) ↔
      (g.firewall.store.checkPrompt tenant prompt []).reason = "prompt_injection_detected") ∧
    ∀ req : PlanRequest, (g.withStore g.firewall.store.withoutRules).plan req =
      ((g.plan req).1.withStore g.firewall.store.withoutRules, (g.plan req).2) := by
  refine ⟨?_, plan_withoutRules g⟩
  rw [checkPrompt_reason_iff]
  constructor
  · intro hall
    cases hpasses : (Filter.checkPrompt prompt []).allowed with
    | false => rfl
    | true =>
      let req : PlanRequest := { tenant, prompt, timeout := 1 }
      obtain ⟨-, e, he⟩ := hall req rfl rfl
      obtain ⟨report, hr⟩ : ∃ report, (g.plan req).2 = .ok report :=
        plan_without_tools rfl Nat.one_ne_zero hpasses
      rw [hr] at he
      cases he
  · rintro hblocked req rfl rfl
    exact refuses_of_phrase hblocked

/-- A gateway for a tenant with one rule, and a request that breaks it. -/
def ruled : Gateway where
  firewall := .new ⟨[{ tenant := "acme", promptRules := ["salary"] }]⟩ none .mark
  registry := ({} : Registry).register (.idle "search" "")

def ruledRequest : PlanRequest where
  tenant := "acme"
  prompt := "what is the CEO salary?"
  tools := ["search"]

theorem ruled_prompt_not_refused :
    (ruled.firewall.store.checkPrompt "acme" "what is the CEO salary?" []).allowed = false ∧
      ¬ ∀ req : PlanRequest, req.tenant = "acme" → req.prompt = "what is the CEO salary?" →
        ruled.Refuses req :=
  ⟨by decide +kernel, fun hall => absurd
    ((prompt_refused_iff_phrase ruled "acme" "what is the CEO salary?").1.mp hall)
    (by decide +kernel)⟩

theorem ruled_plan_completes :
    (ruled.firewall.store.checkPrompt ruledRequest.tenant ruledRequest.prompt []).allowed = false ∧
      (ruled.plan ruledRequest).2.toOption.map (·.allowed) = some true ∧
      (ruled.plan ruledRequest).1.starts.map (·.tool) = ["search"] := by
  decide +kernel

end Agent.Gateway
end Guardrail
