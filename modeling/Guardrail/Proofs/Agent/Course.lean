import Guardrail.Proofs.Agent.Gates

/-! # The course of a run

A tool call, the steps of a run and a run as a whole have many ways out. Each of the three is told
once as a relation with a constructor for every way (`Called`, `Course`, `Ran`), and what holds of
all runs is proved by induction on the second. The contexts here are those of runs, which nobody
cancels before their end. -/

namespace Guardrail.Agent.Gateway

variable {g g' : Gateway} {ctx : RunContext} {req : PlanRequest} {tool : String} {args : Json}

/-! ## One tool call -/

/-- What a tool call leads to. -/
inductive Called (g : Gateway) (ctx : RunContext) (tool : String) (args : Json) :
    Gateway → Except Fault Json → Prop
  /-- The tool is not started. -/
  | refused {f : Fault} (hadm : g.admission tool args = .error f) :
      Called g ctx tool args g (.error f)
  /-- The tool ends while it is waited for. -/
  | ended {t : Tool} (hadm : g.admission tool args = .ok t)
      (hin : g.inTime (g.now + (t.behave args).duration) (g.giveUpAt ctx) = true) :
      Called g ctx tool args
        ((g.startTask ctx.run t args).advance (g.now + (t.behave args).duration))
        (Ending.result tool (t.behave args).ending)
  /-- The tool is given up. -/
  | givenUp {t : Tool} (hadm : g.admission tool args = .ok t)
      (hout : g.inTime (g.now + (t.behave args).duration) (g.giveUpAt ctx) = false) :
      Called g ctx tool args ((g.startTask ctx.run t args).advance (g.giveUpAt ctx))
        (.error .timeout)

theorem called_execute (hctx : ctx.cancelAt = none) (g : Gateway) (tool : String) (args : Json) :
    Called g ctx tool args (g.execute ctx tool args).1 (g.execute ctx tool args).2 := by
  unfold execute
  cases hadm : g.admission tool args with
  | error f => exact .refused hadm
  | ok t =>
    dsimp only
    have hnever : ctx.isCancelled (g.giveUpAt ctx) = false := by
      simp [RunContext.isCancelled, hctx]
    cases hin : g.inTime (g.now + (t.behave args).duration) (g.giveUpAt ctx) with
    | true => exact .ended hadm hin
    | false =>
      simp only [hnever, Bool.false_eq_true, if_false]
      exact .givenUp hadm hin

theorem sandbox_fault {s : Sandbox} {tool : String} {f : Fault} (h : s.check tool = .error f) :
    f = .toolNotAllowed := by
  unfold Sandbox.check at h
  split at h
  · cases h
    rfl
  · cases h

theorem admission_error {f : Fault} (h : g.admission tool args = .error f)
    (hs : g.sandbox.check tool = .ok ()) :
    (f = .executorNotFound tool ∧ g.registry.get? tool = none) ∨
      (f = .memoryLimit ∧ g.sandbox.memoryLimit < args.compact.utf8ByteSize) := by
  unfold admission at h
  rw [hs] at h
  simp only [bind, Except.bind] at h
  split at h
  · rename_i hnone
    cases h
    exact .inl ⟨rfl, hnone⟩
  · split at h
    · rename_i hm
      cases h
      exact .inr ⟨rfl, hm⟩
    · cases h

/-- A tool call changes the clock, the tasks, their journal and what happens by itself. -/
theorem Called.frame {result : Except Fault Json} (h : Called g ctx tool args g' result) :
    g'.registry = g.registry ∧ g'.sandbox = g.sandbox ∧ g'.runs = g.runs ∧
      g'.cancellations = g.cancellations ∧ g'.firewall.store = g.firewall.store ∧
      g.now ≤ g'.now := by
  cases h with
  | refused => exact ⟨rfl, rfl, rfl, rfl, rfl, Nat.le_refl _⟩
  | ended => exact ⟨rfl, rfl, rfl, rfl, rfl, Nat.le_add_right ..⟩
  | givenUp => exact ⟨rfl, rfl, rfl, rfl, rfl, Nat.le_max_left ..⟩

/-- A call that answers a value has started the tool of that name, and the value is the tool's. -/
theorem Called.ok {v : Json} (h : Called g ctx tool args g' (.ok v)) :
    Start.Answers g.registry ⟨ctx.run, tool, args⟩ v ∧
      g'.starts = g.starts ++ [⟨ctx.run, tool, args⟩] ∧ g'.screened = g.screened := by
  generalize hr : (Except.ok v : Except Fault Json) = result at h
  cases h with
  | refused | givenUp => cases hr
  | @ended t hadm _ =>
    have hget := (admission_ok hadm).2.1
    have hname := Registry.name_of_get? hget
    refine ⟨⟨t, hget, ?_⟩, by simp [hname], rfl⟩
    cases he : (t.behave args).ending with
    | value w => rw [he] at hr; cases hr; rfl
    | failed | crashed => rw [he] at hr; cases hr

/-- A call fails because the tool is not started, because it ends badly or because it is given
up. -/
theorem Called.error {f : Fault} (h : Called g ctx tool args g' (.error f)) :
    g.admission tool args = .error f ∨ (∃ text, f = .toolFailed text) ∨ f = .timeout := by
  generalize hr : (Except.error f : Except Fault Json) = result at h
  cases h with
  | refused hadm =>
    cases hr
    exact .inl hadm
  | @ended t _ _ =>
    cases he : (t.behave args).ending with
    | value v => rw [he] at hr; cases hr
    | failed | crashed =>
      rw [he] at hr
      cases hr
      exact .inr (.inl ⟨_, rfl⟩)
  | givenUp =>
    cases hr
    exact .inr (.inr rfl)

/-! ## The steps of a run -/

/-- What the observation of a tool's answer says. -/
def observed (v : Json) : String := "Result: " ++ v.compact

/-- The run goes on to the step with this index: there is room for it, and time. -/
structure GoesOn (ctx : RunContext) (limit index : Nat) (g : Gateway) : Prop where
  room : index < limit
  time : ctx.isExpired g.now = false

/-- The ways that the steps of a run go from the one with an index on: the tools that are left, the
gateway before and after, the steps that are taken and how the run is stopped early, if it is. -/
inductive Course (ctx : RunContext) (req : PlanRequest) (limit : Nat) :
    Nat → List String → Gateway → Gateway → List Step → Option Stop → Prop
  | limited {index : Nat} {tools : List String} {g : Gateway} (hlimit : limit ≤ index) :
      Course ctx req limit index tools g g [] none
  | late {index : Nat} {tools : List String} {g : Gateway} (hlt : index < limit)
      (hlate : ctx.isExpired g.now = true) :
      Course ctx req limit index tools g g [] (some ⟨⟨.deadlineExceeded, "timeout", []⟩, index⟩)
  | finished {index : Nat} {g : Gateway} (hgo : GoesOn ctx limit index g) :
      Course ctx req limit index [] g g [finishStep req index] none
  | failed {index : Nat} {tool : String} {rest : List String} {g g' : Gateway} {f : Fault}
      (hgo : GoesOn ctx limit index g)
      (hcall : Called g ctx tool (toolArguments req index) g' (.error f)) :
      Course ctx req limit index (tool :: rest) g g'
        [toolStep req index tool (g'.now - g.now) (.error f)]
        (some ⟨⟨f, f.message, []⟩, index + 1⟩)
  /-- The tool has the name of the finishing action. -/
  | named {index : Nat} {rest : List String} {g g' : Gateway} {v : Json}
      (hgo : GoesOn ctx limit index g)
      (hcall : Called g ctx finishAction (toolArguments req index) g' (.ok v)) :
      Course ctx req limit index (finishAction :: rest) g g'
        [toolStep req index finishAction (g'.now - g.now) (.ok v)] none
  | filtered {index : Nat} {tool : String} {rest : List String} {g g₁ : Gateway} {v : Json}
      (hgo : GoesOn ctx limit index g) (hne : tool ≠ finishAction)
      (hcall : Called g ctx tool (toolArguments req index) g₁ (.ok v))
      (hblocked : (g₁.filterOutput req.tenant (observed v)).1.allowed = false) :
      Course ctx req limit index (tool :: rest) g (g₁.filterOutput req.tenant (observed v)).2
        [toolStep req index tool (g₁.now - g.now) (.ok v)]
        (some ⟨⟨.outputFiltered, (g₁.filterOutput req.tenant (observed v)).1.reason,
          (g₁.filterOutput req.tenant (observed v)).1.signals⟩, index + 1⟩)
  | passed {index : Nat} {tool : String} {rest : List String} {g g₁ g' : Gateway} {v : Json}
      {steps : List Step} {stop : Option Stop} (hgo : GoesOn ctx limit index g)
      (hne : tool ≠ finishAction)
      (hcall : Called g ctx tool (toolArguments req index) g₁ (.ok v))
      (hallowed : (g₁.filterOutput req.tenant (observed v)).1.allowed = true)
      (hrest : Course ctx req limit (index + 1) rest (g₁.filterOutput req.tenant (observed v)).2
        g' steps stop) :
      Course ctx req limit index (tool :: rest) g g'
        (toolStep req index tool (g₁.now - g.now) (.ok v) :: steps) stop

theorem course_runSteps (hctx : ctx.cancelAt = none) (req : PlanRequest) (limit : Nat)
    (tools : List String) :
    ∀ (g : Gateway) (index : Nat), Course ctx req limit index tools g
      (g.runSteps ctx req limit index tools).1 (g.runSteps ctx req limit index tools).2.1
      (g.runSteps ctx req limit index tools).2.2 := by
  induction tools with
  | nil =>
    intro g index
    rw [runSteps]
    by_cases hlimit : limit ≤ index
    · rw [if_pos hlimit]
      exact .limited hlimit
    rw [if_neg hlimit]
    by_cases hlate : ctx.isExpired g.now = true
    · rw [if_pos hlate]
      exact .late (Nat.lt_of_not_le hlimit) hlate
    rw [if_neg hlate]
    exact .finished ⟨Nat.lt_of_not_le hlimit, eq_false_of_ne_true hlate⟩
  | cons tool rest ih =>
    intro g index
    rw [runSteps]
    by_cases hlimit : limit ≤ index
    · rw [if_pos hlimit]
      exact .limited hlimit
    have hlt : index < limit := Nat.lt_of_not_le hlimit
    rw [if_neg hlimit]
    by_cases hlate : ctx.isExpired g.now = true
    · rw [if_pos hlate]
      exact .late hlt hlate
    rw [if_neg hlate]
    have hgo : GoesOn ctx limit index g := ⟨hlt, eq_false_of_ne_true hlate⟩
    have hcall := called_execute hctx g tool (toolArguments req index)
    generalize g.execute ctx tool (toolArguments req index) = out at hcall ⊢
    obtain ⟨g₁, result⟩ := out
    cases result with
    | error f => exact .failed hgo hcall
    | ok v =>
      dsimp only
      by_cases hfinish : tool = finishAction
      · subst hfinish
        rw [if_pos rfl]
        exact .named hgo hcall
      rw [if_neg hfinish]
      have hobs : (toolStep req index tool (g₁.now - g.now) (.ok v)).observation = observed v := rfl
      rw [hobs]
      by_cases hv : (g₁.filterOutput req.tenant (observed v)).1.allowed = true
      · rw [if_neg (by simp [hv])]
        exact .passed hgo hfinish hcall hv (ih _ _)
      · rw [if_pos (by simp [hv])]
        exact .filtered hgo hfinish hcall (eq_false_of_ne_true hv)

/-! ## A run as a whole -/

/-- What a run does before it is counted and cancelled: a gate refuses, or all gates are passed
after a while and the steps are taken. -/
inductive Ran (g : Gateway) (req : PlanRequest) : Gateway → List Step → Option Stop → Prop
  | refused {stop : Stop} (ticks : Nat)
      (hstop : (Gate.all req).findSome? (Gate.refusal? g req) = some stop)
      (hticks : ticks = { g with runs := g.runs + 1 }.gateTime req) :
      Ran g req ({ g with runs := g.runs + 1 }.occupy ticks) [] (some stop)
  | stepped {g' : Gateway} {steps : List Step} {stop : Option Stop} (ticks : Nat)
      (hpassed : Gate.Passed g req)
      (hcourse : Course (g.contextFor req) req (g.iterationLimit req) 0 req.tools
        ({ g with runs := g.runs + 1 }.occupy ticks) g' steps stop)
      (hticks : ticks = { g with runs := g.runs + 1 }.gateTime req) :
      Ran g req g' steps stop

/-- The run is counted and cancelled. -/
def conclude (g : Gateway) (run : Nat) (steps : List Step) (stop : Option Stop) : Gateway :=
  { g with
    metrics := g.metrics.record Float.ofNat stop.isSome (iterations steps stop) }.cancelRun run

def outcome (time : Nat) (steps : List Step) (stop : Option Stop) : Except PlanError PlanReport :=
  match stop with
  | none => .ok (reportOf time steps none)
  | some s => .error ⟨s.fault, reportOf time steps (some s)⟩

theorem plan_ran (g : Gateway) (req : PlanRequest) : ∃ g' steps stop,
    Ran g req g' steps stop ∧
      g.plan req = (g'.conclude g.runs steps stop, outcome (g'.now - g.now) steps stop) := by
  have hgates := checkGates_eq { g with runs := g.runs + 1 } req
  have hrefusal : Gate.refusal? { g with runs := g.runs + 1 } req = Gate.refusal? g req := by
    funext gate
    cases gate <;> rfl
  rw [hrefusal] at hgates
  generalize hticks : { g with runs := g.runs + 1 }.gateTime req = ticks at hgates
  cases hstop : (Gate.all req).findSome? (Gate.refusal? g req) with
  | some stop =>
    refine ⟨_, [], some stop, .refused ticks hstop hticks.symm, ?_⟩
    rw [hstop] at hgates
    simp only [plan, runGuarded, hgates]
    rfl
  | none =>
    have hctx : (g.contextFor req).cancelAt = none := rfl
    have hcourse := course_runSteps hctx req (g.iterationLimit req) req.tools
      ({ g with runs := g.runs + 1 }.occupy ticks) 0
    refine ⟨_, _, _, .stepped ticks (passed_iff.mpr hstop) hcourse hticks.symm, ?_⟩
    have hlimit : ({ g with runs := g.runs + 1 }.occupy ticks).iterationLimit req =
      g.iterationLimit req := rfl
    rw [hstop] at hgates
    simp only [plan, runGuarded, hgates, hlimit]
    generalize ({ g with runs := g.runs + 1 }.occupy ticks).runSteps (g.contextFor req) req
      (g.iterationLimit req) 0 req.tools = out
    obtain ⟨g', steps, stop⟩ := out
    cases stop <;> rfl

end Guardrail.Agent.Gateway
