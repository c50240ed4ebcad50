import Guardrail.Proofs.Agent.Course

/-! Which tools a run that completes has executed, and which of their observations were screened.
A step ends the run if its action is the finishing one, and the action of a tool's step is the name
of the tool. So a tool of that name is the last to be executed, and what it answers is not put to
the output filter. -/

namespace Guardrail.Agent

/-- The screening is one of what the tool of this name answers at the step with this index, made for
the tenant of the request, and it let the observation pass. -/
def Screens (r : Registry) (req : PlanRequest) (index : Nat) (tool : String)
    (s : Screening) : Prop :=
  ∃ t v, r.get? tool = some t ∧
    (t.behave (Gateway.toolArguments req index)).ending = .value v ∧
    s.tenant = req.tenant ∧ s.output = "Result: " ++ v.compact ∧ s.verdict.allowed = true

/-- One screening for each tool, of tools that follow one another from an index on. -/
inductive ScreensAll (r : Registry) (req : PlanRequest) : Nat → List String → List Screening → Prop
  | nil {index : Nat} : ScreensAll r req index [] []
  | cons {index : Nat} {tool : String} {tools : List String} {s : Screening} {ss : List Screening} :
      Screens r req index tool s → ScreensAll r req (index + 1) tools ss →
      ScreensAll r req index (tool :: tools) (s :: ss)

theorem ScreensAll.length_eq {r : Registry} {req : PlanRequest} {index : Nat}
    {tools : List String} {ss : List Screening} (h : ScreensAll r req index tools ss) :
    ss.length = tools.length := by
  induction h with
  | nil => rfl
  | cons _ _ ih => rw [List.length_cons, List.length_cons, ih]

namespace Gateway

/-- The starts of tools that follow one another from an index on. -/
def startsFrom (run : Nat) (req : PlanRequest) (index : Nat) (tools : List String) : List Start :=
  tools.mapIdx fun i tool => ⟨run, tool, toolArguments req (index + i)⟩

theorem startsFrom_cons (run : Nat) (req : PlanRequest) (index : Nat) (tool : String)
    (rest : List String) :
    startsFrom run req index (tool :: rest) =
      ⟨run, tool, toolArguments req index⟩ :: startsFrom run req (index + 1) rest := by
  simp [startsFrom, List.mapIdx_cons, Nat.add_assoc, Nat.add_comm 1]

/-- What a gateway's records gain while tools are executed, of which some are screened. -/
def Executes (g g' : Gateway) (run : Nat) (req : PlanRequest) (index : Nat)
    (tools screened : List String) : Prop :=
  g'.starts = g.starts ++ startsFrom run req index tools ∧
    ∃ passed, g'.screened = g.screened ++ passed ∧
      ScreensAll g.registry req index screened passed

theorem Executes.none {g : Gateway} {run : Nat} {req : PlanRequest} {index : Nat} :
    g.Executes g run req index [] [] :=
  ⟨(List.append_nil _).symm, [], (List.append_nil _).symm, .nil⟩

/-- The tools up to the first with the name of the finishing action. -/
def untilFinish : List String → List String
  | [] => []
  | tool :: rest => if tool = finishAction then [tool] else tool :: untilFinish rest

/-- The tools before the first with the name of the finishing action. -/
def beforeFinish (tools : List String) : List String := tools.takeWhile (· != finishAction)

/-- Steps that come to their end have executed the tools up to the one that ends the run, and each
tool before that one has been screened. -/
theorem Course.executes {g g' : Gateway} {ctx : RunContext} {req : PlanRequest} {limit index : Nat}
    {tools : List String} {steps : List Step} {stop : Option Stop}
    (h : Course ctx req limit index tools g g' steps stop) (hstop : stop = none) :
    g.Executes g' ctx.run req index (untilFinish (tools.take (limit - index)))
      (beforeFinish (tools.take (limit - index))) := by
  induction h with
  | limited hlimit =>
    rw [Nat.sub_eq_zero_of_le hlimit]
    exact .none
  | finished =>
    rw [List.take_nil]
    exact .none
  | late | failed | filtered => cases hstop
  | @named index _ _ _ _ hgo hcall =>
    have hlt := hgo.room
    obtain ⟨-, hstarts, hscreened⟩ := hcall.ok
    rw [show limit - index = limit - (index + 1) + 1 by omega, List.take_succ_cons, untilFinish,
      if_pos rfl, beforeFinish, List.takeWhile_cons_of_neg (by simp)]
    exact ⟨hstarts, [], by rw [hscreened, List.append_nil], .nil⟩
  | @passed index tool rest g g₁ g' v _ _ hgo hne hcall hallowed _ ih =>
    have hlt := hgo.room
    obtain ⟨⟨t, hget, hending⟩, hstarts, hscreened⟩ := hcall.ok
    obtain ⟨hs, passed, hp, hall⟩ := ih hstop
    have hall' : ScreensAll g.registry req (index + 1) _ passed := hcall.frame.1 ▸ hall
    rw [show limit - index = limit - (index + 1) + 1 by omega, List.take_succ_cons, untilFinish,
      if_neg hne, beforeFinish, List.takeWhile_cons_of_pos (by simp [hne])]
    refine ⟨?_, ⟨req.tenant, observed v, _⟩ :: passed, ?_,
      .cons ⟨t, v, hget, hending, rfl, rfl, hallowed⟩ hall'⟩
    · rw [hs, starts_filterOutput, hstarts, startsFrom_cons, List.append_assoc]
      rfl
    · rw [hp, filterOutput_screened, hscreened, List.append_assoc]
      rfl

theorem plan_executes {g : Gateway} {req : PlanRequest} {report : PlanReport}
    (h : (g.plan req).2 = .ok report) :
    g.Executes (g.plan req).1 g.runs req 0 (untilFinish (req.tools.take (g.iterationLimit req)))
      (beforeFinish (req.tools.take (g.iterationLimit req))) := by
  obtain ⟨g', steps, stop, hran, hplan⟩ := plan_ran g req
  rw [hplan] at h ⊢
  cases hran with
  | refused => cases h
  | stepped _ _ hcourse =>
    cases stop with
    | some st => cases h
    | none =>
      obtain ⟨hs, hscreened⟩ := hcourse.executes rfl
      exact ⟨(starts_cancelRun _ _).trans hs, hscreened⟩

/-! ## Tools with the name of the finishing action -/

theorem Executes.length_eq {g g' : Gateway} {run index : Nat} {req : PlanRequest}
    {tools tools' screened screened' : List String}
    (h : g.Executes g' run req index tools screened)
    (h' : g.Executes g' run req index tools' screened') : screened.length = screened'.length := by
  obtain ⟨-, passed, hp, hall⟩ := h
  obtain ⟨-, passed', hp', hall'⟩ := h'
  have he : passed = passed' := List.append_cancel_left (hp.symm.trans hp')
  rw [← hall.length_eq, ← hall'.length_eq, he]

theorem untilFinish_append {before : List String} (h : finishAction ∉ before)
    (after : List String) : untilFinish (before ++ after) = before ++ untilFinish after := by
  induction before with
  | nil => rfl
  | cons tool rest ih =>
    obtain ⟨hne, hrest⟩ := not_or.mp fun hm => h (List.mem_cons.mpr hm)
    rw [List.cons_append, untilFinish, if_neg (Ne.symm hne), ih hrest, List.cons_append]

theorem beforeFinish_append {before : List String} (h : finishAction ∉ before)
    (after : List String) : beforeFinish (before ++ after) = before ++ beforeFinish after :=
  List.takeWhile_append_of_pos fun tool ht => by
    simpa using fun he : tool = finishAction => h (he ▸ ht)

theorem beforeFinish_length_lt {tools : List String} (h : finishAction ∈ tools) :
    (beforeFinish tools).length < tools.length := by
  obtain ⟨before, after, rfl, hb⟩ := List.eq_append_cons_of_mem h
  rw [beforeFinish_append hb]
  simp [beforeFinish]

/-- **A completed run has executed and screened the tools within its limit, in their order, exactly
if none of them has the name of the finishing action.** Otherwise the first of that name is executed
as the last tool, and its observation is the only one that is not screened. -/
theorem plan_screens_iff {g : Gateway} {req : PlanRequest} {report : PlanReport}
    (h : (g.plan req).2 = .ok report) :
    let tools := req.tools.take (g.iterationLimit req)
    (g.Executes (g.plan req).1 g.runs req 0 tools tools ↔ finishAction ∉ tools) ∧
      ∀ before after, tools = before ++ finishAction :: after → finishAction ∉ before →
        g.Executes (g.plan req).1 g.runs req 0 (before ++ [finishAction]) before := by
  intro tools
  have hrun : g.Executes (g.plan req).1 g.runs req 0 (untilFinish tools) (beforeFinish tools) :=
    plan_executes h
  refine ⟨⟨fun hall hmem => ?_, fun hmem => ?_⟩, fun before after he hb => ?_⟩
  · exact absurd (hrun.length_eq hall) (Nat.ne_of_lt (beforeFinish_length_lt hmem))
  · have hu := untilFinish_append hmem []
    have hb := beforeFinish_append hmem []
    rw [List.append_nil] at hu hb
    rw [hu, hb] at hrun
    simpa [untilFinish, beforeFinish] using hrun
  · rw [he, untilFinish_append hb, beforeFinish_append hb] at hrun
    simpa [untilFinish, beforeFinish] using hrun

/-- A gateway with a tool of the name of the finishing action that answers with a secret. -/
def leaky : Gateway where
  firewall := .new {} none .mark
  registry := ({} : Registry).register
    { name := finishAction, behave := fun _ => ⟨0, .value (.string "the password"), none⟩ }

def leakyRequest : PlanRequest where
  tenant := "acme"
  prompt := "find the admin"
  tools := [finishAction, "search"]

/-- The secret gets out: the run completes with nothing screened. -/
theorem leaky_plan_completes :
    ∃ report, (leaky.plan leakyRequest).2 = .ok report ∧
      leaky.Executes (leaky.plan leakyRequest).1 leaky.runs leakyRequest 0 [finishAction] [] := by
  have hok : (leaky.plan leakyRequest).2.toOption.isSome = true := by decide +kernel
  cases h : (leaky.plan leakyRequest).2 with
  | error e => rw [h] at hok; cases hok
  | ok report =>
    exact ⟨report, rfl, (plan_screens_iff h).2 [] ["search"] rfl (List.not_mem_nil)⟩

end Gateway
end Guardrail.Agent
