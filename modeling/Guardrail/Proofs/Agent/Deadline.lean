import Guardrail.Proofs.Agent.Trace
import Mathlib.Data.List.Forall2

/-! # Runs and their deadlines

Tools and questions to the policies take time, and nothing else does. A run looks at the clock
before every step, so none of its tools starts too late and no wait is too long; only the question
about the sensitive terms that follows may go on after the deadline, and then the run is over
(`plan_ends_in_time`). A run that ends for want of places does not look at the clock again, and that
is the one way in which it completes after its deadline (`allowed_late_iff`). -/

namespace Guardrail.Agent.Gateway

variable {g g' : Gateway} {ctx : RunContext} {req : PlanRequest} {limit index : Nat}
  {tools : List String} {steps : List Step} {stop : Option Stop}

/-! ## One step -/

theorem GoesOn.before (h : GoesOn ctx limit index g) : g.now < ctx.deadline := by
  have := h.time
  simp only [RunContext.isExpired, Bool.or_eq_false_iff, decide_eq_false_iff_not] at this
  omega

theorem giveUpAt_le (g : Gateway) (ctx : RunContext) :
    g.giveUpAt ctx ≤ max g.now (min (g.now + g.sandbox.timeout) ctx.deadline) := by
  unfold giveUpAt
  dsimp only
  split <;> omega

theorem le_of_inTime {due limit : Nat} (h : g.inTime due limit = true) : due ≤ limit := by
  simp only [inTime, Bool.or_eq_true, Bool.and_eq_true, decide_eq_true_eq, beq_iff_eq] at h
  omega

/-- A wait that begins before the deadline does not outlast it, nor the sandbox's time. -/
theorem Called.now_le {tool : String} {args : Json} {result : Except Fault Json}
    (h : Called g ctx tool args g' result) (hbefore : g.now < ctx.deadline) :
    g'.now ≤ ctx.deadline ∧ g'.now ≤ g.now + g.sandbox.timeout := by
  have hlimit := g.giveUpAt_le ctx
  cases h with
  | refused => exact ⟨Nat.le_of_lt hbefore, Nat.le_add_right ..⟩
  | @ended t hadm hin =>
    have hdue := le_of_inTime hin
    change g.now + (t.behave args).duration ≤ _ ∧ g.now + (t.behave args).duration ≤ _
    omega
  | givenUp =>
    change g.giveUpAt ctx ≤ _ ∧ g.giveUpAt ctx ≤ _
    omega

/-- A call leaves alone what the time of questions hangs on. -/
theorem Called.questions {tool : String} {args : Json} {result : Except Fault Json}
    (h : Called g ctx tool args g' result) :
    g'.latency = g.latency ∧ g'.screenings = g.screenings := by
  cases h <;> exact ⟨rfl, rfl⟩

theorem Called.launches_eq {tool : String} {args : Json} {result : Except Fault Json}
    (h : Called g ctx tool args g' result) :
    (g'.launches = g.launches ∧ ∀ v, result ≠ .ok v) ∨
      g'.launches = g.launches ++ [(⟨ctx.run, tool, args⟩, g.now)] := by
  cases h with
  | refused => exact .inl ⟨rfl, nofun⟩
  | ended hadm | givenUp hadm =>
    have hname := Registry.name_of_get? (admission_ok hadm).2.1
    exact .inr (by simp [hname])

theorem Called.termsDelay_le {tool : String} {args : Json} {result : Except Fault Json}
    (h : Called g ctx tool args g' result) {ticks : Nat}
    (hterms : ∀ n, g.latency.sensitiveTerms n ≤ ticks) : g'.termsDelay ≤ ticks := by
  rw [termsDelay, h.questions.1]
  exact hterms _

theorem filterOutput_now (g : Gateway) (tenant output : String) :
    (g.filterOutput tenant output).2.now = g.now + g.termsDelay := rfl

theorem launches_filterOutput (g : Gateway) (tenant output : String) :
    (g.filterOutput tenant output).2.launches = g.launches := rfl

/-! ## Starts and waits -/

/-- The tool of the step was started before the deadline, and the step waited for it no longer than
until then, nor longer than the sandbox lets it. -/
structure InLimits (deadline timeout : Nat) (launch : Start × Nat) (step : Step) : Prop where
  action : step.action = launch.1.tool
  starts : launch.2 < deadline
  ends : launch.2 + step.duration ≤ deadline
  waits : step.duration ≤ timeout

theorem Called.inLimits {tool : String} {args : Json} {result : Except Fault Json}
    (h : Called g ctx tool args g' result) (req : PlanRequest) (hgo : GoesOn ctx limit index g) :
    InLimits ctx.deadline g.sandbox.timeout (⟨ctx.run, tool, args⟩, g.now)
      (toolStep req index tool (g'.now - g.now) result) := by
  have hbefore := hgo.before
  obtain ⟨hdeadline, htimeout⟩ := h.now_le hbefore
  have hle := h.frame.2.2.2.2.2
  refine ⟨rfl, hbefore, ?_, ?_⟩
  · change g.now + (g'.now - g.now) ≤ _
    omega
  · change g'.now - g.now ≤ _
    omega

/-- The tools that were started on the way, each within the limits of its step. -/
def Launched (g : Gateway) (deadline timeout : Nat) (steps : List Step) (g' : Gateway) : Prop :=
  ∃ launches, g'.launches = g.launches ++ launches ∧
    List.Forall₂ (InLimits deadline timeout) launches (steps.take launches.length)

theorem Launched.none {deadline timeout : Nat} (h : g'.launches = g.launches) :
    g.Launched deadline timeout steps g' :=
  ⟨[], by rw [h, List.append_nil], by simp⟩

theorem Called.launched {tool : String} {args : Json} {result : Except Fault Json}
    (h : Called g ctx tool args g' result) (req : PlanRequest) (hgo : GoesOn ctx limit index g) :
    g.Launched ctx.deadline g.sandbox.timeout
      [toolStep req index tool (g'.now - g.now) result] g' := by
  rcases h.launches_eq with ⟨hnone, -⟩ | hone
  · exact .none hnone
  · exact ⟨_, hone, .cons (h.inLimits req hgo) .nil⟩

theorem Course.launched (h : Course ctx req limit index tools g g' steps stop) :
    g.Launched ctx.deadline g.sandbox.timeout steps g' := by
  induction h with
  | limited | late | finished => exact .none rfl
  | failed hgo hcall | named hgo hcall | filtered hgo _ hcall => exact hcall.launched req hgo
  | @passed index tool rest g g₁ g' v steps stop hgo _ hcall _ _ ih =>
    have hfirst := hcall.launches_eq.resolve_left fun hnone => hnone.2 v rfl
    obtain ⟨launches, hlater, hall⟩ := ih
    rw [launches_filterOutput, hfirst, List.append_assoc] at hlater
    have hsandbox : (g₁.filterOutput req.tenant (observed v)).2.sandbox = g.sandbox :=
      hcall.frame.2.1
    rw [hsandbox] at hall
    exact ⟨_, hlater, .cons (hcall.inLimits req hgo) hall⟩

/-! ## How long it may take -/

/-- No step begins after the deadline, so at most one question about the terms goes beyond it. -/
theorem Course.now_le {ticks : Nat} (h : Course ctx req limit index tools g g' steps stop)
    (hterms : ∀ n, g.latency.sensitiveTerms n ≤ ticks) :
    g'.now ≤ max g.now (ctx.deadline + ticks) := by
  induction h with
  | limited | late | finished => exact Nat.le_max_left ..
  | failed hgo hcall | named hgo hcall =>
    have := (hcall.now_le hgo.before).1
    omega
  | @filtered _ _ _ g g₁ v hgo _ hcall _ =>
    have hcalled := (hcall.now_le hgo.before).1
    have hasked := hcall.termsDelay_le hterms
    rw [filterOutput_now]
    omega
  | @passed _ _ _ g g₁ g' v _ _ hgo _ hcall _ _ ih =>
    have hcalled := (hcall.now_le hgo.before).1
    have hasked := hcall.termsDelay_le hterms
    have hrest := ih fun n => by
      rw [show (g₁.filterOutput req.tenant (observed v)).2.latency = g.latency from
        hcall.questions.1]
      exact hterms n
    rw [filterOutput_now] at hrest
    omega

theorem Course.le_now (h : Course ctx req limit index tools g g' steps stop) : g.now ≤ g'.now := by
  induction h with
  | limited | late | finished => exact Nat.le_refl _
  | failed _ hcall | named _ hcall => exact hcall.frame.2.2.2.2.2
  | filtered _ _ hcall => exact Nat.le_add_right_of_le hcall.frame.2.2.2.2.2
  | passed _ _ hcall _ _ ih =>
    exact Nat.le_trans (Nat.le_add_right_of_le hcall.frame.2.2.2.2.2) ih

theorem finalReport_outcome (time : Nat) (steps : List Step) (stop : Option Stop) :
    (finalReport (outcome time steps stop)).steps = steps ∧
      (finalReport (outcome time steps stop)).totalTime = time := by
  cases stop <;> exact ⟨rfl, rfl⟩

/-- **A run ends in time.** None of its tools is started at its deadline or later, every wait for a
tool is over by then and within the sandbox's time, and the run returns at the latest when a question
about the terms that began before the deadline is answered, unless the gates took longer. -/
theorem plan_ends_in_time (g : Gateway) (req : PlanRequest) {ticks : Nat}
    (hterms : ∀ n, g.latency.sensitiveTerms n ≤ ticks) :
    let report := finalReport (g.plan req).2
    g.Launched (g.now + g.timeLimit req) g.sandbox.timeout report.steps (g.plan req).1 ∧
      (g.plan req).1.now = g.now + report.totalTime ∧
      report.totalTime ≤
        max ({ g with runs := g.runs + 1 }.gateTime req) (g.timeLimit req + ticks) := by
  intro report
  obtain ⟨g', steps, stop, hran, hplan⟩ := plan_ran g req
  have hreport : report.steps = steps ∧ report.totalTime = g'.now - g.now := by
    change (finalReport (g.plan req).2).steps = _ ∧ (finalReport (g.plan req).2).totalTime = _
    rw [hplan]
    exact finalReport_outcome _ steps stop
  have hlaunches : (g.plan req).1.launches = g'.launches := by
    rw [hplan]
    exact launches_cancelRun ..
  have hnow : (g.plan req).1.now = g'.now := by
    rw [hplan]
    rfl
  suffices g.Launched (g.now + g.timeLimit req) g.sandbox.timeout steps g' ∧ g.now ≤ g'.now ∧
      g'.now ≤ g.now +
        max ({ g with runs := g.runs + 1 }.gateTime req) (g.timeLimit req + ticks) by
    obtain ⟨⟨launches, hnew, hall⟩, hle, hmax⟩ := this
    rw [hnow, hreport.1, hreport.2]
    exact ⟨⟨launches, hlaunches.trans hnew, hall⟩, by omega, by omega⟩
  cases hran with
  | refused spent hstop hspent =>
    refine ⟨.none rfl, Nat.le_add_right .., ?_⟩
    change g.now + spent ≤ _
    omega
  | stepped spent hpassed hcourse hspent =>
    have hbegun : g.now + spent ≤ g'.now := hcourse.le_now
    have hended : g'.now ≤ max (g.now + spent) (g.now + g.timeLimit req + ticks) :=
      hcourse.now_le hterms
    exact ⟨hcourse.launched, by omega, by omega⟩

/-- A gateway with a tool that takes five ticks, and with policies that take twenty to name the
sensitive terms. -/
def sluggish : Gateway where
  firewall := .new {} none .mark
  registry := ({} : Registry).register
    { name := "search", behave := fun _ => ⟨5, .value (.string "all clear"), none⟩ }
  latency := { sensitiveTerms := fun _ => 20 }

/-- Ten ticks for one step, which is that of the tool. -/
def hastyRequest : PlanRequest where
  tenant := "acme"
  prompt := "find the notes"
  tools := ["search"]
  maxIterations := 1
  timeout := 10

/-- The tool ends in time, but the run is over long after its deadline. -/
theorem sluggish_plan_ok : ∃ report, (sluggish.plan hastyRequest).2 = .ok report ∧
    report.allowed = true ∧ report.steps.map (·.duration) = [5] ∧ report.totalTime = 25 := by
  have hok : (sluggish.plan hastyRequest).2.toOption.map
      (fun r => (r.allowed, r.steps.map (·.duration), r.totalTime)) = some (true, [5], 25) := by
    decide +kernel
  cases h : (sluggish.plan hastyRequest).2 with
  | error e => rw [h] at hok; cases hok
  | ok report =>
    rw [h] at hok
    simp only [Except.toOption, Option.map_some, Option.some.injEq, Prod.mk.injEq] at hok
    exact ⟨report, rfl, hok⟩

theorem sluggish_plan_in_time : (∀ n, sluggish.latency.sensitiveTerms n ≤ 20) ∧
    (sluggish.plan hastyRequest).1.now = 25 ∧
    (finalReport (sluggish.plan hastyRequest).2).totalTime ≤ 10 + 20 ∧
    ∃ launch step, (sluggish.plan hastyRequest).1.launches = [launch] ∧
      (finalReport (sluggish.plan hastyRequest).2).steps = [step] ∧
      InLimits 10 30000 launch step := by
  have hterms : ∀ n, sluggish.latency.sensitiveTerms n ≤ 20 := fun _ => Nat.le_refl 20
  obtain ⟨report, hreport, -, hsteps, htime⟩ := sluggish_plan_ok
  obtain ⟨⟨launches, hnew, hall⟩, hnow, hle⟩ := plan_ends_in_time sluggish hastyRequest hterms
  rw [hreport] at hall hnow hle ⊢
  have hlaunched : (sluggish.plan hastyRequest).1.launches.length = 1 := by decide +kernel
  obtain ⟨step, hstep, -⟩ := List.map_eq_singleton_iff.mp hsteps
  obtain ⟨launch, hlaunch⟩ := List.length_eq_one_iff.mp hlaunched
  obtain rfl : launches = [launch] := hnew.symm.trans hlaunch
  change List.Forall₂ _ _ (report.steps.take 1) at hall
  rw [hstep] at hall
  obtain ⟨hin, -⟩ := List.forall₂_cons.mp hall
  have htotal : (finalReport (.ok report)).totalTime = 25 := htime
  exact ⟨hterms, by rw [hnow, htotal]; rfl, hle, launch, step, hlaunch, hstep, hin⟩

/-! ## How long a completed run takes -/

/-- How long the tool works that is called at the step with this index. -/
def workTime (g : Gateway) (req : PlanRequest) (index : Nat) (tool : String) : Nat :=
  match g.registry.get? tool with
  | some t => (t.behave (toolArguments req index)).duration
  | none => 0

/-- Ticks for tools that all answer, each with the question about the terms that its output is put
to, but for the one that ends the run; so many questions were asked before. -/
def loopTime (g : Gateway) (req : PlanRequest) (index asked : Nat) : List String → Nat
  | [] => 0
  | tool :: rest => g.workTime req index tool +
      if tool = finishAction then 0
      else g.latency.sensitiveTerms asked + g.loopTime req (index + 1) (asked + 1) rest

/-- Ticks that a run takes which begins now and completes. -/
def runTime (g : Gateway) (req : PlanRequest) : Nat :=
  { g with runs := g.runs + 1 }.gateTime req +
    g.loopTime req 0 g.screenings.length (req.tools.take (g.iterationLimit req))

theorem loopTime_congr (hregistry : g'.registry = g.registry) (hlatency : g'.latency = g.latency)
    (req : PlanRequest) : g'.loopTime req = g.loopTime req := by
  funext index asked tools
  induction tools generalizing index asked with
  | nil => rfl
  | cons tool rest ih => simp only [loopTime, workTime, hregistry, hlatency, ih]

theorem Called.now_of_ok {tool : String} {v : Json}
    (h : Called g ctx tool (toolArguments req index) g' (.ok v)) :
    g'.now = g.now + g.workTime req index tool := by
  generalize hr : (Except.ok v : Except Fault Json) = result at h
  cases h with
  | refused | givenUp => cases hr
  | ended hadm => simp [workTime, (admission_ok hadm).2.1, advance]

theorem Course.now_eq (h : Course ctx req limit index tools g g' steps stop)
    (hstop : stop = none) :
    g'.now = g.now +
      g.loopTime req index g.screenings.length (tools.take (limit - index)) := by
  induction h with
  | limited hlimit =>
    rw [Nat.sub_eq_zero_of_le hlimit]
    rfl
  | finished =>
    rw [List.take_nil]
    rfl
  | late | failed | filtered => cases hstop
  | @named index _ _ _ _ hgo hcall =>
    have hlt := hgo.room
    rw [show limit - index = limit - (index + 1) + 1 by omega, List.take_succ_cons, loopTime,
      if_pos rfl, hcall.now_of_ok, Nat.add_zero]
  | @passed index tool rest g g₁ g' v _ _ hgo hne hcall _ _ ih =>
    have hlt := hgo.room
    obtain ⟨hlatency, hscreenings⟩ := hcall.questions
    have hrest := ih hstop
    have hasked : (g₁.filterOutput req.tenant (observed v)).2.screenings.length =
        g.screenings.length + 1 := congrArg (·.length + 1) hscreenings
    have hregistry : (g₁.filterOutput req.tenant (observed v)).2.registry = g.registry :=
      hcall.frame.1
    rw [hasked, loopTime_congr hregistry hlatency, filterOutput_now, hcall.now_of_ok, termsDelay,
      hlatency, hscreenings]
      at hrest
    rw [show limit - index = limit - (index + 1) + 1 by omega, List.take_succ_cons, loopTime,
      if_neg hne, hrest]
    omega

/-! ## Completed too late -/

/-- A run that completes does so before its deadline, unless all its places went to tools, or unless
the tool that ended it did so at the deadline. -/
theorem Course.now_lt (h : Course ctx req limit index tools g g' steps stop)
    (hstop : stop = none) :
    g'.now < ctx.deadline ∨
      (finishAction ∉ tools.take (limit - index) ∧ limit ≤ index + tools.length) ∨
      (finishAction ∈ tools.take (limit - index) ∧ g'.now = ctx.deadline) := by
  induction h with
  | limited hlimit =>
    refine .inr (.inl ⟨?_, Nat.le_add_right_of_le hlimit⟩)
    rw [Nat.sub_eq_zero_of_le hlimit]
    exact List.not_mem_nil
  | finished hgo => exact .inl hgo.before
  | late | failed | filtered => cases hstop
  | @named index _ _ _ _ hgo hcall =>
    have hlt := hgo.room
    have hle := (hcall.now_le hgo.before).1
    rw [show limit - index = limit - (index + 1) + 1 by omega, List.take_succ_cons]
    rcases Nat.lt_or_eq_of_le hle with hbefore | heq
    · exact .inl hbefore
    · exact .inr (.inr ⟨List.mem_cons_self .., heq⟩)
  | @passed index tool rest _ _ _ _ _ _ hgo hne _ _ _ ih =>
    have hlt := hgo.room
    rw [show limit - index = limit - (index + 1) + 1 by omega, List.take_succ_cons,
      List.length_cons, List.mem_cons, or_iff_right (Ne.symm hne),
      show index + (rest.length + 1) = index + 1 + rest.length by omega]
    exact ih hstop

/-- **When a run completes after its deadline.** How long a completed run took can be told from its
tools and the questions to the policies. It was too long exactly if all its places went to tools, the
last question included, so that nobody looked at the clock any more. (A tool of the name of the
finishing action ends the run; it may do so at the very tick of the deadline, but not later.) -/
theorem allowed_late_iff {report : PlanReport} (h : (g.plan req).2 = .ok report) :
    let tools := req.tools.take (g.iterationLimit req)
    report.totalTime = g.runTime req ∧
      (g.timeLimit req ≤ report.totalTime ↔
        if finishAction ∈ tools then g.runTime req = g.timeLimit req
        else tools.length = g.iterationLimit req ∧ g.timeLimit req ≤ g.runTime req) := by
  intro tools
  obtain ⟨g', steps, stop, hran, hplan⟩ := plan_ran g req
  rw [hplan] at h
  cases hran with
  | refused => cases h
  | stepped spent hpassed hcourse hspent =>
    cases stop with
    | some st => cases h
    | none =>
      cases h
      have hregistry : ({ g with runs := g.runs + 1 }.occupy spent).registry = g.registry := rfl
      have hnow : g'.now = g.now + spent + g.loopTime req 0 g.screenings.length tools :=
        loopTime_congr hregistry rfl req ▸ hcourse.now_eq rfl
      have hrun : g.runTime req = spent + g.loopTime req 0 g.screenings.length tools := by
        rw [hspent]
        rfl
      have hnow : g'.now = g.now + g.runTime req := by rw [hnow, hrun, Nat.add_assoc]
      have hlate : g'.now < g.now + g.timeLimit req ∨ _ := hcourse.now_lt rfl
      rw [Nat.zero_add, Nat.sub_zero] at hlate
      have htime : g'.now - g.now = g.runTime req := by omega
      change g'.now - g.now = _ ∧ (_ ≤ g'.now - g.now ↔ _)
      rw [htime]
      refine ⟨rfl, ?_⟩
      have hlength : tools.length = min (g.iterationLimit req) req.tools.length :=
        List.length_take
      split
      · rename_i hfinish
        rcases hlate with hbefore | ⟨hnot, -⟩ | ⟨-, heq⟩
        · omega
        · exact absurd hfinish hnot
        · have : g'.now = g.now + g.timeLimit req := heq
          omega
      · rename_i hfinish
        rcases hlate with hbefore | ⟨-, hfull⟩ | ⟨hmem, -⟩
        · omega
        · omega
        · exact absurd hmem hfinish

/-- The only step is that of the tool, and the question about the terms goes beyond the deadline. -/
theorem sluggish_plan_late : ∃ report, (sluggish.plan hastyRequest).2 = .ok report ∧
    report.totalTime = 25 ∧ sluggish.timeLimit hastyRequest ≤ report.totalTime := by
  have hrun : sluggish.runTime hastyRequest = 25 := by decide +kernel
  obtain ⟨report, hreport, -⟩ := sluggish_plan_ok
  obtain ⟨htotal, hlate⟩ := allowed_late_iff hreport
  refine ⟨report, hreport, htotal.trans hrun, hlate.mpr ?_⟩
  rw [if_neg (by decide), hrun]
  exact ⟨rfl, by decide⟩

/-- The deadline has long been over when the run is allowed: its tool had ended in time. -/
theorem allowed_past_deadline : 0 < sluggish.iterationLimit hastyRequest ∧
    ∃ report, (sluggish.plan hastyRequest).2 = .ok report ∧ report.allowed = true ∧
      report.steps.map (·.duration) = [5] ∧
      ¬ report.totalTime < sluggish.timeLimit hastyRequest := by
  obtain ⟨report, hreport, hallowed, hsteps, htime⟩ := sluggish_plan_ok
  refine ⟨by decide, report, hreport, hallowed, hsteps, ?_⟩
  rw [htime]
  decide

end Guardrail.Agent.Gateway
