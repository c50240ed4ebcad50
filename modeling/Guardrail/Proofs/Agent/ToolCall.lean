import Guardrail.Proofs.Agent.Turns

/-! # One tool call

A tool that is denied, unknown or called with too much never starts, and no time passes. One that
starts races three limits: the sandbox's, the run's and the run's cancellation (`limits`). If the
tool ends before the first of them, its ending is the answer, at that instant; if not, the call is
over at the limit and the tool is left alone. A tool that does not heed cancellation then goes on to
its own end, whatever happens to the gateway (`RunsOn`). -/

namespace Guardrail.Agent.Gateway

variable {g g' : Gateway} {ctx : RunContext} {tool : String} {args : Json} {t : Tool} {run : Nat}

/-! ## Tools left alone -/

/-- The task is at work, or it has ended by itself, as it would have all along. -/
def Unturned (task : Task) (g : Gateway) : Prop :=
  task ∈ g.tasks ∨
    ∃ tick, task.due ≤ tick ∧ .ended task.run task.tool task.ending tick ∈ g.journal

/-- Whatever may happen to a gateway later on. -/
inductive Later (g : Gateway) : Gateway → Prop
  | now : Later g g
  | plan {g' : Gateway} (h : Later g g') (req : PlanRequest) : Later g (g'.plan req).1
  | call {g' : Gateway} (h : Later g g') (ctx : RunContext) (tool : String) (args : Json) :
      Later g (g'.execute ctx tool args).1
  | cancel {g' : Gateway} (h : Later g g') (run : Nat) : Later g (g'.cancelRun run)
  | advance {g' : Gateway} (h : Later g g') (target : Nat) : Later g (g'.advance target)
  | beside {g' g'' : Gateway} (h : Later g g') (htasks : g''.tasks = g'.tasks)
      (hjournal : g''.journal = g'.journal) : Later g g''

section Unturned

variable {task : Task}

theorem mem_advance_journal (hmem : task ∈ g.tasks) {target : Nat} (hdue : task.due ≤ target) :
    .ended task.run task.tool task.ending (max g.now task.due) ∈ (g.advance target).journal := by
  rw [advance_journal, List.mem_append, List.mem_reverse]
  exact .inl (List.mem_map.mpr ⟨task, List.mem_filter.mpr ⟨hmem, by simpa using hdue⟩, rfl⟩)

theorem mem_advance_tasks (hmem : task ∈ g.tasks) {target : Nat} (hdue : target < task.due) :
    task ∈ (g.advance target).tasks :=
  List.mem_filter.mpr ⟨hmem, by simpa using hdue⟩

/-- Only a task that heeds it is changed by a cancellation. -/
theorem mem_cancelRun_tasks (hmem : task ∈ g.tasks) (hon : task.onCancel = none) (run : Nat) :
    task ∈ (g.cancelRun run).tasks :=
  List.mem_map.mpr ⟨task, hmem, by rw [cancelTask, hon]⟩

theorem Unturned.advance (h : Unturned task g) (target : Nat) :
    Unturned task (g.advance target) := by
  rcases h with hmem | ⟨tick, hdue, hended⟩
  · by_cases hdue : task.due ≤ target
    · exact .inr ⟨_, Nat.le_max_right .., mem_advance_journal hmem hdue⟩
    · exact .inl (mem_advance_tasks hmem (Nat.lt_of_not_le hdue))
  · refine .inr ⟨tick, hdue, ?_⟩
    rw [advance_journal]
    exact List.mem_append_right _ hended

theorem Unturned.startTask (h : Unturned task g) (run : Nat) (t : Tool) (args : Json) :
    Unturned task (g.startTask run t args) := by
  rcases h with hmem | ⟨tick, hdue, hended⟩
  · exact .inl (List.mem_append_left _ hmem)
  · exact .inr ⟨tick, hdue, List.mem_cons_of_mem _ hended⟩

theorem Unturned.cancelRun (h : Unturned task g) (hon : task.onCancel = none) (run : Nat) :
    Unturned task (g.cancelRun run) := by
  rcases h with hmem | ⟨tick, hdue, hended⟩
  · exact .inl (mem_cancelRun_tasks hmem hon run)
  · refine .inr ⟨tick, hdue, ?_⟩
    rw [cancelRun_journal]
    exact List.mem_append_right _ hended

theorem Unturned.execute (h : Unturned task g) (hon : task.onCancel = none) (ctx : RunContext)
    (tool : String) (args : Json) : Unturned task (g.execute ctx tool args).1 := by
  unfold Gateway.execute
  cases g.admission tool args with
  | error f => exact h
  | ok t =>
    have hstart := h.startTask ctx.run t args
    dsimp only
    split
    · exact hstart.advance _
    · split
      · exact ((hstart.advance _).cancelRun hon _).advance _
      · exact hstart.advance _

theorem Unturned.called {result : Except Fault Json} (h : Unturned task g)
    (hc : Called g ctx tool args g' result) : Unturned task g' := by
  cases hc with
  | refused => exact h
  | ended | givenUp => exact (h.startTask _ _ _).advance _

theorem Unturned.filterOutput (h : Unturned task g) (tenant output : String) :
    Unturned task (g.filterOutput tenant output).2 := h

theorem Unturned.course {req : PlanRequest} {limit index : Nat} {tools : List String}
    {steps : List Step} {stop : Option Stop} (h : Unturned task g)
    (hc : Course ctx req limit index tools g g' steps stop) : Unturned task g' := by
  induction hc with
  | limited | late | finished => exact h
  | failed _ hcall | named _ hcall => exact h.called hcall
  | filtered _ _ hcall => exact (h.called hcall).filterOutput _ _
  | passed _ _ hcall _ _ ih => exact ih ((h.called hcall).filterOutput _ _)

theorem Unturned.plan (h : Unturned task g) (hon : task.onCancel = none) (req : PlanRequest) :
    Unturned task (g.plan req).1 := by
  obtain ⟨g', steps, stop, hran, hplan⟩ := plan_ran g req
  rw [hplan]
  have hrun : Unturned task g' := by
    cases hran with
    | refused => exact h
    | stepped ticks _ hcourse =>
      exact Unturned.course (g := { g with runs := g.runs + 1 }.occupy ticks) h hcourse
  exact hrun.cancelRun (g := { g' with metrics := _ }) hon g.runs

theorem Unturned.later (h : Unturned task g) (hon : task.onCancel = none) (hl : Later g g') :
    Unturned task g' := by
  induction hl with
  | now => exact h
  | plan _ req ih => exact ih.plan hon req
  | call _ ctx tool args ih => exact ih.execute hon ctx tool args
  | cancel _ run ih => exact ih.cancelRun hon run
  | advance _ target ih => exact ih.advance target
  | beside _ htasks hjournal ih =>
    unfold Unturned
    rw [htasks, hjournal]
    exact ih

end Unturned

/-- The tool goes on to its own end: nothing that may happen turns it from that, and if time just
passes it ends when it is due. -/
def RunsOn (g : Gateway) (task : Task) : Prop :=
  (∀ g', Later g g' → Unturned task g') ∧
    ∀ target, task.due ≤ target →
      .ended task.run task.tool task.ending task.due ∈ (g.advance target).journal

theorem runsOn_of_mem {task : Task} (hmem : task ∈ g.tasks) (hon : task.onCancel = none)
    (hdue : g.now ≤ task.due) : g.RunsOn task := by
  refine ⟨fun g' hl => Unturned.later (.inl hmem) hon hl, fun target htarget => ?_⟩
  have := mem_advance_journal hmem htarget
  rwa [Nat.max_eq_right hdue] at this

/-! ## Before a tool starts -/

theorem admission_of_denied {f : Fault} (h : g.sandbox.check tool = .error f) :
    g.admission tool args = .error .toolNotAllowed := by
  rw [admission, h, sandbox_fault h]
  rfl

theorem admission_of_unknown (h : g.sandbox.check tool = .ok ())
    (hget : g.registry.get? tool = none) :
    g.admission tool args = .error (.executorNotFound tool) := by
  rw [admission, h, hget]
  rfl

theorem admission_of_known (h : g.sandbox.check tool = .ok ())
    (hget : g.registry.get? tool = some t) :
    g.admission tool args =
      if g.sandbox.memoryLimit < args.compact.utf8ByteSize then .error .memoryLimit
      else .ok t := by
  rw [admission, h, hget]
  rfl

theorem execute_of_refused {f : Fault} (h : g.admission tool args = .error f) :
    g.execute ctx tool args = (g, .error f) := by
  rw [execute, h]

/-! ## The race -/

/-- The instants that end the wait for a tool that starts now: the sandbox's time is over, or the
run's, or the run is cancelled. -/
def limits (g : Gateway) (ctx : RunContext) : List Nat :=
  [g.now + g.sandbox.timeout, ctx.deadline] ++ ctx.cancelAt.toList

/-- When a tool that starts now ends: at its own time or, if its run is cancelled before and it
heeds that, as long after it as it takes to stop. -/
def endsAt (g : Gateway) (ctx : RunContext) (b : Behaviour) : Nat :=
  match ctx.cancelAt, b.onCancel with
  | some c, some (delay, _) =>
    if max g.now c < g.now + b.duration then max g.now c + delay else g.now + b.duration
  | _, _ => g.now + b.duration

/-- Waiting is given up at the earliest limit; one that is over already counts as now. -/
theorem min?_limits (g : Gateway) (ctx : RunContext) :
    ((g.limits ctx).map (max g.now)).min? = some (g.giveUpAt ctx) := by
  unfold limits giveUpAt
  cases ctx.cancelAt with
  | none | some c =>
    simp only [Option.toList_none, Option.toList_some, List.append_nil, List.cons_append,
      List.nil_append, List.map_cons, List.map_nil, List.min?_cons, List.min?_nil,
      Option.elim_none, Option.elim_some]
    congr 1
    omega

theorem giveUpAt_le_cancel {c : Nat} (h : ctx.cancelAt = some c) :
    g.giveUpAt ctx ≤ max g.now c := by
  simp only [giveUpAt, h]
  omega

/-- A tool that is stopped by the cancellation ends no sooner than the wait for it. -/
theorem endsAt_cases (g : Gateway) (ctx : RunContext) (b : Behaviour) :
    g.endsAt ctx b = g.now + b.duration ∨
      g.giveUpAt ctx ≤ g.endsAt ctx b ∧ g.giveUpAt ctx < g.now + b.duration := by
  unfold endsAt
  split
  · rename_i c delay _ hc hon
    have hle := giveUpAt_le_cancel (g := g) hc
    split
    · exact .inr ⟨by omega, by omega⟩
    · exact .inl rfl
  · exact .inl rfl

theorem execute_of_ended (hadm : g.admission tool args = .ok t)
    (hlt : g.now + (t.behave args).duration < g.giveUpAt ctx) :
    g.execute ctx tool args =
      ((g.startTask ctx.run t args).advance (g.now + (t.behave args).duration),
        Ending.result tool (t.behave args).ending) := by
  have hin : g.inTime (g.now + (t.behave args).duration) (g.giveUpAt ctx) = true := by
    simp [inTime, hlt]
  rw [execute, hadm]
  dsimp only
  rw [if_pos hin]

/-- The gateway when the wait for a tool is given up. -/
def abandon (g : Gateway) (ctx : RunContext) (t : Tool) (args : Json) : Gateway :=
  let late := (g.startTask ctx.run t args).advance (g.giveUpAt ctx)
  if ctx.isCancelled (g.giveUpAt ctx) then (late.cancelRun ctx.run).settle else late

theorem execute_of_late (hadm : g.admission tool args = .ok t)
    (hlt : g.giveUpAt ctx < g.now + (t.behave args).duration) :
    g.execute ctx tool args = (g.abandon ctx t args, .error .timeout) := by
  have hout : g.inTime (g.now + (t.behave args).duration) (g.giveUpAt ctx) = false := by
    simp [inTime, Nat.le_of_lt hlt, Nat.ne_of_gt hlt]
  rw [execute, hadm]
  dsimp only
  rw [hout, if_neg (by simp)]
  rfl

theorem abandon_now (g : Gateway) (ctx : RunContext) (t : Tool) (args : Json) :
    (g.abandon ctx t args).now = g.giveUpAt ctx := by
  unfold abandon
  dsimp only
  split <;> rfl

theorem launches_execute (hadm : g.admission tool args = .ok t) :
    (g.execute ctx tool args).1.launches = g.launches ++ [(⟨ctx.run, t.name, args⟩, g.now)] := by
  rw [execute, hadm]
  dsimp only
  split
  · simp
  · split <;> simp [settle]

theorem mem_startTask_tasks (g : Gateway) (run : Nat) (t : Tool) (args : Json) :
    g.taskOf run t args ∈ (g.startTask run t args).tasks :=
  startTask_tasks g run t args ▸ List.mem_append_right _ (List.mem_singleton_self _)

theorem mem_abandon_tasks (hon : (t.behave args).onCancel = none)
    (hlt : g.giveUpAt ctx < g.now + (t.behave args).duration) :
    g.taskOf ctx.run t args ∈ (g.abandon ctx t args).tasks := by
  have hlate := mem_advance_tasks (g.mem_startTask_tasks ctx.run t args) hlt
  unfold abandon
  dsimp only
  split
  · exact mem_advance_tasks (mem_cancelRun_tasks hlate hon _) hlt
  · exact hlate

/-- A tool that heeds cancellation and is given up for that is about to stop. -/
theorem mem_abandon_tasks_of_heeding {delay : Nat} {ending : Ending}
    (hon : (t.behave args).onCancel = some (delay, ending))
    (hlt : g.giveUpAt ctx < g.now + (t.behave args).duration)
    (hcancelled : ctx.isCancelled (g.giveUpAt ctx) = true)
    (hends : g.giveUpAt ctx < g.endsAt ctx (t.behave args)) :
    ⟨ctx.run, t.name, g.endsAt ctx (t.behave args), ending, none⟩ ∈
      (g.abandon ctx t args).tasks := by
  obtain ⟨c, hc, hle⟩ : ∃ c, ctx.cancelAt = some c ∧ c ≤ g.giveUpAt ctx := by
    cases hc : ctx.cancelAt with
    | none => simp [RunContext.isCancelled, hc] at hcancelled
    | some c => exact ⟨c, rfl, by simpa [RunContext.isCancelled, hc] using hcancelled⟩
  have hlimit : g.giveUpAt ctx = max g.now c :=
    Nat.le_antisymm (giveUpAt_le_cancel hc) (Nat.max_le.mpr ⟨Nat.le_max_left .., hle⟩)
  have hstop : g.endsAt ctx (t.behave args) = g.giveUpAt ctx + delay := by
    simp only [endsAt, hc, hon]
    rw [if_pos (hlimit ▸ hlt), hlimit]
  have hlate := mem_advance_tasks (g.mem_startTask_tasks ctx.run t args) hlt
  have hturned : cancelTask (g.giveUpAt ctx) ctx.run (g.taskOf ctx.run t args) =
      ⟨ctx.run, t.name, g.endsAt ctx (t.behave args), ending, none⟩ := by
    simp [cancelTask, taskOf, hon, hstop]
  unfold abandon
  dsimp only
  rw [if_pos hcancelled]
  exact mem_advance_tasks (List.mem_map.mpr ⟨_, hlate, hturned⟩) hends

/-- How the call goes that starts this tool and waits for it no longer than until the limit. -/
structure Waited (g : Gateway) (ctx : RunContext) (t : Tool) (args : Json) (limit : Nat)
    (out : Gateway × Except Fault Json) : Prop where
  started : out.1.launches = g.launches ++ [(⟨ctx.run, t.name, args⟩, g.now)]
  answered : g.endsAt ctx (t.behave args) < limit →
    out.1.now = g.endsAt ctx (t.behave args) ∧
    .ended ctx.run t.name (t.behave args).ending out.1.now ∈ out.1.journal ∧
    out.2 = match (t.behave args).ending with
      | .value v => .ok v
      | .failed f => .error (.toolFailed f.message)
      | .crashed => .error (.toolFailed (t.name ++ " ended without a result"))
  givenUp : limit < g.endsAt ctx (t.behave args) → out.1.now = limit ∧ out.2 = .error .timeout
  runsOn : limit < g.endsAt ctx (t.behave args) → (t.behave args).onCancel = none →
    out.1.RunsOn (g.taskOf ctx.run t args)
  stops : limit < g.endsAt ctx (t.behave args) → ctx.isCancelled limit = true →
    ∀ delay ending, (t.behave args).onCancel = some (delay, ending) →
      ⟨ctx.run, t.name, g.endsAt ctx (t.behave args), ending, none⟩ ∈ out.1.tasks

theorem waited_execute (hadm : g.admission tool args = .ok t) :
    g.Waited ctx t args (g.giveUpAt ctx) (g.execute ctx tool args) := by
  have hname : t.name = tool := Registry.name_of_get? (admission_ok hadm).2.1
  have hcases := g.endsAt_cases ctx (t.behave args)
  refine ⟨launches_execute hadm, fun hlt => ?_, fun hlt => ?_, fun hlt hon => ?_,
    fun hlt hcancelled delay ending hon => ?_⟩
  · have hends : g.endsAt ctx (t.behave args) = g.now + (t.behave args).duration :=
      hcases.resolve_right fun h => absurd h.1 (Nat.not_le.mpr hlt)
    rw [hends] at hlt ⊢
    rw [execute_of_ended hadm hlt, hname]
    have hended := mem_advance_journal (g.mem_startTask_tasks ctx.run t args) (Nat.le_refl _)
    have hdue : max g.now (g.now + (t.behave args).duration) = g.now + (t.behave args).duration :=
      Nat.max_eq_right (Nat.le_add_right ..)
    refine ⟨rfl, ?_, ?_⟩
    · change TaskEvent.ended ctx.run t.name _ (max g.now (g.now + _)) ∈ _ at hended
      rwa [hdue, hname] at hended
    · cases (t.behave args).ending <;> rfl
  all_goals
    have hlate : g.giveUpAt ctx < g.now + (t.behave args).duration :=
      hcases.elim (fun h => h ▸ hlt) fun h => h.2
    rw [execute_of_late hadm hlate]
  · exact ⟨abandon_now .., rfl⟩
  · refine runsOn_of_mem (mem_abandon_tasks hon hlate) hon ?_
    rw [abandon_now]
    exact Nat.le_of_lt hlate
  · exact mem_abandon_tasks_of_heeding hon hlate hcancelled hlt

/-- **What a tool call answers, and when.** If the tool may not run, is not known or is called with
too much, the call fails at once and nothing has happened. If not, the tool is started at once, and
once, with the arguments, and waited for until it ends or the earliest of the limits is reached. -/
theorem execute_exactly (g : Gateway) (ctx : RunContext) (tool : String) (args : Json) :
    match g.sandbox.check tool with
    | .error _ => g.execute ctx tool args = (g, .error .toolNotAllowed)
    | .ok () => match g.registry.get? tool with
      | none => g.execute ctx tool args = (g, .error (.executorNotFound tool))
      | some t =>
        if g.sandbox.memoryLimit < args.compact.utf8ByteSize then
          g.execute ctx tool args = (g, .error .memoryLimit)
        else t.name = tool ∧ ∃ limit, ((g.limits ctx).map (max g.now)).min? = some limit ∧
          g.Waited ctx t args limit (g.execute ctx tool args) := by
  cases hcheck : g.sandbox.check tool with
  | error f => exact execute_of_refused (admission_of_denied hcheck)
  | ok u =>
    cases hget : g.registry.get? tool with
    | none => exact execute_of_refused (admission_of_unknown hcheck hget)
    | some t =>
      have hadm : g.admission tool args = _ := admission_of_known hcheck hget
      by_cases hsize : g.sandbox.memoryLimit < args.compact.utf8ByteSize
      · rw [if_pos hsize] at hadm
        simp only [if_pos hsize]
        exact execute_of_refused hadm
      · rw [if_neg hsize] at hadm
        simp only [if_neg hsize]
        exact ⟨Registry.name_of_get? hget, _, g.min?_limits ctx, waited_execute hadm⟩

/-- A gateway with a tool that takes a minute and does not heed cancellation. -/
def stubborn : Gateway where
  firewall := .new {} none .mark
  registry := ({} : Registry).register
    { name := "crawl", behave := fun _ => ⟨60000, .value .null, none⟩ }

/-- The run is cancelled long before its time is over. -/
def hurriedContext : RunContext := ⟨0, 3000, some 500⟩

/-- The call is over at the cancellation; the tool is not, even if its run is cancelled again. -/
theorem stubborn_call_given_up :
    let out := stubborn.execute hurriedContext "crawl" .null
    out.1.launches = [(⟨0, "crawl", .null⟩, 0)] ∧ out.1.now = 500 ∧ out.2 = .error .timeout ∧
      .ended 0 "crawl" (.value .null) 60000 ∈ (out.1.advance 70000).journal ∧
      Unturned ⟨0, "crawl", 60000, .value .null, none⟩ (out.1.cancelRun 0) := by
  intro out
  have hcall := execute_exactly stubborn hurriedContext "crawl" .null
  have hcheck : stubborn.sandbox.check "crawl" = .ok () := if_neg (by decide +kernel)
  rw [hcheck] at hcall
  obtain ⟨-, limit, hlimit, hwaited⟩ := hcall
  obtain rfl : 500 = limit := Option.some.inj hlimit
  have hlate : 500 < stubborn.endsAt hurriedContext ⟨60000, .value .null, none⟩ := by decide
  obtain ⟨hnow, htimeout⟩ := hwaited.givenUp hlate
  obtain ⟨hlater, hends⟩ := hwaited.runsOn hlate rfl
  exact ⟨hwaited.started, hnow, htimeout, hends 70000 (by decide), hlater _ (.cancel .now 0)⟩

end Guardrail.Agent.Gateway
