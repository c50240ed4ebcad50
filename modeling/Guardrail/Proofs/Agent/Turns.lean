import Guardrail.Proofs.Agent.Course

/-! # Tools take turns

The journal of a gateway tells which tools of a run are at work at any moment: those that have been
started and have not ended. A run starts a tool only while none of its tools is at work, so there is
never more than one (`InTurn`). When the run returns it is cancelled; a tool of it can be at work
then only if it has been given up, and that ends the run, so it is the one of the last step. -/

namespace Guardrail.Agent

/-- The tools of a run that are at work after an event, given those at work before. -/
def TaskEvent.update (run : Nat) (working : List String) : TaskEvent → List String
  | .started r tool _ _ => if r = run then tool :: working else working
  | .ended r tool _ _ => if r = run then working.erase tool else working
  | .cancelled .. => working

/-- The tools of a run that are at work after these events and were not before. -/
def atWork (run : Nat) (events : List TaskEvent) : List String :=
  events.foldl (TaskEvent.update run) []

/-- The events are about tools of other runs. -/
def TaskEvent.Beside (run : Nat) : TaskEvent → Prop
  | .started r .. | .ended r .. => r ≠ run
  | .cancelled .. => True

/-- Events through which the tools of a run take turns, from the tool at work before them, if there
is one, to the one at work after them. -/
inductive InTurn (run : Nat) : Option String → List TaskEvent → Option String → Prop
  | nil {working : Option String} : InTurn run working [] working
  | started {tool : String} {args : Json} {tick : Nat} {events : List TaskEvent}
      {working : Option String} (h : InTurn run (some tool) events working) :
      InTurn run none (.started run tool args tick :: events) working
  | ended {tool : String} {ending : Ending} {tick : Nat} {events : List TaskEvent}
      {working : Option String} (h : InTurn run none events working) :
      InTurn run (some tool) (.ended run tool ending tick :: events) working
  | beside {event : TaskEvent} {events : List TaskEvent} {before after : Option String}
      (hbeside : event.Beside run) (h : InTurn run before events after) :
      InTurn run before (event :: events) after

namespace InTurn

variable {run : Nat} {events events' : List TaskEvent} {a b c : Option String}

theorem append (h : InTurn run a events b) (h' : InTurn run b events' c) :
    InTurn run a (events ++ events') c := by
  induction h with
  | nil => exact h'
  | started _ ih => exact .started (ih h')
  | ended _ ih => exact .ended (ih h')
  | beside hbeside _ ih => exact .beside hbeside (ih h')

theorem of_beside (h : ∀ event ∈ events, event.Beside run) : InTurn run a events a := by
  induction events with
  | nil => exact .nil
  | cons event rest ih =>
    obtain ⟨hfirst, hrest⟩ := List.forall_mem_cons.mp h
    exact .beside hfirst (ih hrest)

theorem split {before after : List TaskEvent} (h : InTurn run a (before ++ after) c) :
    ∃ b, InTurn run a before b ∧ InTurn run b after c := by
  induction before generalizing a with
  | nil => exact ⟨a, .nil, h⟩
  | cons event before ih =>
    cases h with
    | started h =>
      obtain ⟨b, hb, hc⟩ := ih h
      exact ⟨b, .started hb, hc⟩
    | ended h =>
      obtain ⟨b, hb, hc⟩ := ih h
      exact ⟨b, .ended hb, hc⟩
    | beside hbeside h =>
      obtain ⟨b, hb, hc⟩ := ih h
      exact ⟨b, .beside hbeside hb, hc⟩

theorem foldl_update (h : InTurn run a events b) :
    events.foldl (TaskEvent.update run) a.toList = b.toList := by
  induction h with
  | nil => rfl
  | started _ ih => simpa [TaskEvent.update] using ih
  | ended _ ih => simpa [TaskEvent.update] using ih
  | @beside event events before after hbeside _ ih =>
    have hsame : TaskEvent.update run before.toList event = before.toList := by
      cases event with
      | started | ended => exact if_neg hbeside
      | cancelled => rfl
    rw [List.foldl_cons, hsame, ih]

theorem atWork_eq (h : InTurn run none events b) : atWork run events = b.toList :=
  h.foldl_update

theorem of_started {tool : String} {args : Json} {tick : Nat}
    (h : InTurn run a (.started run tool args tick :: events) b) : a = none := by
  cases h with
  | started => rfl
  | beside hbeside => exact absurd rfl hbeside

/-- At any moment at most one tool is at work, and none when one is started. -/
theorem one_at_a_time (h : InTurn run none events b) {before after : List TaskEvent}
    (he : events = before ++ after) :
    (atWork run before).length ≤ 1 ∧ ∀ tool args tick rest,
      after = .started run tool args tick :: rest → atWork run before = [] := by
  subst he
  obtain ⟨c, hbefore, hafter⟩ := h.split
  rw [hbefore.atWork_eq]
  refine ⟨by cases c <;> simp, ?_⟩
  rintro tool args tick rest rfl
  rw [hafter.of_started]
  rfl

end InTurn

namespace Gateway

variable {g g' : Gateway} {ctx : RunContext} {req : PlanRequest} {tool : String} {args : Json}
  {run target : Nat}

/-! ## What the journal tells of the tasks -/

/-- The tasks of a run, in the order in which they were started. -/
def tasksOf (g : Gateway) (run : Nat) : List Task := g.tasks.filter (·.run == run)

/-- The journal and the tasks of a run have moved on together. -/
structure Progressed (g : Gateway) (run : Nat) (g' : Gateway) (events : List TaskEvent)
    (working : Option Task) : Prop where
  journal : g'.journal = events.reverse ++ g.journal
  inTurn : InTurn run none events (working.map (·.tool))
  tasksOf : g'.tasksOf run = working.toList

theorem advance_journal (g : Gateway) (target : Nat) :
    (g.advance target).journal = ((g.tasks.filter (·.due ≤ target)).map fun t =>
      .ended t.run t.tool t.ending (max g.now t.due)).reverse ++ g.journal :=
  List.foldl_flip_cons_eq_append ..

theorem cancelRun_journal (g : Gateway) (run : Nat) :
    (g.cancelRun run).journal = ((g.tasks.filter (heeds run)).map fun t =>
      .cancelled t.run t.tool g.now).reverse ++ g.journal :=
  List.foldl_flip_cons_eq_append ..

/-- The task of a tool that starts now. -/
def taskOf (g : Gateway) (run : Nat) (t : Tool) (args : Json) : Task :=
  ⟨run, t.name, g.now + (t.behave args).duration, (t.behave args).ending, (t.behave args).onCancel⟩

theorem startTask_tasks (g : Gateway) (run : Nat) (t : Tool) (args : Json) :
    (g.startTask run t args).tasks = g.tasks ++ [g.taskOf run t args] := rfl

/-- A tool that starts alone is at work until it is due. -/
theorem progressed_start (hfree : g.tasksOf run = []) (t : Tool) (args : Json) (target : Nat) :
    ∃ events, Progressed g run ((g.startTask run t args).advance target) events
      (if (g.taskOf run t args).due ≤ target then none else some (g.taskOf run t args)) := by
  have hother (x : Task) (hx : x ∈ g.tasks) : (x.run == run) = false := by
    have := List.filter_eq_nil_iff.mp hfree x hx
    simpa using this
  have hbeside (event : TaskEvent)
      (he : event ∈ (g.tasks.filter (·.due ≤ target)).map fun x : Task =>
        TaskEvent.ended x.run x.tool x.ending (max g.now x.due)) : event.Beside run := by
    obtain ⟨x, hx, rfl⟩ := List.mem_map.mp he
    simpa [TaskEvent.Beside] using hother x (List.mem_filter.mp hx).1
  refine ⟨.started run t.name args g.now :: (((g.startTask run t args).tasks.filter
    (·.due ≤ target)).map fun x => .ended x.run x.tool x.ending (max g.now x.due)), ?_, ?_, ?_⟩
  · rw [advance_journal]
    simp [startTask]
  · rw [startTask_tasks, List.filter_append, List.map_append]
    refine .started ((InTurn.of_beside hbeside).append ?_)
    by_cases hdue : (g.taskOf run t args).due ≤ target
    · simp only [hdue, decide_true, List.filter_cons_of_pos, List.filter_nil, if_true]
      exact .ended .nil
    · simp only [hdue, decide_false, Bool.false_eq_true, not_false_eq_true,
        List.filter_cons_of_neg, List.filter_nil, if_false]
      exact .nil
  · have hnone :
        ((g.tasks.filter fun x => !(x.due ≤ target : Bool)).filter (·.run == run)) = [] := by
      rw [List.filter_eq_nil_iff]
      intro x hx
      simp [hother x (List.mem_filter.mp hx).1]
    change ((g.startTask run t args).tasks.filter fun x => !(x.due ≤ target : Bool)).filter _ = _
    rw [startTask_tasks, List.filter_append, List.filter_append, hnone]
    have hrun : (g.taskOf run t args).run = run := rfl
    by_cases hdue : (g.taskOf run t args).due ≤ target
    · simp [hdue]
    · simp [hdue, hrun]

theorem Progressed.refl (h : g.tasksOf run = []) : Progressed g run g [] none :=
  ⟨rfl, .nil, h⟩

theorem Progressed.trans {g₁ g₂ : Gateway} {events events' : List TaskEvent}
    {working : Option Task} (h : Progressed g run g₁ events none)
    (hjournal : g₂.journal = g₁.journal) (h' : Progressed g₂ run g' events' working) :
    Progressed g run g' (events ++ events') working where
  journal := by rw [h'.journal, hjournal, h.journal, List.reverse_append, List.append_assoc]
  inTurn := h.inTurn.append h'.inTurn
  tasksOf := h'.tasksOf

/-! ## Calls and steps -/

/-- After a call no tool of the run is at work, unless it has been given up. -/
theorem Called.progressed {result : Except Fault Json} (h : Called g ctx tool args g' result)
    (hfree : g.tasksOf ctx.run = []) :
    ∃ events working, Progressed g ctx.run g' events working ∧
      ∀ task, working = some task → result = .error .timeout ∧
        ∃ t, g.registry.get? tool = some t ∧ task = g.taskOf ctx.run t args := by
  cases h with
  | refused => exact ⟨[], none, .refl hfree, nofun⟩
  | @ended t hadm _ =>
    obtain ⟨events, hp⟩ := progressed_start hfree t args (g.now + (t.behave args).duration)
    have hdue : (g.taskOf ctx.run t args).due ≤ g.now + (t.behave args).duration := Nat.le_refl _
    rw [if_pos hdue] at hp
    exact ⟨events, none, hp, nofun⟩
  | @givenUp t hadm _ =>
    obtain ⟨events, hp⟩ := progressed_start hfree t args (g.giveUpAt ctx)
    refine ⟨events, _, hp, fun task he => ?_⟩
    split at he
    · cases he
    · exact ⟨rfl, t, (admission_ok hadm).2.1, (Option.some.inj he).symm⟩

/-- A task that a run leaves behind: that of its last step, which was given up. -/
structure LeftBehind (g : Gateway) (req : PlanRequest) (index : Nat) (steps : List Step)
    (stop : Option Stop) (task : Task) : Prop where
  timeout : ∃ st, stop = some st ∧ st.fault = .timeout
  last : ∃ before last t, steps = before ++ [last] ∧ last.action = task.tool ∧
    g.registry.get? task.tool = some t ∧
    task.ending = (t.behave (toolArguments req (index + before.length))).ending ∧
    task.onCancel = (t.behave (toolArguments req (index + before.length))).onCancel

theorem LeftBehind.cons {index : Nat} {steps : List Step} {stop : Option Stop} {task : Task}
    (h : LeftBehind g' req (index + 1) steps stop task) (hr : g'.registry = g.registry)
    (s : Step) : LeftBehind g req index (s :: steps) stop task := by
  obtain ⟨htimeout, before, last, t, rfl, haction, hget, hending, honCancel⟩ := h
  refine ⟨htimeout, s :: before, last, t, rfl, haction, hr ▸ hget, ?_⟩
  rw [List.length_cons, ← Nat.add_assoc, Nat.add_right_comm]
  exact ⟨hending, honCancel⟩

theorem Course.progressed {limit index : Nat} {tools : List String} {steps : List Step}
    {stop : Option Stop} (h : Course ctx req limit index tools g g' steps stop)
    (hfree : g.tasksOf ctx.run = []) :
    ∃ events working, Progressed g ctx.run g' events working ∧
      ∀ task, working = some task → LeftBehind g req index steps stop task := by
  induction h with
  | limited | late | finished => exact ⟨[], none, .refl hfree, nofun⟩
  | @failed index tool _ g g' f _ hcall =>
    obtain ⟨events, working, hp, hleft⟩ := hcall.progressed hfree
    refine ⟨events, working, hp, fun task he => ?_⟩
    obtain ⟨hf, t, hget, rfl⟩ := hleft task he
    cases hf
    obtain rfl : t.name = tool := Registry.name_of_get? hget
    exact ⟨⟨_, rfl, rfl⟩, [], _, t, rfl, rfl, hget, rfl, rfl⟩
  | named _ hcall | filtered _ _ hcall =>
    obtain ⟨events, working, hp, hleft⟩ := hcall.progressed hfree
    refine ⟨events, working, ⟨hp.journal, hp.inTurn, hp.tasksOf⟩, fun task he => ?_⟩
    cases (hleft task he).1
  | @passed _ _ _ g g₁ g' v _ _ _ _ hcall _ _ ih =>
    obtain ⟨events, working, hp, hleft⟩ := hcall.progressed hfree
    cases working with
    | some task => cases (hleft task rfl).1
    | none =>
      obtain ⟨events', working', hp', hleft'⟩ := ih hp.tasksOf
      have hjournal : (g₁.filterOutput req.tenant (observed v)).2.journal = g₁.journal := rfl
      exact ⟨events ++ events', working', hp.trans hjournal hp',
        fun task he => (hleft' task he).cons hcall.frame.1 _⟩

theorem Course.frame {limit index : Nat} {tools : List String} {steps : List Step}
    {stop : Option Stop} (h : Course ctx req limit index tools g g' steps stop) :
    g'.runs = g.runs ∧ g'.cancellations = g.cancellations := by
  induction h with
  | limited | late | finished => exact ⟨rfl, rfl⟩
  | failed _ hcall | named _ hcall | filtered _ _ hcall =>
    obtain ⟨-, -, hruns, hcancellations, -⟩ := hcall.frame
    exact ⟨hruns, hcancellations⟩
  | passed _ _ hcall _ _ ih =>
    obtain ⟨-, -, hruns, hcancellations, -⟩ := hcall.frame
    exact ⟨ih.1.trans hruns, ih.2.trans hcancellations⟩

/-! ## Numbers of runs -/

/-- All tasks are those of runs before this number. -/
def Numbered (g : Gateway) (n : Nat) : Prop := ∀ t ∈ g.tasks, t.run < n

theorem Numbered.advance {n : Nat} (h : Numbered g n) (target : Nat) :
    Numbered (g.advance target) n :=
  fun t ht => h t (List.mem_filter.mp ht).1

theorem Numbered.startTask {n : Nat} (h : Numbered g n) (hrun : run < n) (t : Tool)
    (args : Json) : Numbered (g.startTask run t args) n := by
  intro x hx
  rcases List.mem_append.mp hx with hx | hx
  · exact h x hx
  · cases List.mem_singleton.mp hx
    exact hrun

theorem cancelTask_run (now run : Nat) (t : Task) : (cancelTask now run t).run = t.run := by
  unfold cancelTask
  split
  · split <;> rfl
  · rfl

theorem cancelTask_tool (now run : Nat) (t : Task) : (cancelTask now run t).tool = t.tool := by
  unfold cancelTask
  split
  · split <;> rfl
  · rfl

theorem Numbered.cancelRun {n : Nat} (h : Numbered g n) (run : Nat) :
    Numbered (g.cancelRun run) n := by
  intro x hx
  obtain ⟨t, ht, rfl⟩ := List.mem_map.mp hx
  rw [cancelTask_run]
  exact h t ht

theorem Numbered.execute {n : Nat} (h : Numbered g n) (hrun : ctx.run < n) (tool : String)
    (args : Json) : Numbered (g.execute ctx tool args).1 n := by
  unfold Gateway.execute
  cases g.admission tool args with
  | error f => exact h
  | ok t =>
    have hstart := h.startTask hrun t args
    dsimp only
    split
    · exact hstart.advance _
    · split
      · exact ((hstart.advance _).cancelRun _).advance _
      · exact hstart.advance _

theorem Numbered.called {n : Nat} {result : Except Fault Json} (h : Numbered g n)
    (hrun : ctx.run < n) (hc : Called g ctx tool args g' result) : Numbered g' n := by
  cases hc with
  | refused => exact h
  | ended | givenUp => exact (h.startTask hrun _ _).advance _

theorem Numbered.filterOutput {n : Nat} (h : Numbered g n) (tenant output : String) :
    Numbered (g.filterOutput tenant output).2 n := h

theorem Numbered.course {n limit index : Nat} {tools : List String} {steps : List Step}
    {stop : Option Stop} (h : Numbered g n) (hrun : ctx.run < n)
    (hc : Course ctx req limit index tools g g' steps stop) : Numbered g' n := by
  induction hc with
  | limited | late | finished => exact h
  | failed _ hcall | named _ hcall => exact h.called hrun hcall
  | filtered _ _ hcall => exact (h.called hrun hcall).filterOutput _ _
  | passed _ _ hcall _ _ ih => exact ih ((h.called hrun hcall).filterOutput _ _)

/-- The states of a gateway that began with no tool at work. Tools may be called outside of its
runs, time passes, and between runs everything but the tasks and the number of runs may be changed
by others. -/
inductive Reachable : Gateway → Prop
  | new {g : Gateway} (hidle : g.tasks = []) : Reachable g
  | plan {g : Gateway} (h : Reachable g) (req : PlanRequest) : Reachable (g.plan req).1
  | call {g : Gateway} (h : Reachable g) (deadline : Nat) (cancelAt : Option Nat) (tool : String)
      (args : Json) :
      Reachable ({ g with runs := g.runs + 1 }.execute ⟨g.runs, deadline, cancelAt⟩ tool args).1
  | advance {g : Gateway} (h : Reachable g) (target : Nat) : Reachable (g.advance target)
  | beside {g g' : Gateway} (h : Reachable g) (htasks : g'.tasks = g.tasks)
      (hruns : g'.runs = g.runs) : Reachable g'

theorem execute_runs (g : Gateway) (ctx : RunContext) (tool : String) (args : Json) :
    (g.execute ctx tool args).1.runs = g.runs := by
  unfold execute
  cases g.admission tool args with
  | error f => rfl
  | ok t =>
    dsimp only
    split
    · rfl
    · split <;> rfl

theorem Ran.runs_eq {steps : List Step} {stop : Option Stop} (h : Ran g req g' steps stop) :
    g'.runs = g.runs + 1 := by
  cases h with
  | refused => rfl
  | stepped _ _ hcourse => exact hcourse.frame.1

theorem Reachable.numbered (h : Reachable g) : Numbered g g.runs := by
  induction h with
  | new hidle =>
    intro t ht
    simp [hidle] at ht
  | @plan g _ req ih =>
    obtain ⟨g', steps, stop, hran, hplan⟩ := plan_ran g req
    have hruns := hran.runs_eq
    have hbegun : Numbered g (g.runs + 1) := fun t ht => Nat.lt_succ_of_lt (ih t ht)
    rw [hplan]
    change Numbered (g'.cancelRun g.runs) g'.runs
    rw [hruns]
    apply Numbered.cancelRun
    cases hran with
    | refused => exact hbegun
    | stepped ticks _ hcourse =>
      exact Numbered.course (g := { g with runs := g.runs + 1 }.occupy ticks) hbegun
        (Nat.lt_succ_self g.runs) hcourse
  | @call g _ deadline cancelAt tool args ih =>
    rw [execute_runs]
    exact Numbered.execute (g := { g with runs := g.runs + 1 })
      (fun t ht => Nat.lt_succ_of_lt (ih t ht)) (Nat.lt_succ_self g.runs) tool args
  | advance _ target ih => exact ih.advance target
  | beside _ htasks hruns ih =>
    intro t ht
    rw [hruns]
    exact ih t (htasks ▸ ht)

/-! ## At the return -/

theorem tasksOf_cancelRun (g : Gateway) (run : Nat) :
    (g.cancelRun run).tasksOf run = (g.tasksOf run).map (cancelTask g.now run) := by
  have hrun : ((·.run == run) ∘ cancelTask g.now run) = fun t : Task => t.run == run := by
    funext t
    simp [cancelTask_run]
  rw [tasksOf, tasksOf, cancelRun, List.filter_map, hrun]

/-- A run was cancelled at this tick while a task of a tool with this behaviour was at work: it has
been told, or it never asks. -/
def Told (b : Behaviour) (run now : Nat) (events : List TaskEvent) (task : Task) : Prop :=
  match b.onCancel with
  | some (delay, ending) =>
    task.due = now + delay ∧ task.ending = ending ∧ .cancelled run task.tool now ∈ events
  | none => task.ending = b.ending

theorem told_cancelTask {b : Behaviour} {task : Task} (hrun : task.run = run)
    (hending : task.ending = b.ending) (honCancel : task.onCancel = b.onCancel)
    {now : Nat} {tasks : List Task} (hmem : task ∈ tasks) (events : List TaskEvent) :
    Told b run now
      (events ++ (tasks.filter (heeds run)).map fun t => .cancelled t.run t.tool now)
      (cancelTask now run task) := by
  unfold Told cancelTask
  rw [← honCancel]
  cases hon : task.onCancel with
  | none => exact hending
  | some other =>
    obtain ⟨delay, ending⟩ := other
    simp only [hrun, if_true, true_and]
    have hheeds : task ∈ tasks.filter (heeds run) :=
      List.mem_filter.mpr ⟨hmem, by simp [heeds, hrun, hon]⟩
    have := List.mem_map_of_mem (f := fun t : Task => TaskEvent.cancelled t.run t.tool now) hheeds
    rw [hrun] at this
    exact List.mem_append_right _ this

/-- A tool that is at work when its run returns: it is that of the last step, and it has been told
that the run is over. -/
def Abandoned (g : Gateway) (req : PlanRequest) (steps : List Step) (now : Nat)
    (events : List TaskEvent) (task : Task) : Prop :=
  ∃ before last t, steps = before ++ [last] ∧ last.action = task.tool ∧
    g.registry.get? task.tool = some t ∧
    Told (t.behave (toolArguments req before.length)) g.runs now events task

theorem Ran.progressed {steps : List Step} {stop : Option Stop} (h : Ran g req g' steps stop)
    (hfree : g.tasksOf g.runs = []) :
    ∃ events working, Progressed g g.runs g' events working ∧
      ∀ task, working = some task → LeftBehind g req 0 steps stop task := by
  cases h with
  | refused => exact ⟨[], none, ⟨rfl, .nil, hfree⟩, nofun⟩
  | stepped _ _ hcourse =>
    obtain ⟨events, working, hp, hleft⟩ := hcourse.progressed hfree
    refine ⟨events, working, ⟨hp.journal, hp.inTurn, hp.tasksOf⟩, fun task he => ?_⟩
    obtain ⟨htimeout, hlast⟩ := hleft task he
    exact ⟨htimeout, hlast⟩

theorem Ran.cancellations_eq {steps : List Step} {stop : Option Stop}
    (h : Ran g req g' steps stop) : g'.cancellations = g.cancellations := by
  cases h with
  | refused => rfl
  | stepped _ _ hcourse => exact hcourse.frame.2

/-- **The tools of a run take turns, and none outlives it unnoticed.** At every moment of a run at
most one of its tools is at work, and none when one is started. The run is cancelled once, when it
returns. A tool that is then at work has been given up: the run ends with a timeout, the tool is
that of the last step, and it has been told. -/
theorem plan_takes_turns (h : Reachable g) (req : PlanRequest) :
    ∃ events, (g.plan req).1.journal = events.reverse ++ g.journal ∧
      (∀ before after, events = before ++ after →
        (atWork g.runs before).length ≤ 1 ∧ ∀ tool args tick rest,
          after = .started g.runs tool args tick :: rest → atWork g.runs before = []) ∧
      (g.plan req).1.cancellations = ⟨g.runs, (g.plan req).1.now⟩ :: g.cancellations ∧
      ((g.plan req).1.tasksOf g.runs).map (·.tool) = atWork g.runs events ∧
      ∀ task ∈ (g.plan req).1.tasksOf g.runs, ∃ e, (g.plan req).2 = .error e ∧
        e.fault = .timeout ∧ Abandoned g req e.report.steps (g.plan req).1.now events task := by
  have hfree : g.tasksOf g.runs = [] := by
    rw [tasksOf, List.filter_eq_nil_iff]
    intro t ht
    simpa using Nat.ne_of_lt (h.numbered t ht)
  obtain ⟨g', steps, stop, hran, hplan⟩ := plan_ran g req
  obtain ⟨events, working, ⟨hjournal, hturns, htasks⟩, hleft⟩ := hran.progressed hfree
  have hcancelled := hran.cancellations_eq
  rw [hplan]
  dsimp only [conclude]
  have htold : InTurn g.runs (working.map (·.tool))
      ((g'.tasks.filter (heeds g.runs)).map fun t => .cancelled t.run t.tool g'.now)
      (working.map (·.tool)) := by
    apply InTurn.of_beside
    intro event he
    obtain ⟨t, -, rfl⟩ := List.mem_map.mp he
    trivial
  have hall := hturns.append htold
  have hremain : (g'.cancelRun g.runs).tasksOf g.runs =
      working.toList.map (cancelTask g'.now g.runs) := by
    rw [tasksOf_cancelRun, htasks]
  refine ⟨_, ?_, fun before after => hall.one_at_a_time, ?_, ?_, ?_⟩
  · rw [cancelRun_journal, List.reverse_append, List.append_assoc, ← hjournal]
  · rw [← hcancelled]
    rfl
  · refine Eq.trans (congrArg _ hremain) ?_
    rw [hall.atWork_eq]
    cases working <;> simp [cancelTask_tool]
  · intro task htask
    obtain ⟨t, ht, rfl⟩ := List.mem_map.mp (hremain ▸ htask)
    obtain rfl : working = some t := by simpa [eq_comm] using ht
    obtain ⟨⟨st, rfl, hfault⟩, before, last, tool, hsteps, haction, hget, hending, honCancel⟩ :=
      hleft t rfl
    rw [Nat.zero_add] at hending honCancel
    have hmem : t ∈ g'.tasksOf g.runs := by simp [htasks]
    obtain ⟨hmem, hrun⟩ := List.mem_filter.mp hmem
    refine ⟨_, rfl, hfault, before, last, tool, hsteps, ?_, ?_, ?_⟩
    · rw [cancelTask_tool, haction]
    · rw [cancelTask_tool, hget]
    · exact told_cancelTask (by simpa using hrun) hending honCancel hmem events

/-- A gateway with a tool that takes a minute, and five ticks to stop when it is cancelled. -/
def patient : Gateway where
  firewall := .new {} none .mark
  registry := ({} : Registry).register
    { name := "crawl", behave := fun _ => ⟨60000, .value .null, some (5, .crashed)⟩ }

def crawlRequest : PlanRequest where
  tenant := "acme"
  prompt := "crawl the site"
  tools := ["crawl"]

/-- After a run that waited half a minute the tool is at work and about to stop. -/
theorem patient_plan_takes_turns :
    Reachable patient ∧
      (patient.plan crawlRequest).1.cancellations = [⟨0, 30000⟩] ∧
      (∃ task ∈ (patient.plan crawlRequest).1.tasksOf 0, task.due = 30005) ∧
      ∃ events, ∀ task ∈ (patient.plan crawlRequest).1.tasksOf 0,
        ∃ e, (patient.plan crawlRequest).2 = .error e ∧ e.fault = .timeout ∧
          Abandoned patient crawlRequest e.report.steps (patient.plan crawlRequest).1.now
            events task := by
  have hreachable : Reachable patient := .new rfl
  obtain ⟨events, -, -, -, -, habandoned⟩ := plan_takes_turns hreachable crawlRequest
  have hdue : ((patient.plan crawlRequest).1.tasksOf 0).any (·.due == 30005) = true := by
    decide +kernel
  refine ⟨hreachable, by decide +kernel, ?_, events, habandoned⟩
  obtain ⟨task, hmem, hdue⟩ := List.any_eq_true.mp hdue
  exact ⟨task, hmem, by simpa using hdue⟩

end Gateway
end Guardrail.Agent
