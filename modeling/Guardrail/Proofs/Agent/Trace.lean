import Guardrail.Proofs.Agent.Screening

/-! # The trace of a run

The steps that a run reports follow its tools: the step in each place has the number of the place
and the tool of the request that stands there, and the finishing step comes after the last tool.
The tools that were started are those of the steps. How a run ends can be read off its steps, as
long as no tool has the name of the finishing action: there is a blocked step exactly after a
failing tool call, where it is the last. -/

namespace Guardrail.Agent

/-- The step in the place with this index is that of the tool in this place or, after all tools, the
finishing one. -/
structure StepAt (req : PlanRequest) (index : Nat) (s : Step) : Prop where
  iteration : s.iteration = index + 1
  action : req.tools[index]? = some s.action ∨
    (index = req.tools.length ∧ s.action = Gateway.finishAction ∧
      s.observation = "Task completed")

/-- Steps that follow one another from an index on. -/
def StepsFrom (req : PlanRequest) (index : Nat) (steps : List Step) : Prop :=
  ∀ j s, steps[j]? = some s → StepAt req (index + j) s

theorem StepsFrom.cons {req : PlanRequest} {index : Nat} {s : Step} {steps : List Step}
    (hs : StepAt req index s) (hrest : StepsFrom req (index + 1) steps) :
    StepsFrom req index (s :: steps) := by
  intro j s' hj
  cases j with
  | zero =>
    cases hj
    exact hs
  | succ j =>
    have := hrest j s' hj
    rwa [Nat.add_assoc, Nat.add_comm 1] at this

theorem StepsFrom.nil {req : PlanRequest} {index : Nat} : StepsFrom req index [] := by
  intro j s hj
  simp at hj

/-- The last step, and no other, is blocked, for this fault. -/
def BlockedLast (f : Fault) (steps : List Step) : Prop :=
  ∃ before last, steps = before ++ [last] ∧ (∀ s ∈ before, s.blocked = false) ∧
    last.blocked = true ∧ last.blockReason = f.message ∧ last.observation = "Error: " ++ f.message

/-- A gate of a run refused. -/
def Fault.ofGate : Fault → Bool
  | promptRejected | toolBlockedByPolicy | toolNotAllowed => true
  | _ => false

/-- What the steps of a stopped run show of the fault that stopped it. -/
def Fault.Shown (f : Fault) (reason : String) (steps : List Step) : Prop :=
  match f with
  | promptRejected | toolBlockedByPolicy | toolNotAllowed => steps = []
  | outputFiltered | deadlineExceeded =>
    ∀ s ∈ steps, s.blocked = false ∧ s.action ≠ Gateway.finishAction
  | timeout | memoryLimit | executorNotFound _ | toolFailed _ =>
    reason = f.message ∧ BlockedLast f steps

namespace Gateway

variable {g g' : Gateway} {ctx : RunContext} {req : PlanRequest} {limit index : Nat}
  {tools : List String} {steps : List Step} {stop : Option Stop}

theorem stepAt_toolStep {done rest : List String} {tool : String}
    (hsplit : req.tools = done ++ tool :: rest) (duration : Nat) (result : Except Fault Json) :
    StepAt req done.length (toolStep req done.length tool duration result) :=
  ⟨rfl, .inl (by simp [hsplit, toolStep])⟩

/-- Every step stands in its place. -/
theorem Course.stepsFrom (h : Course ctx req limit index tools g g' steps stop) :
    ∀ done, req.tools = done ++ tools → done.length = index → StepsFrom req index steps := by
  induction h with
  | limited | late => exact fun _ _ _ => .nil
  | finished =>
    rintro done hsplit rfl
    refine .cons ⟨rfl, .inr ⟨?_, rfl, rfl⟩⟩ .nil
    simp [hsplit]
  | failed | named | filtered =>
    rintro done hsplit rfl
    exact .cons (stepAt_toolStep hsplit ..) .nil
  | @passed _ tool rest _ _ _ _ _ _ _ _ _ _ _ ih =>
    rintro done hsplit rfl
    refine .cons (stepAt_toolStep hsplit ..) (ih (done ++ [tool]) ?_ ?_)
    · simp [hsplit]
    · simp

/-! ## Tools that were started -/

/-- The tools that are left after a call are still allowed. -/
theorem Called.allowed_rest {tool : String} {args : Json} {result : Except Fault Json}
    (h : Called g ctx tool args g' result)
    (hs : ∀ t ∈ tool :: tools, g.sandbox.check t = .ok ()) :
    ∀ t ∈ tools, g'.sandbox.check t = .ok () := by
  rw [h.frame.2.1]
  exact fun t ht => hs t (List.mem_cons_of_mem _ ht)

/-- Whether a tool call gets as far as the start of the tool. -/
def startable (g : Gateway) (s : Start) : Bool :=
  (g.registry.get? s.tool).isSome && s.args.compact.utf8ByteSize ≤ g.sandbox.memoryLimit

theorem startable_congr (hr : g'.registry = g.registry) (hs : g'.sandbox = g.sandbox) :
    g'.startable = g.startable := by
  funext s
  simp [startable, hr, hs]

theorem startable_of_admission {t : Tool} {tool : String} {args : Json}
    (h : g.admission tool args = .ok t) (run : Nat) : g.startable ⟨run, tool, args⟩ = true := by
  obtain ⟨-, hget, hsize⟩ := admission_ok h
  simp [startable, hget, hsize]

theorem not_startable_of_admission {f : Fault} {tool : String} {args : Json}
    (h : g.admission tool args = .error f) (hs : g.sandbox.check tool = .ok ()) (run : Nat) :
    g.startable ⟨run, tool, args⟩ = false := by
  rcases admission_error h hs with ⟨-, hnone⟩ | ⟨-, hsize⟩
  · simp [startable, hnone]
  · simp [startable, hsize]

theorem Called.starts_eq {tool : String} {args : Json} {result : Except Fault Json}
    (h : Called g ctx tool args g' result) (hs : g.sandbox.check tool = .ok ()) :
    g'.starts = g.starts ++ [⟨ctx.run, tool, args⟩].filter g.startable := by
  cases h with
  | refused hadm => simp [not_startable_of_admission hadm hs]
  | ended hadm | givenUp hadm =>
    have hname := Registry.name_of_get? (admission_ok hadm).2.1
    simp [startable_of_admission hadm, hname]

theorem Called.startable {tool : String} {args v : Json}
    (h : Called g ctx tool args g' (.ok v)) : g.startable ⟨ctx.run, tool, args⟩ = true := by
  generalize hr : (Except.ok v : Except Fault Json) = result at h
  cases h with
  | refused => cases hr
  | ended hadm | givenUp hadm => exact startable_of_admission hadm _

/-- The tools of the steps have been started, in their order. Only the call of the last one may not
have got that far. -/
theorem Course.starts_eq (h : Course ctx req limit index tools g g' steps stop)
    (hs : ∀ tool ∈ tools, g.sandbox.check tool = .ok ()) :
    g'.starts = g.starts ++
        (startsFrom ctx.run req index (tools.take steps.length)).filter g.startable ∧
      ∀ s ∈ startsFrom ctx.run req index (tools.take (steps.length - 1)), g.startable s = true := by
  induction h with
  | limited | late | finished => simp [startsFrom]
  | failed _ hcall | named _ hcall =>
    have := hcall.starts_eq (hs _ (List.mem_cons_self ..))
    simp [startsFrom, this]
  | filtered _ _ hcall =>
    have := hcall.starts_eq (hs _ (List.mem_cons_self ..))
    simp [startsFrom, this]
  | @passed index tool rest g g₁ g' v steps stop _ _ hcall _ _ ih =>
    obtain ⟨hregistry, hsandbox, -⟩ := hcall.frame
    have hsame : (g₁.filterOutput req.tenant (observed v)).2.startable = g.startable :=
      startable_congr hregistry hsandbox
    obtain ⟨hstarts, hbefore⟩ := ih (hcall.allowed_rest hs)
    rw [hsame] at hstarts hbefore
    constructor
    · rw [hstarts, starts_filterOutput, hcall.starts_eq (hs tool (List.mem_cons_self ..)),
        List.length_cons, List.take_succ_cons, startsFrom_cons]
      simp [hcall.startable]
    · intro s hmem
      cases hn : steps.length with
      | zero => simp [hn, startsFrom] at hmem
      | succ n =>
        rw [List.length_cons, Nat.add_sub_cancel, hn, List.take_succ_cons, startsFrom_cons] at hmem
        rcases List.mem_cons.mp hmem with rfl | hmem
        · exact hcall.startable
        · rw [hn] at hbefore
          exact hbefore s hmem

/-! ## How the run ended -/

/-- What the steps show of the end of a run with so many places and tools left. -/
def Ended (places tools : Nat) (steps : List Step) : Option Stop → Prop
  | none => steps.length = min places (tools + 1) ∧ ∀ s ∈ steps, s.blocked = false
  | some stop => stop.fault.Shown stop.reason steps

theorem blockedLast_toolStep (f : Fault) (index : Nat) (tool : String) (duration : Nat) :
    BlockedLast f [toolStep req index tool duration (.error f)] :=
  ⟨[], _, rfl, by simp, rfl, rfl, rfl⟩

/-- The fault of a tool that is on neither list of the sandbox is shown by its step. -/
theorem Called.shown {tool : String} {args : Json} {f : Fault}
    (h : Called g ctx tool args g' (.error f)) (hs : g.sandbox.check tool = .ok ()) :
    f.ofGate = false ∧ ∀ steps, BlockedLast f steps → f.Shown f.message steps := by
  rcases h.error with hadm | ⟨text, rfl⟩ | rfl
  · rcases admission_error hadm hs with ⟨rfl, -⟩ | ⟨rfl, -⟩ <;>
      exact ⟨rfl, fun _ hlast => ⟨rfl, hlast⟩⟩
  · exact ⟨rfl, fun _ hlast => ⟨rfl, hlast⟩⟩
  · exact ⟨rfl, fun _ hlast => ⟨rfl, hlast⟩⟩

theorem Ended.cons {places tools : Nat} {s : Step} (h : Ended places tools steps stop)
    (hgate : ∀ st, stop = some st → st.fault.ofGate = false)
    (hs : s.blocked = false) (ha : s.action ≠ finishAction) :
    Ended (places + 1) (tools + 1) (s :: steps) stop := by
  cases stop with
  | none =>
    obtain ⟨hlength, hsteps⟩ := h
    refine ⟨by rw [List.length_cons, hlength]; omega, ?_⟩
    exact List.forall_mem_cons.mpr ⟨hs, hsteps⟩
  | some st =>
    obtain ⟨⟨f, reason, signals⟩, count⟩ := st
    have hnot := hgate _ rfl
    cases f with
    | promptRejected | toolBlockedByPolicy | toolNotAllowed => cases hnot
    | outputFiltered | deadlineExceeded => exact List.forall_mem_cons.mpr ⟨⟨hs, ha⟩, h⟩
    | timeout | memoryLimit | executorNotFound | toolFailed =>
      obtain ⟨hreason, before, last, rfl, hbefore, hlast⟩ := h
      exact ⟨hreason, s :: before, last, rfl, List.forall_mem_cons.mpr ⟨hs, hbefore⟩, hlast⟩

theorem Course.ended (h : Course ctx req limit index tools g g' steps stop)
    (hs : ∀ tool ∈ tools, g.sandbox.check tool = .ok ()) (hfin : finishAction ∉ tools) :
    Ended (limit - index) tools.length steps stop ∧
      ∀ st, stop = some st → st.fault.ofGate = false := by
  induction h with
  | limited hlimit => exact ⟨⟨by simp [Nat.sub_eq_zero_of_le hlimit], by simp⟩, nofun⟩
  | late hlt =>
    refine ⟨by simp [Ended, Fault.Shown], ?_⟩
    rintro _ ⟨⟩
    rfl
  | finished hgo =>
    have hlt := hgo.room
    refine ⟨⟨?_, by simp [finishStep]⟩, nofun⟩
    simp only [List.length_singleton, List.length_nil]
    omega
  | failed _ hcall =>
    obtain ⟨hgate, hshown⟩ := hcall.shown (hs _ (List.mem_cons_self ..))
    refine ⟨hshown _ (blockedLast_toolStep ..), ?_⟩
    rintro _ ⟨⟩
    exact hgate
  | named => simp at hfin
  | filtered _ hne =>
    refine ⟨by simp [Ended, Fault.Shown, toolStep, hne], ?_⟩
    rintro _ ⟨⟩
    rfl
  | @passed index tool rest g g₁ g' v steps stop hgo hne hcall _ _ ih =>
    have hlt := hgo.room
    obtain ⟨hended, hgate⟩ := ih (hcall.allowed_rest hs)
      (fun hmem => hfin (List.mem_cons_of_mem _ hmem))
    have hcons := hended.cons (s := toolStep req index tool (g₁.now - g.now) (.ok v)) hgate rfl hne
    rw [show limit - (index + 1) + 1 = limit - index by omega] at hcons
    exact ⟨hcons, hgate⟩

theorem Course.length_le (h : Course ctx req limit index tools g g' steps stop) :
    steps.length ≤ min (limit - index) (tools.length + 1) := by
  induction h with
  | limited | late => exact Nat.zero_le _
  | finished hgo | failed hgo | named hgo | filtered hgo =>
    have hlt := hgo.room
    simp only [List.length_singleton]
    omega
  | passed hgo _ _ _ _ ih =>
    have hlt := hgo.room
    simp only [List.length_cons]
    omega

theorem refusal?_ofGate {gate : Gate} {stop : Stop} (h : Gate.refusal? g req gate = some stop) :
    stop.fault.ofGate = true := by
  cases gate with
  | prompt | policy =>
    simp only [Gate.refusal?] at h
    split at h
    · cases h
    · cases h
      rfl
  | sandbox tool =>
    simp only [Gate.refusal?] at h
    split at h
    · cases h
    · rename_i f hf
      cases h
      cases sandbox_fault hf
      rfl

/-! ## The whole trace -/

/-- The report of a run, however it ended. -/
def finalReport : Except PlanError PlanReport → PlanReport
  | .ok report => report
  | .error e => e.report

/-- What a run before its end leaves behind. -/
structure Traced (g : Gateway) (req : PlanRequest) (g' : Gateway) (steps : List Step)
    (stop : Option Stop) : Prop where
  length_le : steps.length ≤ min (g.iterationLimit req) (req.tools.length + 1)
  stepsFrom : StepsFrom req 0 steps
  starts_eq : g'.starts = g.starts ++
    (startsFrom g.runs req 0 (req.tools.take steps.length)).filter g.startable
  startable : ∀ s ∈ startsFrom g.runs req 0 (req.tools.take (steps.length - 1)),
    g.startable s = true
  ended : Ended (g.iterationLimit req) req.tools.length steps stop

theorem Ran.traced (h : Ran g req g' steps stop) (hfin : finishAction ∉ req.tools) :
    Traced g req g' steps stop := by
  cases h with
  | @refused stop ticks hstop =>
    obtain ⟨gate, -, hgate⟩ := List.exists_of_findSome?_eq_some hstop
    have hfault := refusal?_ofGate hgate
    refine ⟨Nat.zero_le _, .nil, ?_, by simp [startsFrom], ?_⟩
    · simp [startsFrom, starts, occupy]
    · obtain ⟨⟨f, reason, signals⟩, count⟩ := stop
      cases f with
      | promptRejected | toolBlockedByPolicy | toolNotAllowed => rfl
      | _ => cases hfault
  | stepped ticks hpassed hcourse =>
    have hcheck (tool : String) (ht : tool ∈ req.tools) : g.sandbox.check tool = .ok () :=
      (hpassed.2 tool ht).2
    obtain ⟨hstarts, hbefore⟩ := hcourse.starts_eq hcheck
    exact ⟨hcourse.length_le, hcourse.stepsFrom [] rfl rfl, hstarts, hbefore,
      (hcourse.ended hcheck hfin).1⟩

/-- **The trace of a run follows its tools.** The steps are numbered in order, each is that of the
tool in its place, and the finishing one comes after all tools; exactly their tools have been
started, once each and in this order, but for a last one that could not be. A run that completes
takes all the steps it has room for. A blocked step is there only after a failing tool call, as the
last one, and it says why. -/
theorem plan_traced (g : Gateway) (req : PlanRequest) (hfin : finishAction ∉ req.tools) :
    let steps := (finalReport (g.plan req).2).steps
    steps.length ≤ min (g.iterationLimit req) (req.tools.length + 1) ∧
      (∀ j s, steps[j]? = some s → StepAt req j s) ∧
      (g.plan req).1.starts = g.starts ++
        (startsFrom g.runs req 0 (req.tools.take steps.length)).filter g.startable ∧
      (∀ s ∈ startsFrom g.runs req 0 (req.tools.take (steps.length - 1)),
        g.startable s = true) ∧
      match (g.plan req).2 with
      | .ok report => report.allowed = true ∧
          steps.length = min (g.iterationLimit req) (req.tools.length + 1) ∧
          ∀ s ∈ steps, s.blocked = false
      | .error e => e.report.allowed = false ∧ e.fault.Shown e.report.reason steps := by
  obtain ⟨g', steps, stop, hran, hplan⟩ := plan_ran g req
  obtain ⟨hlength, hsteps, hstarts, hbefore, hended⟩ := hran.traced hfin
  have hreport : (finalReport (g.plan req).2).steps = steps := by
    rw [hplan]
    cases stop <;> rfl
  have hrecord : (g.plan req).1.starts = g'.starts := by
    rw [hplan]
    exact starts_cancelRun ..
  rw [hreport, hrecord]
  refine ⟨hlength, fun j s hj => ?_, hstarts, hbefore, ?_⟩
  · have := hsteps j s hj
    rwa [Nat.zero_add] at this
  · rw [hplan]
    cases stop with
    | none => exact ⟨rfl, hended⟩
    | some st => exact ⟨rfl, hended⟩

/-- A gateway with a tool that works and one that does not. -/
def staffed : Gateway where
  firewall := .new {} none .mark
  registry := (({} : Registry).register (.idle "search" "")).register
    { name := "fetch", behave := fun _ => ⟨0, .failed ⟨.internal, "upstream 502"⟩, none⟩ }

/-- The limit is reached when the tools are used up, but the second of three fails. -/
def staffedRequest : PlanRequest where
  tenant := "acme"
  prompt := "find and fetch"
  tools := ["search", "fetch", "search"]
  maxIterations := 3

theorem staffed_plan_traced :
    finishAction ∉ staffedRequest.tools ∧
      ∃ e, (staffed.plan staffedRequest).2 = .error e ∧
        e.fault = .toolFailed "Internal error: upstream 502" ∧
        BlockedLast e.fault e.report.steps ∧
        ∀ j s, e.report.steps[j]? = some s → StepAt staffedRequest j s := by
  have hfin : finishAction ∉ staffedRequest.tools := by decide
  have hfault : (match (staffed.plan staffedRequest).2 with
      | .ok _ => none
      | .error e => some e.fault) = some (.toolFailed "Internal error: upstream 502") := by
    decide +kernel
  obtain ⟨-, hsteps, -, -, hend⟩ := plan_traced staffed staffedRequest hfin
  cases hr : (staffed.plan staffedRequest).2 with
  | ok report => rw [hr] at hfault; cases hfault
  | error e =>
    rw [hr] at hfault hend hsteps
    have he : e.fault = .toolFailed "Internal error: upstream 502" := Option.some.inj hfault
    obtain ⟨-, hshown⟩ := hend
    rw [he] at hshown
    exact ⟨hfin, e, rfl, he, he ▸ hshown.2, hsteps⟩

end Gateway
end Guardrail.Agent
