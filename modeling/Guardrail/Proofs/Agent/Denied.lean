import Guardrail.Proofs.Agent.Course
import Guardrail.Proofs.Terms

/-! # Denied tools

The lists of a sandbox only grow, so what the deny list has ruled out once it rules out for good,
whatever else is changed. A history of a gateway is told as a chronicle: changes and starts one
after another, with anything beside them that touches neither. Every sequence of calls has one, and
so have calls that overlap, as a start is told by itself and not with the call or run that it is
part of. -/

namespace Guardrail.Agent

/-! ## What can be asked of a gateway -/

/-- A change to what may run and within which limits. -/
inductive Change where
  | setTimeout (ticks : Nat)
  | setMemoryLimit (bytes : Nat)
  | addAllowed (tools : List String)
  | addDenied (tools : List String)
  | register (t : Tool)
  | unregister (name : String)

inductive Demand where
  | change (c : Change)
  | execute (ctx : RunContext) (tool : String) (args : Json)
  | plan (req : PlanRequest)

def Demand.change? : Demand → Option Change
  | change c => some c
  | _ => none

inductive Event where
  | changed (c : Change)
  | started (tool : String)

def Event.started? : Event → Option String
  | started tool => some tool
  | changed _ => none

/-- The entries that changes have put on the allow list. -/
def allowedIn (log : List Event) : List String :=
  log.flatMap fun
    | .changed (.addAllowed tools) => tools
    | _ => []

/-- The entries that changes have put on the deny list. -/
def deniedIn (log : List Event) : List String :=
  log.flatMap fun
    | .changed (.addDenied tools) => tools
    | _ => []

/-! ## What a sandbox lets pass -/

/-- The tool is ruled out neither by the built-in entries nor by what stands on the lists after
these events. -/
structure Permitted (s : Sandbox) (before : List Event) (tool : String) : Prop where
  builtin : ∀ entry ∈ builtinDenied, Text.contains (Text.lower tool) entry = false
  denied : ∀ entry ∈ s.extraDenied ++ deniedIn before, entry ≠ "" →
    Text.contains (Text.lower tool) (Text.lower entry) = false
  allowed : s.allowed ++ allowedIn before ≠ [] →
    ∃ entry ∈ s.allowed ++ allowedIn before, Text.lower entry = Text.lower tool

theorem Sandbox.check_eq_ok_iff {s : Sandbox} {tool : String} :
    s.check tool = .ok () ↔
      (∀ entry ∈ s.denied, entry ≠ "" → Text.mentions tool entry = false) ∧
        (s.allowed ≠ [] → ∃ entry ∈ s.allowed, Text.lower entry = Text.lower tool) := by
  have hpass : s.check tool = .ok () ↔
      (Text.firstMentioned tool s.denied).isSome = false ∧ s.isAllowed tool = true := by
    unfold Sandbox.check
    cases (Text.firstMentioned tool s.denied).isSome <;> cases s.isAllowed tool <;> simp
  have hdenied : (Text.firstMentioned tool s.denied).isSome = false ↔
      ∀ entry ∈ s.denied, entry ≠ "" → Text.mentions tool entry = false := by
    rw [← Bool.not_eq_true, Text.isSome_firstMentioned_iff]
    simp
  have hallowed : s.isAllowed tool = true ↔
      (s.allowed ≠ [] → ∃ entry ∈ s.allowed, Text.lower entry = Text.lower tool) := by
    simp only [Sandbox.isAllowed, Bool.or_eq_true, List.isEmpty_iff, List.any_eq_true, beq_iff_eq]
    exact or_iff_not_imp_left
  rw [hpass, hdenied, hallowed]

/-- The built-in entries are written in lower case. -/
theorem lower_of_mem_builtinDenied :
    ∀ entry ∈ builtinDenied, entry ≠ "" ∧ Text.lower entry = entry := by
  decide +kernel

namespace Gateway

def change (g : Gateway) : Change → Gateway
  | .setTimeout ticks => { g with sandbox := { g.sandbox with timeout := ticks } }
  | .setMemoryLimit bytes => { g with sandbox := { g.sandbox with memoryLimit := bytes } }
  | .addAllowed tools => { g with sandbox := g.sandbox.allow tools }
  | .addDenied tools => { g with sandbox := g.sandbox.deny tools }
  | .register t => { g with registry := g.registry.register t }
  | .unregister name => { g with registry := g.registry.unregister name }

def perform (g : Gateway) : Demand → Gateway
  | .change c => g.change c
  | .execute ctx tool args => (g.execute ctx tool args).1
  | .plan req => (g.plan req).1

def performAll (g : Gateway) (demands : List Demand) : Gateway := demands.foldl perform g

/-- The tools that were started between two states. -/
def startedSince (g g' : Gateway) : List String :=
  (g'.starts.drop g.starts.length).map (·.tool)

/-- What happens at the sandbox while the demands are met one after another. -/
def log (g : Gateway) : List Demand → List Event
  | [] => []
  | d :: rest => d.change?.toList.map .changed
      ++ (g.startedSince (g.perform d)).map .started ++ (g.perform d).log rest

/-! ## Chronicles -/

/-- What has happened at the sandbox on the way from one state to another. Calls and runs that are
under way at the same time may take turns in any order. -/
inductive Chronicle (g : Gateway) : List Event → Gateway → Prop
  | begin : Chronicle g [] g
  | changed {log : List Event} {g' : Gateway} (h : Chronicle g log g') (c : Change) :
      Chronicle g (log ++ [.changed c]) (g'.change c)
  | started {log : List Event} {g' : Gateway} {tool : String} {args : Json} {t : Tool}
      (h : Chronicle g log g') (hadm : g'.admission tool args = .ok t) (run : Nat) :
      Chronicle g (log ++ [.started tool]) (g'.startTask run t args)
  | beside {log : List Event} {g' g'' : Gateway} (h : Chronicle g log g')
      (hsandbox : g''.sandbox = g'.sandbox) (hregistry : g''.registry = g'.registry)
      (hstarts : g''.starts = g'.starts) : Chronicle g log g''

variable {g g' g'' : Gateway} {log log' : List Event} {ctx : RunContext} {req : PlanRequest}
  {tool : String} {args : Json}

theorem Chronicle.trans (h : Chronicle g log g') (h' : Chronicle g' log' g'') :
    Chronicle g (log ++ log') g'' := by
  induction h' with
  | begin => simpa using h
  | changed _ c ih => simpa using ih.changed c
  | started _ hadm run ih => simpa using ih.started hadm run
  | beside _ hsandbox hregistry hstarts ih => exact ih.beside hsandbox hregistry hstarts

/-- The lists of the sandbox hold what they held at first and what was added since. -/
theorem Chronicle.lists (h : Chronicle g log g') :
    g'.sandbox.allowed = g.sandbox.allowed ++ allowedIn log ∧
      g'.sandbox.extraDenied = g.sandbox.extraDenied ++ deniedIn log := by
  induction h with
  | begin => simp [allowedIn, deniedIn]
  | @changed log g' _ c ih =>
    cases c with
    | addAllowed tools => simp [change, Sandbox.allow, allowedIn, deniedIn, ih]
    | addDenied tools => simp [change, Sandbox.deny, allowedIn, deniedIn, ih]
    | setTimeout | setMemoryLimit | register | unregister =>
      simp [change, allowedIn, deniedIn, ih]
  | started _ _ _ ih => simpa [startTask, allowedIn, deniedIn] using ih
  | beside _ hsandbox _ _ ih => rw [hsandbox]; exact ih

theorem starts_change (g : Gateway) (c : Change) : (g.change c).starts = g.starts := by
  cases c <;> rfl

/-- The starts of a chronicle are those on record. -/
theorem Chronicle.starts (h : Chronicle g log g') :
    g'.starts.map (·.tool) = g.starts.map (·.tool) ++ log.filterMap Event.started? := by
  induction h with
  | begin => simp
  | changed _ c ih => simp [starts_change, ih, Event.started?]
  | started _ hadm run ih =>
    have hname := Registry.name_of_get? (admission_ok hadm).2.1
    simp [ih, hname, Event.started?]
  | beside _ _ _ hstarts ih => rw [hstarts, ih]

/-- What the sandbox lets pass after a chronicle is permitted by everything in it. -/
theorem Chronicle.permitted_of_check (h : Chronicle g log g')
    (hcheck : g'.sandbox.check tool = .ok ()) :
    Permitted g.sandbox log tool := by
  obtain ⟨hallowedList, hdeniedList⟩ := h.lists
  obtain ⟨hdenied, hallowed⟩ := Sandbox.check_eq_ok_iff.mp hcheck
  rw [Sandbox.denied, hdeniedList] at hdenied
  rw [hallowedList] at hallowed
  constructor
  case builtin =>
    intro entry hentry
    obtain ⟨hne, hlower⟩ := lower_of_mem_builtinDenied entry hentry
    rw [← hlower]
    exact hdenied entry (List.mem_append_left _ hentry) hne
  case denied => exact fun entry hentry => hdenied entry (List.mem_append_right _ hentry)
  case allowed => exact hallowed

/-- An event of a longer log is the last one or was there before. -/
theorem last_or_earlier {log before after : List Event} {last e : Event}
    (h : log ++ [last] = before ++ e :: after) :
    (log = before ∧ last = e) ∨ ∃ after', log = before ++ e :: after' := by
  rcases List.eq_nil_or_concat' after with rfl | ⟨after', x, rfl⟩
  · obtain ⟨hlog, hlast⟩ := List.append_inj' h rfl
    exact .inl ⟨hlog, List.head_eq_of_cons_eq hlast⟩
  · rw [← List.cons_append, ← List.append_assoc] at h
    exact .inr ⟨after', (List.append_inj' h rfl).1⟩

theorem Chronicle.permitted (h : Chronicle g log g') : ∀ before tool after,
    log = before ++ .started tool :: after → Permitted g.sandbox before tool := by
  induction h with
  | begin => intro before tool after hlog; simp at hlog
  | changed _ c ih =>
    intro before tool after hlog
    obtain ⟨-, hlast⟩ | ⟨after', hlog⟩ := last_or_earlier hlog
    · cases hlast
    · exact ih before tool after' hlog
  | started h hadm run ih =>
    intro before tool after hlog
    obtain ⟨rfl, hlast⟩ | ⟨after', hlog⟩ := last_or_earlier hlog
    · cases hlast
      exact h.permitted_of_check (admission_ok hadm).1
    · exact ih before tool after' hlog
  | beside _ _ _ _ ih => exact ih

/-! ## Calls and runs as chronicles -/

/-- On the way from one state to another tools are started, and nothing else happens at the
sandbox. -/
def OnlyStarts (g g' : Gateway) : Prop := ∃ tools : List String, Chronicle g (tools.map .started) g'

theorem OnlyStarts.trans (h : OnlyStarts g g') (h' : OnlyStarts g' g'') : OnlyStarts g g'' := by
  obtain ⟨tools, h⟩ := h
  obtain ⟨tools', h'⟩ := h'
  exact ⟨tools ++ tools', by simpa using h.trans h'⟩

/-- Nothing that concerns the sandbox happens. -/
theorem OnlyStarts.beside (h : OnlyStarts g g') (hsandbox : g''.sandbox = g'.sandbox)
    (hregistry : g''.registry = g'.registry) (hstarts : g''.starts = g'.starts) :
    OnlyStarts g g'' := by
  obtain ⟨tools, h⟩ := h
  exact ⟨tools, .beside h hsandbox hregistry hstarts⟩

theorem OnlyStarts.refl (g : Gateway) : OnlyStarts g g := ⟨[], .begin⟩

theorem onlyStarts_startTask {t : Tool} (hadm : g.admission tool args = .ok t) (run : Nat) :
    OnlyStarts g (g.startTask run t args) :=
  ⟨[tool], .started .begin hadm run⟩

theorem OnlyStarts.advance (h : OnlyStarts g g') (target : Nat) :
    OnlyStarts g (g'.advance target) :=
  h.beside rfl rfl (starts_advance g' target)

theorem OnlyStarts.cancelRun (h : OnlyStarts g g') (run : Nat) :
    OnlyStarts g (g'.cancelRun run) :=
  h.beside rfl rfl (starts_cancelRun g' run)

theorem OnlyStarts.filterOutput (h : OnlyStarts g g') (tenant output : String) :
    OnlyStarts g (g'.filterOutput tenant output).2 :=
  h.beside rfl rfl (starts_filterOutput tenant output)

theorem OnlyStarts.conclude (h : OnlyStarts g g') (run : Nat) (steps : List Step)
    (stop : Option Stop) : OnlyStarts g (g'.conclude run steps stop) :=
  h.beside rfl rfl (starts_cancelRun _ run)

theorem onlyStarts_execute (g : Gateway) (ctx : RunContext) (tool : String) (args : Json) :
    OnlyStarts g (g.execute ctx tool args).1 := by
  unfold execute
  cases hadm : g.admission tool args with
  | error f => exact .refl g
  | ok t =>
    have hstart := onlyStarts_startTask hadm ctx.run
    dsimp only
    split
    · exact hstart.advance _
    · split
      · exact ((hstart.advance _).cancelRun _).advance _
      · exact hstart.advance _

theorem onlyStarts_called {result : Except Fault Json} (h : Called g ctx tool args g' result) :
    OnlyStarts g g' := by
  cases h with
  | refused => exact .refl g
  | ended hadm | givenUp hadm => exact (onlyStarts_startTask hadm ctx.run).advance _

theorem onlyStarts_course {limit index : Nat} {tools : List String} {steps : List Step}
    {stop : Option Stop} (h : Course ctx req limit index tools g g' steps stop) :
    OnlyStarts g g' := by
  induction h with
  | limited | late | finished => exact .refl _
  | failed _ hcall | named _ hcall => exact onlyStarts_called hcall
  | filtered _ _ hcall => exact (onlyStarts_called hcall).filterOutput _ _
  | passed _ _ hcall _ _ ih => exact ((onlyStarts_called hcall).filterOutput _ _).trans ih

theorem onlyStarts_plan (g : Gateway) (req : PlanRequest) : OnlyStarts g (g.plan req).1 := by
  obtain ⟨g', steps, stop, hran, hplan⟩ := plan_ran g req
  rw [hplan]
  have hrun : OnlyStarts g g' := by
    cases hran with
    | refused => exact (OnlyStarts.refl g).beside rfl rfl rfl
    | stepped ticks _ hcourse =>
      have hbegun : OnlyStarts g ({ g with runs := g.runs + 1 }.occupy ticks) :=
        (OnlyStarts.refl g).beside rfl rfl rfl
      exact hbegun.trans (onlyStarts_course hcourse)
  exact hrun.conclude g.runs steps stop

/-- The starts between two states are what the record has gained. -/
theorem OnlyStarts.chronicle (h : OnlyStarts g g') :
    Chronicle g ((g.startedSince g').map .started) g' := by
  obtain ⟨tools, h⟩ := h
  have htools : g.startedSince g' = tools := by
    have hall : (tools.map Event.started).filterMap Event.started? = tools := by
      simp [List.filterMap_map, Function.comp_def, Event.started?]
    rw [startedSince, List.map_drop, h.starts, hall]
    exact List.drop_left' (List.length_map _)
  rwa [htools]

theorem chronicle_perform (g : Gateway) (d : Demand) :
    Chronicle g (d.change?.toList.map .changed ++ (g.startedSince (g.perform d)).map .started)
      (g.perform d) := by
  cases d with
  | change c =>
    have hnone : g.startedSince (g.change c) = [] := by
      rw [startedSince, starts_change, List.drop_length, List.map_nil]
    rw [perform, hnone]
    exact .changed .begin c
  | execute ctx tool args => exact (onlyStarts_execute g ctx tool args).chronicle
  | plan req => exact (onlyStarts_plan g req).chronicle

theorem chronicle_performAll (g : Gateway) (demands : List Demand) :
    Chronicle g (g.log demands) (g.performAll demands) := by
  induction demands generalizing g with
  | nil => exact .begin
  | cons d rest ih => exact (chronicle_perform g d).trans (ih (g.perform d))

/-- **What has been denied is never started.** Whatever is changed and called, in any order and also
while calls are under way, a tool starts only if no built-in entry and no entry added to the deny
list before rules it out, and only if it is on the allow list once there is one. -/
theorem starts_permitted (g : Gateway) :
    (∀ demands, Chronicle g (g.log demands) (g.performAll demands)) ∧
      ∀ log g', Chronicle g log g' →
        g'.starts.map (·.tool) = g.starts.map (·.tool) ++ log.filterMap Event.started? ∧
          ∀ before tool after, log = before ++ .started tool :: after →
            Permitted g.sandbox before tool :=
  ⟨chronicle_performAll g, fun _ _ h => ⟨h.starts, h.permitted⟩⟩

/-- Three tools, one of which has the entry `su` in its name. -/
def office : Gateway where
  firewall := .new {} none .mark
  registry := ((({} : Registry).register (.idle "search" "")).register
    (.idle "summary" "")).register (.idle "Mail" "")

/-- The tools are called before and after each of two changes. -/
def officeDemands : List Demand :=
  let ctx : RunContext := { run := 0, deadline := 1000 }
  let calls := ["search", "summary", "Mail", "mail"].map (Demand.execute ctx · .null)
  calls ++ [.change (.addAllowed ["SEARCH", "summary"])] ++
    calls ++ [.change (.addDenied ["", "Sea"]), .change (.addAllowed ["mail"])] ++
    calls ++ [.plan { tenant := "acme", prompt := "Find it", tools := ["search"] }]

/-- What happened before the last tool was started. -/
def officeBefore : List Event := [
  .started "search", .started "Mail", .changed (.addAllowed ["SEARCH", "summary"]),
  .started "search", .changed (.addDenied ["", "Sea"]), .changed (.addAllowed ["mail"])]

theorem office_starts :
    office.log officeDemands = officeBefore ++ [.started "Mail"] ∧
      Chronicle office (office.log officeDemands) (office.performAll officeDemands) ∧
      (office.performAll officeDemands).starts.map (·.tool) = ["search", "Mail", "search", "Mail"] ∧
      Permitted office.sandbox officeBefore "Mail" := by
  have hlog : office.log officeDemands = officeBefore ++ [.started "Mail"] := by
    rfl
  have hchronicle := (starts_permitted office).1 officeDemands
  obtain ⟨hstarts, hpermitted⟩ := (starts_permitted office).2 _ _ hchronicle
  refine ⟨hlog, hchronicle, ?_, hpermitted _ _ _ hlog⟩
  rw [hstarts, hlog]
  rfl

end Gateway
end Guardrail.Agent
