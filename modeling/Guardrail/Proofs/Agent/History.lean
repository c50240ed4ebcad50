import Guardrail.Agent.Gateway

/-! What a gateway has on record: the tool calls that its runs started, with the ticks at which they
did, and the outputs that were screened, each in the order in which it happened. Only a tool call
starts a tool and only the output filter screens, so every other operation of a run leaves both
records as they are. -/

namespace Guardrail.Agent

/-- A tool that a run started, with its arguments. -/
structure Start where
  run : Nat
  tool : String
  args : Json

/-- The tool that was started answers with this value. -/
def Start.Answers (r : Registry) (s : Start) (v : Json) : Prop :=
  ∃ t, r.get? s.tool = some t ∧ (t.behave s.args).ending = .value v

theorem Start.Answers.unique {r : Registry} {s : Start} {v w : Json} (h : s.Answers r v)
    (h' : s.Answers r w) : v = w := by
  obtain ⟨t, hget, hv⟩ := h
  obtain ⟨t', hget', hw⟩ := h'
  rw [hget] at hget'
  cases hget'
  rw [hv] at hw
  exact Ending.value.inj hw

def TaskEvent.start? : TaskEvent → Option Start
  | .started run tool args _ => some ⟨run, tool, args⟩
  | _ => none

/-- A start and its tick. -/
def TaskEvent.launch? : TaskEvent → Option (Start × Nat)
  | .started run tool args tick => some (⟨run, tool, args⟩, tick)
  | _ => none

namespace Gateway

variable (g : Gateway)

def starts : List Start := g.journal.reverse.filterMap TaskEvent.start?

def launches : List (Start × Nat) := g.journal.reverse.filterMap TaskEvent.launch?

def screened : List Screening := g.screenings.reverse

/-! ## Time and cancellation -/

/-- Events that a record does not pick leave it as it is. -/
theorem filterMap_log {α β : Type} {pick : TaskEvent → Option β} (f : α → TaskEvent)
    (hf : ∀ a, pick (f a) = none) (log : List TaskEvent) (as : List α) :
    (as.foldl (fun j a => f a :: j) log).reverse.filterMap pick =
      log.reverse.filterMap pick := by
  rw [List.foldl_flip_cons_eq_append, List.reverse_append, List.filterMap_append]
  have hn : (as.map f).filterMap pick = [] := by simp [hf]
  simp [hn]

@[simp] theorem starts_advance (target : Nat) : (g.advance target).starts = g.starts :=
  filterMap_log (fun t : Task => .ended t.run t.tool t.ending (max g.now t.due)) (fun _ => rfl) _ _

@[simp] theorem starts_cancelRun (run : Nat) : (g.cancelRun run).starts = g.starts :=
  filterMap_log (fun t : Task => .cancelled t.run t.tool g.now) (fun _ => rfl) _ _

@[simp] theorem launches_advance (target : Nat) : (g.advance target).launches = g.launches :=
  filterMap_log (fun t : Task => .ended t.run t.tool t.ending (max g.now t.due)) (fun _ => rfl) _ _

@[simp] theorem launches_cancelRun (run : Nat) : (g.cancelRun run).launches = g.launches :=
  filterMap_log (fun t : Task => .cancelled t.run t.tool g.now) (fun _ => rfl) _ _

/-! ## Tool calls -/

variable {g : Gateway}

@[simp] theorem starts_startTask (run : Nat) (t : Tool) (args : Json) :
    (g.startTask run t args).starts = g.starts ++ [⟨run, t.name, args⟩] := by
  simp [starts, startTask, TaskEvent.start?]

@[simp] theorem launches_startTask (run : Nat) (t : Tool) (args : Json) :
    (g.startTask run t args).launches = g.launches ++ [(⟨run, t.name, args⟩, g.now)] := by
  simp [launches, startTask, TaskEvent.launch?]

theorem admission_ok {tool : String} {args : Json} {t : Tool} (h : g.admission tool args = .ok t) :
    g.sandbox.check tool = .ok () ∧ g.registry.get? tool = some t ∧
      args.compact.utf8ByteSize ≤ g.sandbox.memoryLimit := by
  unfold admission at h
  cases hc : g.sandbox.check tool with
  | error f => rw [hc] at h; cases h
  | ok u =>
    rw [hc] at h
    simp only [bind, Except.bind] at h
    split at h
    · cases h
    · rename_i t' ht
      split at h
      · cases h
      · rename_i hm
        cases h
        exact ⟨rfl, ht, Nat.le_of_not_lt hm⟩

/-! ## The output filter -/

theorem filterOutput_screened (tenant output : String) :
    (g.filterOutput tenant output).2.screened =
      g.screened ++ [⟨tenant, output, (g.filterOutput tenant output).1⟩] := by
  simp [screened, filterOutput, occupy]

@[simp] theorem starts_filterOutput (tenant output : String) :
    (g.filterOutput tenant output).2.starts = g.starts := rfl

end Gateway
end Guardrail.Agent
