import Guardrail.Proofs.Agent.Trace
import Mathlib.Algebra.BigOperators.Group.List.Basic
import Mathlib.Data.List.Induction
import Mathlib.Data.Rat.Cast.Defs
import Mathlib.Tactic.Linarith
import Mathlib.Tactic.Positivity

/-! # What the counters say

A run is counted with a number of iterations that every way out names for itself. They are the
steps of its report in each case (`Course.iterations_eq`), so the counters of a gateway are those of
its runs' tallies, in their order (`Served.metrics_eq`). In exact arithmetic the mean times the runs
is the total of the steps (`meanIterations_exact`), and their order is of no account. -/

namespace Guardrail.Agent

/-- What the counters take from a run: whether it was stopped, and the steps of its report. -/
structure Tally where
  failed : Bool
  steps : Nat
  deriving DecidableEq

/-! ## Counters of tallies -/

namespace Metrics

/-- The counters after runs with these tallies, one after another. -/
def ofTallies {α : Type} [Add α] [Sub α] [Mul α] [Div α] (cast : Nat → α) (log : List Tally) :
    Metrics α :=
  log.foldl (fun m t => m.record cast t.failed t.steps) (.zero cast)

/-- The counters with a mean in exact arithmetic. -/
def exact (log : List Tally) : Metrics ℚ := ofTallies (Nat.cast : Nat → ℚ) log

section

variable {α : Type} [Add α] [Sub α] [Mul α] [Div α] (cast : Nat → α)

theorem ofTallies_concat (log : List Tally) (t : Tally) :
    ofTallies cast (log ++ [t]) = (ofTallies cast log).record cast t.failed t.steps := by
  rw [ofTallies, List.foldl_append]
  rfl

theorem executions_ofTallies (log : List Tally) :
    (ofTallies cast log).executions = log.length := by
  induction log using List.reverseRecOn with
  | nil => rfl
  | append_singleton log t ih =>
    rw [ofTallies_concat, List.length_append]
    exact congrArg (· + 1) ih

theorem blocked_ofTallies (log : List Tally) :
    (ofTallies cast log).blocked = log.countP Tally.failed := by
  induction log using List.reverseRecOn with
  | nil => rfl
  | append_singleton log t ih =>
    rw [ofTallies_concat, List.countP_append, record, ih, List.countP_singleton]
    cases t.failed <;> rfl

end

/-- The mean times the runs is the total of their steps. -/
theorem meanIterations_exact (log : List Tally) :
    (exact log).meanIterations * log.length = (log.map Tally.steps).sum := by
  induction log using List.reverseRecOn with
  | nil => simp
  | append_singleton log t ih =>
    have hmean : (exact (log ++ [t])).meanIterations =
        ((exact log).meanIterations * (((log.length + 1 : Nat) : ℚ) - ((1 : Nat) : ℚ)) + t.steps)
          / ((log.length + 1 : Nat) : ℚ) := by
      rw [exact, ofTallies_concat, record, executions_ofTallies]
      rfl
    have hpos : ((log.length : ℚ) + 1) ≠ 0 := by positivity
    rw [hmean, List.length_append, List.length_singleton, List.map_append, List.sum_append]
    push_cast
    rw [div_mul_cancel₀ _ hpos, add_sub_cancel_right, ih]
    simp

/-- In exact arithmetic the counters do not depend on the order of the runs. -/
theorem exact_perm {log log' : List Tally} (h : log.Perm log') : exact log = exact log' := by
  have hmean : (exact log).meanIterations = (exact log').meanIterations := by
    cases log with
    | nil => rw [h.nil_eq]
    | cons t rest =>
      have hpos : (((t :: rest).length : ℚ)) ≠ 0 := Nat.cast_ne_zero.mpr (by simp)
      apply mul_right_cancel₀ hpos
      rw [meanIterations_exact, h.length_eq, meanIterations_exact, (h.map Tally.steps).sum_eq]
  have hexecutions : (exact log).executions = (exact log').executions := by
    rw [exact, exact, executions_ofTallies, executions_ofTallies, h.length_eq]
  have hblocked : (exact log).blocked = (exact log').blocked := by
    rw [exact, exact, blocked_ofTallies, blocked_ofTallies, h.countP_eq]
  calc
    exact log = ⟨(exact log).executions, (exact log).blocked, (exact log).meanIterations⟩ := rfl
    _ = exact log' := by rw [hexecutions, hblocked, hmean]

end Metrics

/-! ## What a run is counted with -/

namespace Gateway

variable {g g' : Gateway} {ctx : RunContext} {req : PlanRequest} {limit index : Nat}
  {tools : List String} {steps : List Step} {stop : Option Stop}

/-- The steps from one on stop with the iterations up to the last of them. -/
theorem Course.iterations_eq (h : Course ctx req limit index tools g g' steps stop) :
    ∀ st, stop = some st → st.iterations = index + steps.length := by
  induction h with
  | limited | finished | named => exact nofun
  | late | failed | filtered =>
    rintro _ ⟨⟩
    rfl
  | @passed index _ _ _ _ _ _ steps _ _ _ _ _ _ ih =>
    intro st hst
    rw [ih st hst, List.length_cons, Nat.add_assoc, Nat.add_comm 1]

theorem refusal?_iterations {gate : Gate} {st : Stop} (h : Gate.refusal? g req gate = some st) :
    st.iterations = 0 := by
  cases gate with
  | prompt | policy =>
    simp only [Gate.refusal?] at h
    split at h
    · cases h
    · cases h
      rfl
  | sandbox =>
    simp only [Gate.refusal?] at h
    split at h
    · cases h
    · cases h
      rfl

theorem Ran.iterations_eq (h : Ran g req g' steps stop) : iterations steps stop = steps.length := by
  cases h with
  | refused ticks hstop =>
    obtain ⟨gate, -, hgate⟩ := List.exists_of_findSome?_eq_some hstop
    exact refusal?_iterations hgate
  | stepped ticks _ hcourse =>
    cases stop with
    | none => rfl
    | some st => exact (hcourse.iterations_eq st rfl).trans (Nat.zero_add _)

theorem Called.metrics_eq {tool : String} {args : Json} {result : Except Fault Json}
    (h : Called g ctx tool args g' result) : g'.metrics = g.metrics := by
  cases h <;> rfl

theorem Course.metrics_eq (h : Course ctx req limit index tools g g' steps stop) :
    g'.metrics = g.metrics := by
  induction h with
  | limited | late | finished => rfl
  | failed _ hcall | named _ hcall => exact hcall.metrics_eq
  | filtered _ _ hcall => exact hcall.metrics_eq
  | passed _ _ hcall _ _ ih => exact ih.trans hcall.metrics_eq

theorem Ran.metrics_eq (h : Ran g req g' steps stop) : g'.metrics = g.metrics := by
  cases h with
  | refused => rfl
  | stepped ticks _ hcourse => exact hcourse.metrics_eq

def tallyOf (result : Except PlanError PlanReport) : Tally :=
  ⟨!result.isOk, (finalReport result).steps.length⟩

/-- A run is counted once, as its report says. -/
theorem plan_metrics (g : Gateway) (req : PlanRequest) :
    (g.plan req).1.metrics = g.metrics.record Float.ofNat (tallyOf (g.plan req).2).failed
      (tallyOf (g.plan req).2).steps := by
  obtain ⟨g', steps, stop, hran, hplan⟩ := plan_ran g req
  have hmetrics : (g'.conclude g.runs steps stop).metrics =
      g'.metrics.record Float.ofNat stop.isSome (iterations steps stop) := rfl
  rw [hplan, hmetrics, hran.metrics_eq, hran.iterations_eq]
  cases stop <;> rfl

/-- The request that a single decision stands for. -/
def requestOf (tenant prompt : String) (tools : List String) : PlanRequest :=
  { tenant, prompt, tools }

/-- A single decision is a run, and it is blocked with a fault if the run fails. -/
theorem decide_cases (g : Gateway) (tenant prompt : String) (tools : List String) :
    (g.decide tenant prompt tools).1 = (g.plan (requestOf tenant prompt tools)).1 ∧
      (g.decide tenant prompt tools).2.1.blocked =
        (tallyOf (g.plan (requestOf tenant prompt tools)).2).failed ∧
      (g.decide tenant prompt tools).2.2.isSome =
        (tallyOf (g.plan (requestOf tenant prompt tools)).2).failed := by
  unfold decide requestOf
  split <;> simp_all [tallyOf, Verdict.blocked, Verdict.allow, Verdict.block, Except.isOk,
    Except.toBool]

/-! ## Runs of one gateway -/

/-- The runs of a gateway one after another, with their tallies. Whatever else happens to it between
them leaves the counters alone. -/
inductive Served (g : Gateway) : List Tally → Gateway → Prop
  | begin : Served g [] g
  | plan {log : List Tally} {g' : Gateway} (h : Served g log g') (req : PlanRequest) :
      Served g (log ++ [tallyOf (g'.plan req).2]) (g'.plan req).1
  | decide {log : List Tally} {g' : Gateway} (h : Served g log g') (tenant prompt : String)
      (tools : List String) :
      Served g (log ++ [tallyOf (g'.plan (requestOf tenant prompt tools)).2])
        (g'.decide tenant prompt tools).1
  | beside {log : List Tally} {g' g'' : Gateway} (h : Served g log g')
      (hmetrics : g''.metrics = g'.metrics) : Served g log g''

theorem Served.metrics_eq {log : List Tally} (h : Served g log g')
    (hnew : g.metrics = .zero Float.ofNat) : g'.metrics = .ofTallies Float.ofNat log := by
  induction h with
  | begin => exact hnew
  | plan _ req ih => rw [plan_metrics, ih, Metrics.ofTallies_concat]
  | decide _ tenant prompt tools ih =>
    rw [(decide_cases ..).1, plan_metrics, ih, Metrics.ofTallies_concat]
  | beside _ hmetrics ih => exact hmetrics.trans ih

/-- The counters have taken in one more run. -/
structure CountsOne (g g' : Gateway) (t : Tally) : Prop where
  executions : g'.metrics.executions = g.metrics.executions + 1
  blocked : g'.metrics.blocked = g.metrics.blocked + if t.failed then 1 else 0
  recorded : g'.metrics = g.metrics.record Float.ofNat t.failed t.steps

theorem plan_countsOne (g : Gateway) (req : PlanRequest) :
    CountsOne g (g.plan req).1 (tallyOf (g.plan req).2) := by
  refine ⟨?_, ?_, plan_metrics g req⟩
  · rw [plan_metrics]
    rfl
  · rw [plan_metrics, Metrics.record]
    cases (tallyOf (g.plan req).2).failed <;> rfl

/-- **The counters add up.** Every run counts as one, as one that was stopped if it ends in an
error, and with as many iterations as its report has steps; a single decision counts as its run, and
is blocked and has a fault if that ends in an error. So no more runs were stopped than there were,
and in exact arithmetic the mean times the runs is the total of all steps, whatever the order of the
runs. -/
theorem runs_counted {log : List Tally} (hnew : g.metrics = .zero Float.ofNat)
    (h : Served g log g') :
    (∀ req, CountsOne g' (g'.plan req).1 (tallyOf (g'.plan req).2)) ∧
      (∀ tenant prompt tools,
        let run := tallyOf (g'.plan (requestOf tenant prompt tools)).2
        CountsOne g' (g'.decide tenant prompt tools).1 run ∧
          (g'.decide tenant prompt tools).2.1.blocked = run.failed ∧
          (g'.decide tenant prompt tools).2.2.isSome = run.failed) ∧
      g'.metrics = .ofTallies Float.ofNat log ∧
      g'.metrics.executions = log.length ∧ g'.metrics.blocked = log.countP Tally.failed ∧
      g'.metrics.blocked ≤ g'.metrics.executions ∧
      (Metrics.exact log).meanIterations * g'.metrics.executions =
        (log.map Tally.steps).sum ∧
      ∀ log', log.Perm log' → Metrics.exact log' = Metrics.exact log := by
  have hmetrics := h.metrics_eq hnew
  have hexecutions : g'.metrics.executions = log.length := by
    rw [hmetrics, Metrics.executions_ofTallies]
  have hblocked : g'.metrics.blocked = log.countP Tally.failed := by
    rw [hmetrics, Metrics.blocked_ofTallies]
  refine ⟨plan_countsOne g', fun tenant prompt tools => ?_, hmetrics, hexecutions, hblocked, ?_,
    ?_, fun log' hperm => (Metrics.exact_perm hperm).symm⟩
  · obtain ⟨hafter, hverdict, hfault⟩ := decide_cases g' tenant prompt tools
    dsimp only
    rw [hafter]
    exact ⟨plan_countsOne g' _, hverdict, hfault⟩
  · rw [hexecutions, hblocked]
    exact List.countP_le_length
  · rw [hexecutions]
    exact Metrics.meanIterations_exact log

/-- A run that fails at its second tool, and a single decision about the first. -/
theorem staffed_counted :
    staffed.metrics = .zero Float.ofNat ∧
      ∃ g' log, Served staffed log g' ∧ log = [⟨true, 2⟩, ⟨false, 2⟩] ∧
        g'.metrics.executions = 2 ∧ g'.metrics.blocked = 1 ∧
        (Metrics.exact log).meanIterations = 2 := by
  have hnew : staffed.metrics = .zero Float.ofNat := rfl
  have hserved := (Served.begin.plan staffedRequest).decide (g := staffed) "acme" "find" ["search"]
  have hlog : [tallyOf (staffed.plan staffedRequest).2,
      tallyOf ((staffed.plan staffedRequest).1.plan (requestOf "acme" "find" ["search"])).2] =
        [⟨true, 2⟩, ⟨false, 2⟩] := by
    decide +kernel
  obtain ⟨-, -, -, hexecutions, hblocked, -, hmean, -⟩ := runs_counted hnew hserved
  rw [List.nil_append, List.singleton_append, hlog] at hserved hexecutions hblocked hmean
  refine ⟨hnew, _, _, hserved, rfl, hexecutions, hblocked, ?_⟩
  rw [hexecutions] at hmean
  norm_num at hmean
  linarith

end Gateway
end Guardrail.Agent
