import Guardrail.Proofs.Decision.Progress
import Guardrail.Proofs.Decision.Reload

/-! # A reload is as good as a restart

Nothing that has happened to an evaluator shows in its answers but the modules that were loaded last
(`reload_as_restart`). What an answer is follows from what the evaluation results in alone
(`Means`). -/

namespace Guardrail.Decision

/-- What an evaluation's result means for a decision. Only a truth value and an object whose `allow`
is one allow or deny anything. -/
inductive Means : Except String (Option Json) → Except Fault Decision → Prop
  | failed (details : String) : Means (.error details) (.error (.evaluation details))
  | silent : Means (.ok none) (.error .emptyDecision)
  | plain (allow : Bool) : Means (.ok (some (.bool allow))) (.ok ⟨allow, none⟩)
  | whole {fields : List (String × Json)} {allow : Bool}
      (h : fields.lookup "allow" = some (.bool allow)) :
      Means (.ok (some (.object fields))) (.ok ⟨allow, some fields⟩)
  | undecided {fields : List (String × Json)}
      (h : ∀ allow, fields.lookup "allow" ≠ some (.bool allow)) :
      Means (.ok (some (.object fields))) (.error (.malformedDecision "decision missing allow"))
  | unfit {v : Json} (hbool : ∀ allow, v ≠ .bool allow) (hobject : ∀ fields, v ≠ .object fields) :
      Means (.ok (some v)) (.error (.malformedDecision (Decision.kindName v)))

theorem ofJson_object_of_lookup {fields : List (String × Json)} {allow : Bool}
    (h : fields.lookup "allow" = some (.bool allow)) :
    Decision.ofJson (.object fields) = .ok ⟨allow, some fields⟩ := by
  rw [Decision.ofJson, h]

theorem ofJson_object_of_ne {fields : List (String × Json)}
    (h : ∀ allow, fields.lookup "allow" ≠ some (.bool allow)) :
    Decision.ofJson (.object fields) = .error "decision missing allow" := by
  rw [Decision.ofJson]
  split
  · rename_i allow hallow
    exact absurd hallow (h allow)
  · rfl

theorem means_iff {result : Except String (Option Json)} {o : Except Fault Decision} :
    Means result o ↔ o = interpret result := by
  constructor
  · intro h
    cases h with
    | failed | silent | plain => rfl
    | whole h => rw [interpret, ofJson_object_of_lookup h]; rfl
    | undecided h => rw [interpret, ofJson_object_of_ne h]; rfl
    | @unfit v hbool hobject =>
      cases v with
      | bool allow => exact absurd rfl (hbool allow)
      | object fields => exact absurd rfl (hobject fields)
      | null | integer | float | string | array => rfl
  · rintro rfl
    obtain details | _ | v := result
    · exact .failed details
    · exact .silent
    · cases v with
      | bool allow => exact .plain allow
      | object fields =>
        by_cases hallow : ∃ allow, fields.lookup "allow" = some (.bool allow)
        · obtain ⟨allow, hallow⟩ := hallow
          rw [interpret, ofJson_object_of_lookup hallow]
          exact .whole hallow
        · have hnone : ∀ allow, fields.lookup "allow" ≠ some (.bool allow) :=
            not_exists.mp hallow
          rw [interpret, ofJson_object_of_ne hnone]
          exact .undecided hnone
      | null | integer | float | string | array => exact .unfit nofun nofun

namespace Evaluator

variable {e : Evaluator}

/-! ## A new evaluator -/

theorem runUntil_of_next {stop : Evaluator → Bool} {bound tick : Nat} {m : Move}
    (hstop : stop e = false) (hnext : e.next? = some (tick, m)) :
    e.runUntil stop (bound + 1) =
      ({ e with now := max e.now tick }.perform m).runUntil stop bound := by
  rw [runUntil, if_neg (by rw [hstop]; exact Bool.false_ne_true), hnext]

theorem decide_of_duration_lt {modules : Modules} {query : String} {timeout : Nat}
    (h : new modules query timeout = .ok e) {engine : Engine} {input : Input}
    (hlt : (engine modules query input.toJson).duration < timeout) :
    (e.decide engine input).2 = interpret (engine modules query input.toJson).result := by
  obtain ⟨-, rfl⟩ := new_eq_ok h
  generalize hev : engine modules query input.toJson = evaluation at hlt
  obtain ⟨duration, result⟩ := evaluation
  -- The evaluation ends and its answer is delivered: two moves, which is all the work there is.
  let asked : Evaluator :=
    { modules, query, timeout, permits := ⟨8, 7⟩,
      tasks := [⟨⟨duration, result⟩, 0 + timeout, .running (0 + duration)⟩],
      journal := [⟨0, 0, .begun⟩, ⟨0, 0, .asked⟩] }
  let ended : Evaluator :=
    { asked with
      permits := ⟨8, 8⟩, now := max 0 duration,
      tasks := [⟨⟨duration, result⟩, 0 + timeout, .ended⟩],
      journal := ⟨0, max 0 duration, .ended⟩ :: asked.journal }
  have hasked : ask { modules, query, timeout } engine input = asked := by
    simp only [ask, hev]
    rfl
  have hfinish : asked.next? = some (duration, .finish 0) := by
    have hearly : ¬ timeout ≤ duration := Nat.not_le.mpr hlt
    simp [asked, next?, moves, dueAt, stage?, Stage.isAwaited, Stage.ending?, List.range_succ,
      List.minOn?, minOn, hearly]
  have hended : { asked with now := max asked.now duration }.perform (.finish 0) = ended := rfl
  have hdeliver : ended.next? = some (max 0 duration, .deliver 0) := by
    have hle : duration ≤ timeout := Nat.le_of_lt hlt
    simp [ended, next?, moves, dueAt, stage?, Stage.isAwaited, Stage.ending?, List.range_succ,
      List.minOn?, minOn, hle]
  show ((((ask { modules, query, timeout } engine input).runUntil _ _).answer? 0).getD _) = _
  rw [hasked, show asked.work = 1 + 1 from rfl, runUntil_of_next rfl hfinish, hended,
    runUntil_of_next rfl hdeliver]
  rfl

/-- A new evaluator answers what the evaluation results in, if that is there in time. -/
theorem decide_of_new {modules : Modules} {query : String} {timeout : Nat}
    (h : new modules query timeout = .ok e) (engine : Engine) (input : Input) :
    (e.decide engine input).2 =
      if (engine modules query input.toJson).duration < timeout then
        interpret (engine modules query input.toJson).result
      else .error (.timeout timeout) := by
  split
  · rename_i hlt
    exact decide_of_duration_lt h hlt
  · rename_i hlong
    obtain ⟨-, rfl⟩ := new_eq_ok h
    by_contra hne
    exact hlong (duration_lt_of_decide hne)

/-! ## An evaluator with a history -/

/-- An answer is a timeout or what the modules at the time of asking result in. -/
theorem answer_of_ask {engine : Engine} {input : Input} {later : List Act}
    {o : Except Fault Decision}
    (h : ((e.ask engine input).run later).answer? e.tasks.length = some o) (hne : o ≠ e.timedOut) :
    o = interpret (engine e.modules e.query input.toJson).result := by
  obtain ⟨s, hs, hcases⟩ := ask_task_self e engine input
  have hdone : ∀ o, s = .done o → o = (e.ask engine input).timedOut ∨
      o = interpret (engine e.modules e.query input.toJson).result := by
    rcases hcases with rfl | rfl <;> exact nofun
  obtain ⟨s', hs', hanswer⟩ := run_task hs hdone later
  have htimedOut : (e.ask engine input).timedOut = e.timedOut :=
    timedOut_act e (.ask engine input)
  rw [answer?_of_task hs', timedOut_run, htimedOut] at h
  rw [htimedOut] at hanswer
  cases s' with
  | waiting | running | ended => cases h
  | abandoned => exact absurd (Option.some.inj h).symm hne
  | done outcome =>
    cases h
    exact (hanswer o rfl).resolve_left hne

/-- **A reload is as good as a restart.** Whatever has been asked, loaded, refused or given up
before, and whatever happens until the answer comes: a decision that is not given up is what a new
evaluator of the modules that were loaded last answers in time, and it means what their evaluation
results in. `decide` always comes to an answer, and unless that is a timeout, the new evaluator has
the same one. -/
theorem reload_as_restart {modules : Modules} {query : String} {timeout : Nat} {e₀ : Evaluator}
    (h : new modules query timeout = .ok e₀) (limit : Nat) (acts : List Act) (engine : Engine)
    (input : Input) :
    let e := (e₀.withLimit limit).run acts
    let installed := (acts.filterMap Act.loaded?).getLast?.getD modules
    let result := (engine installed query input.toJson).result
    (∀ later o, ((e.ask engine input).run later).answer? e.tasks.length = some o →
      o ≠ .error (.timeout timeout) →
        Means result o ∧
        ∀ timeout' engine', (engine' installed query input.toJson).result = result →
          ∃ fresh, new installed query timeout' = .ok fresh ∧
            (fresh.decide engine' input).2 =
              if (engine' installed query input.toJson).duration < timeout' then o
              else .error (.timeout timeout')) ∧
    (e.decide engine input).1.answer? e.tasks.length = some (e.decide engine input).2 ∧
    ((e.decide engine input).2 ≠ .error (.timeout timeout) →
      Means result (e.decide engine input).2 ∧
      ∃ fresh, new installed query timeout = .ok fresh ∧
        (fresh.decide engine input).2 = (e.decide engine input).2) := by
  intro e installed result
  have hfixed : Fixed query timeout (max 1 limit) e := (fixed_new h limit).run acts
  obtain ⟨hne, rfl⟩ := new_eq_ok h
  have hmodules : e.modules = installed := run_modules _ acts
  have hinstalled : installed ≠ [] := hmodules ▸ run_modules_ne_nil hne acts
  have htimedOut : e.timedOut = .error (.timeout timeout) := by rw [timedOut, hfixed.timeout]
  have hnew (timeout' : Nat) : new installed query timeout' =
      .ok { modules := installed, query, timeout := timeout' } := by
    rw [new, if_neg (by simpa using hinstalled)]
  have hanswer : ∀ later o, ((e.ask engine input).run later).answer? e.tasks.length = some o →
      o ≠ .error (.timeout timeout) → o = interpret result := by
    intro later o ho hnot
    have := answer_of_ask ho (htimedOut ▸ hnot)
    rwa [hmodules, hfixed.query] at this
  refine ⟨?_, decide_answered e engine input, ?_⟩
  · intro later o ho hnot
    have heq := hanswer later o ho hnot
    refine ⟨means_iff.mpr heq, fun timeout' engine' hresult => ⟨_, hnew timeout', ?_⟩⟩
    rw [decide_of_new (hnew timeout'), hresult, heq]
  · intro hnot
    obtain ⟨later, -, hrun⟩ := decide_eq_run e engine input
    have hdecided := decide_answered e engine input
    rw [hrun] at hdecided
    have heq := hanswer later _ hdecided hnot
    refine ⟨means_iff.mpr heq, _, hnew timeout, ?_⟩
    have hlt := duration_lt_of_decide (htimedOut ▸ hnot)
    rw [hmodules, hfixed.query, hfixed.timeout] at hlt
    rw [decide_of_duration_lt (hnew timeout) hlt, heq]

/-- It allows what is decided with two modules, after as many milliseconds. -/
def countingEngine : Engine := fun modules _ _ =>
  ⟨modules.length, .ok (some (.bool (modules.length == 2)))⟩

/-- A decision is given up, and of two reloads one is refused. -/
def busy : List Act :=
  [.ask countingEngine { tenant := "acme", mode := .tool },
    .reload [("a.rego", "package a"), ("b.rego", "package b")], .wait 200, .move (.giveUp 0),
    .reload []]

theorem busy_as_restart :
    new mainOnly.modules mainOnly.query mainOnly.timeout = .ok mainOnly ∧
      (((mainOnly.withLimit 1).run busy).decide countingEngine
        { tenant := "acme", mode := .tool }).2 = .ok ⟨true, none⟩ ∧
      ∃ fresh, new [("a.rego", "package a"), ("b.rego", "package b")] "data.main" 100 = .ok fresh ∧
        (fresh.decide countingEngine { tenant := "acme", mode := .tool }).2 = .ok ⟨true, none⟩ := by
  have hnew : new mainOnly.modules mainOnly.query mainOnly.timeout = .ok mainOnly := rfl
  have hdecided : (((mainOnly.withLimit 1).run busy).decide countingEngine
      { tenant := "acme", mode := .tool }).2 = .ok ⟨true, none⟩ := rfl
  obtain ⟨-, -, hrestart⟩ :=
    reload_as_restart hnew 1 busy countingEngine { tenant := "acme", mode := .tool }
  obtain ⟨-, fresh, hfresh, hsame⟩ := hrestart (hdecided ▸ nofun)
  exact ⟨hnew, hdecided, fresh, hfresh, hsame.trans hdecided⟩

end Evaluator
end Guardrail.Decision
