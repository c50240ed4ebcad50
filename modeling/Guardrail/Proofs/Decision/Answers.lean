import Guardrail.Proofs.Decision.Runs

/-! # Which answers a decision can have

What an act makes of one decision (`Went`) tells which answers it can have: that its time is over,
or what its own evaluation results in (`run_task`). The evaluation is fixed when the decision is
asked for (`ask_task_self`). -/

namespace Guardrail.Decision.Evaluator

variable {e : Evaluator}

/-! ## One decision -/

/-- What a move makes of a decision, whether it is this decision's move or not. -/
inductive Went (e : Evaluator) (number : Nat) (t : Task) : Move → Stage → Prop
  | stay (m : Move) : Went e number t m t.stage
  | begin (m : Move) (h : t.stage = .waiting) :
      Went e number t m (.running (e.now + t.evaluation.duration))
  | giveUp (m : Move) : Went e number t m (.done e.timedOut)
  | abandon (m : Move) (ending : Nat) : Went e number t m (.abandoned ending)
  | finish {ending : Nat} (h : t.stage = .running ending) : Went e number t (.finish number) .ended
  | deliver (m : Move) (h : t.stage = .ended) :
      Went e number t m (.done (interpret t.evaluation.result))

theorem Turn.went_answer {number : Nat} {t : Task} {o : Except Fault Decision} {s : Stage}
    (turn : Turn e.timedOut t (.answered o) s) (m : Move) : Went e number t m s := by
  cases turn with
  | giveUp | miss => exact .giveUp m
  | abandon => exact .abandon m _
  | deliver h => exact .deliver m h

theorem Turn.went_finish {number : Nat} {t : Task} {s : Stage}
    (turn : Turn e.timedOut t .ended s) : Went e number t (.finish number) s := by
  cases turn with
  | finish h => exact .finish h
  | outlive => exact .giveUp _

theorem task_handOver {number : Nat} {t : Task} (ht : e.tasks[number]? = some t) :
    ∃ s, e.handOver.tasks[number]? = some { t with stage := s } ∧
      (s = t.stage ∨ t.stage = .waiting ∧ s = .running (e.now + t.evaluation.duration)) := by
  rcases handOver_cases e with ⟨next, waiter, hwaiter, hwaits, heq⟩ | ⟨-, heq⟩
  · rw [heq, begin, getElem?_enter, ht, Option.map_some]
    by_cases hk : next = number
    · subst hk
      cases ht.symm.trans hwaiter
      exact ⟨_, by rw [if_pos rfl], .inr ⟨hwaits, rfl⟩⟩
    · exact ⟨t.stage, by rw [if_neg hk], .inl rfl⟩
  · rw [heq]
    exact ⟨t.stage, ht, .inl rfl⟩

theorem Performed.task {e' : Evaluator} {m : Move} (hm : Performed e m e') {number : Nat}
    {t : Task} (ht : e.tasks[number]? = some t) :
    ∃ s, e'.tasks[number]? = some { t with stage := s } ∧ Went e number t m s := by
  cases hm with
  | idle => exact ⟨t.stage, ht, .stay m⟩
  | @answer k t' o s _ ht' turn =>
    rw [getElem?_enter, ht, Option.map_some]
    by_cases hk : k = number
    · subst hk
      cases ht.symm.trans ht'
      exact ⟨s, by rw [if_pos rfl], turn.went_answer m⟩
    · exact ⟨t.stage, by rw [if_neg hk], .stay m⟩
  | @finish k t' s ht' turn =>
    have hentered : (e.enter k s .ended).tasks[number]? =
        some (if k = number then { t with stage := s } else t) := by
      rw [getElem?_enter, ht, Option.map_some]
    -- The permit may go to this decision, unless it is the one that has just given it back.
    obtain ⟨s', hs', hcases⟩ := task_handOver hentered
    by_cases hk : k = number
    · subst hk
      cases ht.symm.trans ht'
      rw [if_pos rfl] at hs' hcases
      refine ⟨s', hs', ?_⟩
      rcases hcases with rfl | ⟨hwaits, -⟩
      · exact turn.went_finish
      · exact absurd hwaits turn.ne_waiting
    · rw [if_neg hk] at hs' hcases
      refine ⟨s', hs', ?_⟩
      rcases hcases with rfl | ⟨hwaits, rfl⟩
      · exact .stay _
      · exact .begin _ hwaits

theorem reload_tasks {e' : Evaluator} {modules : Modules} (h : e.reload modules = .ok e') :
    e'.tasks = e.tasks := by
  unfold reload at h
  split at h
  · cases h
  · cases h
    rfl

/-- Asking changes no decision that has been asked for. -/
theorem ask_task_of_lt {number : Nat} (h : number < e.tasks.length) (engine : Engine)
    (input : Input) : (e.ask engine input).tasks[number]? = e.tasks[number]? := by
  have henroll (evaluation : Evaluation) :
      (e.enroll evaluation).tasks[number]? = e.tasks[number]? := by
    rw [enroll, List.getElem?_append_left h]
  unfold ask
  dsimp only
  split
  · rename_i permits _
    rw [begin, getElem?_enter]
    show ((e.enroll _).tasks[number]?).map _ = _
    rw [henroll]
    simp [Nat.ne_of_gt h]
  · exact henroll _

/-- The decision that is asked for is evaluated with the modules there are. -/
theorem ask_task_self (e : Evaluator) (engine : Engine) (input : Input) :
    ∃ s, (e.ask engine input).tasks[e.tasks.length]? =
        some ⟨engine e.modules e.query input.toJson, e.now + e.timeout, s⟩ ∧
      (s = .waiting ∨
        s = .running (e.now + (engine e.modules e.query input.toJson).duration)) := by
  have henroll (evaluation : Evaluation) : (e.enroll evaluation).tasks[e.tasks.length]? =
      some ⟨evaluation, e.now + e.timeout, .waiting⟩ := by
    simp [enroll]
  unfold ask
  dsimp only
  split
  · rename_i permits _
    refine ⟨_, ?_, .inr rfl⟩
    rw [begin, getElem?_enter]
    show ((e.enroll _).tasks[e.tasks.length]?).map _ = _
    rw [henroll, Option.map_some, if_pos rfl]
    rfl
  · exact ⟨.waiting, henroll _, .inl rfl⟩

theorem act_task {number : Nat} {t : Task} (ht : e.tasks[number]? = some t) (a : Act) :
    ∃ s, (e.act a).tasks[number]? = some { t with stage := s } ∧ ∃ m, Went e number t m s := by
  have hsame {e' : Evaluator} (h : e'.tasks = e.tasks) :
      ∃ s, e'.tasks[number]? = some { t with stage := s } ∧ ∃ m, Went e number t m s :=
    ⟨t.stage, h ▸ ht, .deliver number, .stay _⟩
  cases a with
  | reload modules =>
    rw [act]
    split
    · rename_i h
      exact hsame (reload_tasks h)
    · exact hsame rfl
  | reloadDirectory files directory =>
    rw [act]
    split
    · rename_i h
      obtain ⟨modules, -, -, hreload⟩ := reload_of_reloadDirectory h
      exact hsame (reload_tasks hreload)
    · exact hsame rfl
  | listen mark => exact hsame rfl
  | ask engine input =>
    have hlt : number < e.tasks.length := (List.getElem?_eq_some_iff.mp ht).1
    exact ⟨t.stage, (ask_task_of_lt hlt engine input).trans ht, .deliver number, .stay _⟩
  | move m =>
    rw [act]
    split
    · obtain ⟨s, hs, hwent⟩ := (performed e m).task ht
      exact ⟨s, hs, m, hwent⟩
    · exact hsame rfl
  | wait ticks => exact hsame rfl

theorem timeout_run (e : Evaluator) (acts : List Act) : (e.run acts).timeout = e.timeout := by
  have hfixed : Fixed e.query e.timeout e.permits.limit e := ⟨rfl, rfl, rfl⟩
  exact (hfixed.run acts).timeout

theorem timedOut_run (e : Evaluator) (acts : List Act) : (e.run acts).timedOut = e.timedOut := by
  rw [timedOut, timeout_run, timedOut]

theorem timedOut_act (e : Evaluator) (a : Act) : (e.act a).timedOut = e.timedOut :=
  timedOut_run e [a]

/-- **A decision keeps its evaluation**, and its answer is that its time is over or what that
evaluation results in. -/
theorem run_task {number : Nat} {t : Task} (ht : e.tasks[number]? = some t)
    (hdone : ∀ o, t.stage = .done o → o = e.timedOut ∨ o = interpret t.evaluation.result)
    (acts : List Act) : ∃ s, (e.run acts).tasks[number]? = some { t with stage := s } ∧
      ∀ o, s = .done o → o = e.timedOut ∨ o = interpret t.evaluation.result := by
  induction acts generalizing e t with
  | nil => exact ⟨t.stage, ht, hdone⟩
  | cons a rest ih =>
    obtain ⟨s, hs, m, hwent⟩ := act_task ht a
    have hnext : ∀ o, s = .done o → o = e.timedOut ∨ o = interpret t.evaluation.result := by
      intro o ho
      cases hwent with
      | stay => exact hdone o ho
      | begin | abandon | finish => cases ho
      | giveUp => cases ho; exact .inl rfl
      | deliver => cases ho; exact .inr rfl
    obtain ⟨s', hs', hdone'⟩ := ih hs (by rwa [timedOut_act])
    rw [timedOut_act] at hdone'
    exact ⟨s', hs', hdone'⟩

/-- What `answer?` says of a decision at a stage. -/
def answerAt (timedOut : Except Fault Decision) : Stage → Option (Except Fault Decision)
  | .abandoned _ => some timedOut
  | .done o => some o
  | _ => none

theorem answer?_of_task {number : Nat} {t : Task} (ht : e.tasks[number]? = some t) :
    e.answer? number = answerAt e.timedOut t.stage := by
  rw [answer?, stage?_of_task ht]
  cases t.stage <;> rfl

end Guardrail.Decision.Evaluator
