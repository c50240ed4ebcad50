import Guardrail.Proofs.Decision.Answers

/-! # Every decision is answered

Every move leaves less to do, and while somebody waits there is a move, so that `decide` comes to an
answer (`decide_answered`). Of the moves at one tick the end of an evaluation is the last; so any
other answer than a timeout means that the evaluation is shorter than the timeout
(`duration_lt_of_decide`). -/

namespace Guardrail.Decision.Evaluator

variable {e : Evaluator}

/-! ## Every move leaves less to do -/

theorem work_enter {number : Nat} {t : Task} (ht : e.tasks[number]? = some t) (s : Stage)
    (m : Milestone) : (e.enter number s m).work + t.stage.work = e.work + s.work :=
  total_modify (fun t : Task => t.stage.work) (fun t => { t with stage := s }) ht

theorem handOver_work_le (e : Evaluator) : e.handOver.work ≤ e.work := by
  rcases handOver_cases e with ⟨number, t, ht, hwaits, heq⟩ | ⟨-, heq⟩
  · have hwork := work_enter ht (.running (e.now + t.evaluation.duration)) .begun
    rw [hwaits] at hwork
    simp only [Stage.work] at hwork
    rw [heq, begin]
    omega
  · rw [heq]
    exact Nat.le_refl _

theorem Turn.work_lt {t : Task} {m : Milestone} {s : Stage} {timedOut : Except Fault Decision}
    (turn : Turn timedOut t m s) : s.work < t.stage.work := by
  cases turn with
  | begin h | giveUp h | abandon h | miss h | finish h | outlive h | deliver h =>
    rw [h]
    simp [Stage.work]

theorem Performed.work_lt {e' : Evaluator} {m : Move} (hm : Performed e m e')
    (h : e.dueAt m ≠ none) : e'.work < e.work := by
  cases hm with
  | idle hnone => exact absurd hnone h
  | @answer number t o s _ ht turn =>
    have hwork := work_enter ht s (.answered o)
    have hlt := turn.work_lt
    omega
  | @finish number t s ht turn =>
    have hwork := work_enter ht s .ended
    have hle := handOver_work_le (e.enter number s .ended)
    have hlt := turn.work_lt
    omega

theorem next?_mem {tick : Nat} {m : Move} (h : e.next? = some (tick, m)) : (tick, m) ∈ e.moves :=
  List.minOn?_mem h

theorem dueAt_ne_none_of_isDue {m : Move} (h : e.isDue m = true) : e.dueAt m ≠ none := by
  intro hnone
  rw [isDue, hnone] at h
  cases h

/-- Time passes until the condition holds or nothing can happen any more. -/
theorem runUntil_stops (stop : Evaluator → Bool) {bound : Nat} (h : e.work ≤ bound) :
    stop (e.runUntil stop bound) = true ∨ (e.runUntil stop bound).next? = none := by
  have hless {e : Evaluator} {tick : Nat} {m : Move} (hnext : e.next? = some (tick, m)) :
      ({ e with now := max e.now tick }.perform m).work < e.work :=
    (performed _ m).work_lt (dueAt_ne_none_of_isDue (isDue_of_mem_moves (next?_mem hnext)))
  -- The induction is on the bound, which the work does not exceed.
  induction bound generalizing e with
  | zero =>
    rw [runUntil]
    cases hnext : e.next? with
    | none => exact .inr rfl
    | some move =>
      have := hless hnext
      omega
  | succ bound ih =>
    rw [runUntil]
    split
    · exact .inl ‹_›
    · split
      · rename_i tick m hnext
        have := hless hnext
        exact ih (by omega)
      · exact .inr ‹_›

/-- The moves that come before the end of an evaluation at the same tick. -/
def earlyMoves (e : Evaluator) : List (Nat × Move) :=
  ((List.range e.tasks.length).map Move.deliver ++
    (List.range e.tasks.length).map Move.giveUp).filterMap fun m => (e.dueAt m).map (·, m)

def lateMoves (e : Evaluator) : List (Nat × Move) :=
  ((List.range e.tasks.length).map Move.finish).filterMap fun m => (e.dueAt m).map (·, m)

theorem moves_eq (e : Evaluator) : e.moves = e.earlyMoves ++ e.lateMoves := List.filterMap_append

theorem giveUp_mem_earlyMoves {number : Nat} {t : Task} (ht : e.tasks[number]? = some t)
    (hawaited : t.stage.isAwaited = true) : (t.deadline, .giveUp number) ∈ e.earlyMoves := by
  have hlt : number < e.tasks.length := (List.getElem?_eq_some_iff.mp ht).1
  refine List.mem_filterMap.mpr ⟨.giveUp number, ?_, ?_⟩
  · exact List.mem_append_right _ (List.mem_map.mpr ⟨number, List.mem_range.mpr hlt, rfl⟩)
  · rw [dueAt, ht]
    dsimp only
    rw [if_pos hawaited, Option.map_some]

theorem finish_not_mem_earlyMoves {tick number : Nat} :
    (tick, Move.finish number) ∉ e.earlyMoves := by
  intro h
  obtain ⟨m, hm, heq⟩ := List.mem_filterMap.mp h
  obtain ⟨due, -, hpair⟩ := Option.map_eq_some_iff.mp heq
  obtain ⟨-, rfl⟩ := Prod.mk.inj hpair
  rcases List.mem_append.mp hm with hm | hm
  · obtain ⟨n, -, hn⟩ := List.mem_map.mp hm
    cases hn
  · obtain ⟨n, -, hn⟩ := List.mem_map.mp hm
    cases hn

/-- The time of a decision that is awaited is over in the end. -/
theorem exists_early {number : Nat} {t : Task} (ht : e.tasks[number]? = some t)
    (hawaited : t.stage.isAwaited = true) :
    ∃ move ∈ e.earlyMoves, e.earlyMoves.minOn? (·.1) = some move ∧ move.1 ≤ t.deadline := by
  have hmem := giveUp_mem_earlyMoves ht hawaited
  have hsome := List.isSome_minOn?_of_mem (f := fun move : Nat × Move => move.1) hmem
  have hle := List.apply_get_minOn?_le_of_mem (f := fun move : Nat × Move => move.1) hmem
  have hget := Option.eq_some_of_isSome hsome
  exact ⟨_, List.minOn?_mem hget, hget, hle⟩

theorem next?_eq_merge (e : Evaluator) : e.next? =
    (e.earlyMoves.minOn? (·.1)).merge (minOn (·.1)) (e.lateMoves.minOn? (·.1)) := by
  rw [next?, moves_eq, List.minOn?_append]

/-- The next move comes no later than the deadline of a decision that is awaited. -/
theorem next?_le_deadline {number : Nat} {t : Task} (ht : e.tasks[number]? = some t)
    (hawaited : t.stage.isAwaited = true) :
    ∃ move, e.next? = some move ∧ move.1 ≤ t.deadline := by
  obtain ⟨early, -, hearly, hle⟩ := exists_early ht hawaited
  rw [next?_eq_merge, hearly]
  cases e.lateMoves.minOn? (·.1) with
  | none => exact ⟨early, rfl, hle⟩
  | some late =>
    exact ⟨_, rfl, Nat.le_trans (apply_minOn_le_left (f := fun move : Nat × Move => move.1)) hle⟩

/-- An evaluation that is awaited ends, as the next thing that happens, before the deadline. -/
theorem finish_lt_deadline {number tick : Nat} {t : Task}
    (hnext : e.next? = some (tick, .finish number)) (ht : e.tasks[number]? = some t)
    (hawaited : t.stage.isAwaited = true) : tick < t.deadline := by
  obtain ⟨early, hmem, hearly, hle⟩ := exists_early ht hawaited
  rw [next?_eq_merge, hearly] at hnext
  have hne : early ≠ (tick, .finish number) := by
    rintro rfl
    exact finish_not_mem_earlyMoves hmem
  cases hlate : e.lateMoves.minOn? (·.1) with
  | none =>
    rw [hlate] at hnext
    exact absurd (Option.some.inj hnext) hne
  | some late =>
    rw [hlate] at hnext
    -- Of two moves at one tick the early one comes first, so this one comes before it.
    have hmin : minOn (·.1) early late = (tick, Move.finish number) := Option.some.inj hnext
    rw [minOn] at hmin
    split at hmin
    · exact absurd hmin hne
    · rename_i hlt
      subst hmin
      exact Nat.lt_of_lt_of_le (Nat.lt_of_not_le hlt) hle

/-! ## No decision is left waiting -/

/-- When nothing can happen any more, everybody has an answer. -/
theorem isSome_answer?_of_next?_eq_none (h : e.next? = none) {number : Nat} {t : Task}
    (ht : e.tasks[number]? = some t) : (e.answer? number).isSome = true := by
  have hnot : t.stage.isAwaited = false := by
    by_contra hawaited
    obtain ⟨move, hmove, -⟩ := next?_le_deadline ht (by simpa using hawaited)
    cases h.symm.trans hmove
  rw [answer?_of_task ht]
  cases hs : t.stage with
  | abandoned | done => rfl
  | waiting | running | ended => rw [hs] at hnot; cases hnot

/-- **Every call of `decide` is answered.** -/
theorem decide_answered (e : Evaluator) (engine : Engine) (input : Input) :
    (e.decide engine input).1.answer? e.tasks.length = some (e.decide engine input).2 := by
  have hanswered : ((e.decide engine input).1.answer? e.tasks.length).isSome = true := by
    rcases runUntil_stops (fun e' => (e'.answer? e.tasks.length).isSome)
      (Nat.le_refl (e.ask engine input).work) with hstop | hnone
    · exact hstop
    · obtain ⟨acts, -, hrun⟩ := decide_eq_run e engine input
      obtain ⟨s, hs, hcases⟩ := ask_task_self e engine input
      have hdone : ∀ o, s = .done o → o = (e.ask engine input).timedOut ∨
          o = interpret (engine e.modules e.query input.toJson).result := by
        rcases hcases with rfl | rfl <;> exact nofun
      obtain ⟨s', hs', -⟩ := run_task hs hdone acts
      rw [← hrun] at hs'
      exact isSome_answer?_of_next?_eq_none hnone hs'
  obtain ⟨o, ho⟩ := Option.isSome_iff_exists.mp hanswered
  rw [ho]
  show some o = some (((e.decide engine input).1.answer? e.tasks.length).getD e.timedOut)
  rw [ho, Option.getD_some]

/-! ## Answers in time -/

/-- What an evaluation of that duration has left of the time of a decision that was asked for at a
tick: only one that is short enough ends before the deadline. -/
def Timely (asked duration timeout : Nat) : Stage → Prop
  | .running ending => asked + duration ≤ ending
  | .ended => duration < timeout
  | .done o => o = .error (.timeout timeout) ∨ duration < timeout
  | .waiting | .abandoned _ => True

theorem timely_next {asked tick number : Nat} {t : Task} {m : Move}
    (hnext : e.next? = some (tick, m)) (hasked : asked ≤ e.now)
    (ht : e.tasks[number]? = some t) (hdeadline : t.deadline = asked + e.timeout)
    (htimely : Timely asked t.evaluation.duration e.timeout t.stage) :
    ∃ s, ({ e with now := max e.now tick }.perform m).tasks[number]? =
        some { t with stage := s } ∧
      Timely asked t.evaluation.duration e.timeout s := by
  have ht' : { e with now := max e.now tick }.tasks[number]? = some t := ht
  obtain ⟨s, hs, hwent⟩ := (performed _ m).task ht'
  refine ⟨s, hs, ?_⟩
  cases hwent with
  | stay => exact htimely
  | begin =>
    have hnow : e.now ≤ max e.now tick := Nat.le_max_left ..
    show asked + t.evaluation.duration ≤ max e.now tick + t.evaluation.duration
    omega
  | giveUp => exact .inl rfl
  | abandon => trivial
  | @finish ending hrunning =>
    rw [hrunning] at htimely
    have hlong : asked + t.evaluation.duration ≤ ending := htimely
    have hlt := finish_lt_deadline hnext ht (by rw [hrunning]; rfl)
    obtain ⟨m', -, hpair⟩ := List.mem_filterMap.mp (next?_mem hnext)
    obtain ⟨due, hdue, heq⟩ := Option.map_eq_some_iff.mp hpair
    obtain ⟨rfl, rfl⟩ := Prod.mk.inj heq
    have hending : some ending = some due := by
      rw [dueAt, stage?_of_task ht, hrunning] at hdue
      exact hdue
    cases hending
    show t.evaluation.duration < e.timeout
    omega
  | deliver _ hended =>
    rw [hended] at htimely
    exact .inr htimely

theorem runUntil_timely (stop : Evaluator → Bool) (bound : Nat) {asked number : Nat} {t : Task}
    (hasked : asked ≤ e.now) (ht : e.tasks[number]? = some t)
    (hdeadline : t.deadline = asked + e.timeout)
    (htimely : Timely asked t.evaluation.duration e.timeout t.stage) :
    ∃ s, (e.runUntil stop bound).tasks[number]? = some { t with stage := s } ∧
      Timely asked t.evaluation.duration e.timeout s := by
  induction bound generalizing e t with
  | zero => exact ⟨t.stage, ht, htimely⟩
  | succ bound ih =>
    rw [runUntil]
    split
    · exact ⟨t.stage, ht, htimely⟩
    · split
      · rename_i tick m hnext
        obtain ⟨s, hs, htimely'⟩ := timely_next hnext hasked ht hdeadline htimely
        obtain ⟨permits, tasks, journal, heq⟩ :=
          (performed { e with now := max e.now tick } m).frame
        generalize { e with now := max e.now tick }.perform m = e' at hs heq ⊢
        have hnow : asked ≤ e'.now := by
          rw [heq]
          exact Nat.le_trans hasked (Nat.le_max_left ..)
        have htimeout : e'.timeout = e.timeout := by rw [heq]
        rw [← htimeout] at hdeadline htimely' ⊢
        exact ih (t := { t with stage := s }) hnow hs hdeadline htimely'
      · exact ⟨t.stage, ht, htimely⟩

/-- **What is answered otherwise than by a timeout was evaluated in time.** -/
theorem duration_lt_of_decide {engine : Engine} {input : Input}
    (h : (e.decide engine input).2 ≠ e.timedOut) :
    (engine e.modules e.query input.toJson).duration < e.timeout := by
  obtain ⟨s, hs, hcases⟩ := ask_task_self e engine input
  obtain ⟨permits, tasks, journal, heq⟩ := ask_frame e engine input
  have hnow : (e.ask engine input).now = e.now := by rw [heq]
  have htimeout : (e.ask engine input).timeout = e.timeout := by rw [heq]
  have hstart : Timely e.now (engine e.modules e.query input.toJson).duration
      (e.ask engine input).timeout s := by
    rcases hcases with rfl | rfl
    · trivial
    · exact Nat.le_refl _
  obtain ⟨s', hs', htimely⟩ := runUntil_timely
    (fun e' => (e'.answer? e.tasks.length).isSome) (e.ask engine input).work
    (Nat.le_of_eq hnow.symm) hs (by rw [htimeout]) hstart
  have hs' : (e.decide engine input).1.tasks[e.tasks.length]? = _ := hs'
  rw [htimeout] at htimely
  have htimedOut : (e.decide engine input).1.timedOut = e.timedOut := by
    obtain ⟨acts, -, hrun⟩ := decide_eq_run e engine input
    rw [hrun, timedOut_run, timedOut, htimeout, timedOut]
  have hanswer := decide_answered e engine input
  rw [answer?_of_task hs', htimedOut] at hanswer
  cases s' with
  | waiting | running | ended => cases hanswer
  | abandoned => exact absurd (Option.some.inj hanswer).symm h
  | done o =>
    rcases htimely with ho | hlt
    · exact absurd ((Option.some.inj hanswer).symm.trans ho) h
    · exact hlt

end Guardrail.Decision.Evaluator
