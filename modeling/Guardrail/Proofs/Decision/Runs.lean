import Guardrail.Decision.Evaluator
import Mathlib.Data.List.Basic

/-! # All orders in which things can happen to an evaluator

`decide` makes the earliest moves until the decision that it asks for is answered. Here any number
of decisions may be under way: callers may ask and reload in between, any move that is due may come
next, and time may pass although a move is due. What holds of every such run holds of what `decide`
does (`decide_eq_run`). A move is read once, as what it makes of the decisions (`Performed`), and so
is an act (`Acted`); a decision goes from one stage to the next (`Turn`). -/

namespace Guardrail.Decision.Evaluator

/-- What callers do to an evaluator, and what happens by itself. -/
inductive Act where
  | reload (modules : Modules)
  | reloadDirectory (files : Files) (directory : String)
  | listen (mark : Nat)
  | ask (engine : Engine) (input : Input)
  /-- The move is made if it is due. -/
  | move (m : Move)
  | wait (ticks : Nat)

/-- Callers have no part in what happens by itself. -/
def Act.isAlone : Act → Bool
  | move _ | wait _ => true
  | _ => false

variable {e e' : Evaluator}

def isDue (e : Evaluator) (m : Move) : Bool := (e.dueAt m).any (· ≤ e.now)

/-- The evaluator after an act; a reload that fails leaves it as it was. -/
def act (e : Evaluator) : Act → Evaluator
  | .reload modules =>
    match e.reload modules with
    | .ok e' => e'
    | .error _ => e
  | .reloadDirectory files directory =>
    match e.reloadDirectory files directory with
    | .ok e' => e'
    | .error _ => e
  | .listen mark => { e with callback := some mark }
  | .ask engine input => e.ask engine input
  | .move m => if e.isDue m then e.perform m else e
  | .wait ticks => { e with now := e.now + ticks }

def run (e : Evaluator) (acts : List Act) : Evaluator := acts.foldl act e

theorem run_cons (e : Evaluator) (a : Act) (rest : List Act) :
    e.run (a :: rest) = (e.act a).run rest := rfl

/-! ## Stages and stories -/

/-- What has happened to a decision, the earliest first. -/
def story (e : Evaluator) (number : Nat) : List Milestone :=
  (e.journal.reverse.filter (·.number == number)).map (·.milestone)

theorem stage?_of_task {number : Nat} {t : Task} (h : e.tasks[number]? = some t) :
    e.stage? number = some t.stage := by
  rw [stage?, h, Option.map_some]

theorem task_of_stage? {number : Nat} {s : Stage} (h : e.stage? number = some s) :
    ∃ t, e.tasks[number]? = some t ∧ t.stage = s :=
  Option.map_eq_some_iff.mp h

theorem getElem?_enter (e : Evaluator) (number : Nat) (s : Stage) (m : Milestone) (k : Nat) :
    (e.enter number s m).tasks[k]? =
      e.tasks[k]?.map fun t => if number = k then { t with stage := s } else t := by
  rw [enter, List.getElem?_modify]
  rfl

theorem stage?_enter (e : Evaluator) (number : Nat) (s : Stage) (m : Milestone) (k : Nat) :
    (e.enter number s m).stage? k = (e.stage? k).map fun old => if number = k then s else old := by
  rw [stage?, getElem?_enter, Option.map_map, stage?, Option.map_map]
  congr 1
  funext t
  by_cases h : number = k <;> simp [h]

theorem story_enter (e : Evaluator) (number : Nat) (s : Stage) (m : Milestone) (k : Nat) :
    (e.enter number s m).story k = e.story k ++ if number = k then [m] else [] := by
  by_cases h : number = k <;> simp [story, enter, h]

theorem stage?_enroll (e : Evaluator) (evaluation : Evaluation) (k : Nat) :
    (e.enroll evaluation).stage? k =
      if k = e.tasks.length then some .waiting else e.stage? k := by
  rw [stage?, enroll, List.getElem?_append]
  split
  · rename_i hlt
    rw [if_neg (Nat.ne_of_lt hlt)]
    rfl
  · rename_i hge
    by_cases hk : k = e.tasks.length
    · simp [hk]
    · have hnone : e.tasks[k]? = none := List.getElem?_eq_none (Nat.le_of_not_lt hge)
      have hlast : k - e.tasks.length ≠ 0 := by omega
      simp [stage?, hk, hnone, hlast]

theorem story_enroll (e : Evaluator) (evaluation : Evaluation) (k : Nat) :
    (e.enroll evaluation).story k =
      e.story k ++ if k = e.tasks.length then [.asked] else [] := by
  by_cases h : k = e.tasks.length
  · simp [story, enroll, h]
  · simp [story, enroll, h, Ne.symm h]

/-! ## Turns -/

/-- A decision goes on from its stage, by an event. -/
inductive Turn (timedOut : Except Fault Decision) (t : Task) : Milestone → Stage → Prop
  | begin (h : t.stage = .waiting) (ending : Nat) : Turn timedOut t .begun (.running ending)
  | giveUp (h : t.stage = .waiting) : Turn timedOut t (.answered timedOut) (.done timedOut)
  | abandon {ending : Nat} (h : t.stage = .running ending) :
      Turn timedOut t (.answered timedOut) (.abandoned ending)
  | miss (h : t.stage = .ended) : Turn timedOut t (.answered timedOut) (.done timedOut)
  | finish {ending : Nat} (h : t.stage = .running ending) : Turn timedOut t .ended .ended
  | outlive {ending : Nat} (h : t.stage = .abandoned ending) :
      Turn timedOut t .ended (.done timedOut)
  | deliver (h : t.stage = .ended) : Turn timedOut t (.answered (interpret t.evaluation.result))
      (.done (interpret t.evaluation.result))

theorem Turn.ne_waiting {timedOut : Except Fault Decision} {t : Task} {m : Milestone} {s : Stage}
    (turn : Turn timedOut t m s) : s ≠ .waiting := by
  cases turn <;> exact nofun

/-- What a move makes of an evaluator. A move that cannot be made changes nothing. -/
inductive Performed (e : Evaluator) : Move → Evaluator → Prop
  | idle {m : Move} (h : e.dueAt m = none) : Performed e m e
  /-- A decision is answered, which leaves all permits where they are. -/
  | answer {number : Nat} {t : Task} {outcome : Except Fault Decision} {s : Stage} {m : Move}
      (ht : e.tasks[number]? = some t) (turn : Turn e.timedOut t (.answered outcome) s) :
      Performed e m (e.enter number s (.answered outcome))
  /-- An evaluation ends, and its permit comes back. -/
  | finish {number : Nat} {t : Task} {s : Stage}
      (ht : e.tasks[number]? = some t) (turn : Turn e.timedOut t .ended s) :
      Performed e (.finish number) (e.enter number s .ended).handOver

theorem stage?_of_task_eq_none {number : Nat} (h : e.tasks[number]? = none) :
    e.stage? number = none := by
  rw [stage?, h, Option.map_none]

theorem performed (e : Evaluator) (m : Move) : Performed e m (e.perform m) := by
  cases m with
  | deliver n =>
    cases ht : e.tasks[n]? with
    | none =>
      rw [perform, ht]
      exact .idle (by rw [dueAt, stage?_of_task_eq_none ht])
    | some t =>
      obtain ⟨evaluation, deadline, stage⟩ := t
      have hstage := stage?_of_task ht
      rw [perform, ht]
      cases stage with
      | ended => exact .answer ht (.deliver rfl)
      | waiting | running | abandoned | done => exact .idle (by rw [dueAt, hstage])
  | giveUp n =>
    cases ht : e.tasks[n]? with
    | none =>
      rw [perform, stage?_of_task_eq_none ht]
      exact .idle (by rw [dueAt, ht])
    | some t =>
      have hstage := stage?_of_task ht
      rw [perform, hstage]
      cases hs : t.stage with
      | waiting => exact .answer ht (.giveUp hs)
      | running ending => exact .answer ht (.abandon hs)
      | ended => exact .answer ht (.miss hs)
      | abandoned | done => exact .idle (by simp [dueAt, ht, hs, Stage.isAwaited])
  | finish n =>
    cases hstage : e.stage? n with
    | none =>
      rw [perform, hstage]
      exact .idle (by rw [dueAt, hstage, Option.bind_none])
    | some stage =>
      obtain ⟨t, ht, hs⟩ := task_of_stage? hstage
      rw [perform, hstage]
      cases stage with
      | running ending => exact .finish ht (.finish hs)
      | abandoned ending => exact .finish ht (.outlive hs)
      | waiting | ended | done => exact .idle (by rw [dueAt, hstage]; rfl)

/-- What an act makes of an evaluator. What callers do besides asking is beside the decisions. -/
inductive Acted (e : Evaluator) : Evaluator → Prop
  | beside (modules : Modules) (version now : Nat) (callback : Option Nat)
      (told : List (Nat × Nat)) : Acted e { e with modules, version, now, callback, told }
  | queue (evaluation : Evaluation) (hfull : e.permits.free = 0) : Acted e (e.enroll evaluation)
  | start (evaluation : Evaluation) (hroom : e.permits.free ≠ 0) :
      Acted e ({ e.enroll evaluation with
        permits := { e.permits with free := e.permits.free - 1 } }.begin e.tasks.length evaluation)
  | move {m : Move} {next : Evaluator} (hm : Performed e m next) : Acted e next

theorem acted_self (e : Evaluator) : Acted e e :=
  .beside e.modules e.version e.now e.callback e.told

theorem acted_reload {modules : Modules} (h : e.reload modules = .ok e') : Acted e e' := by
  unfold reload at h
  split at h
  · cases h
  · cases h
    exact .beside ..

theorem reload_of_reloadDirectory {files : Files} {directory : String}
    (h : e.reloadDirectory files directory = .ok e') :
    ∃ modules, Modules.load files directory = .ok modules ∧ modules ≠ [] ∧
      e.reload modules = .ok e' := by
  unfold reloadDirectory at h
  cases hload : Modules.load files directory with
  | error f => rw [hload] at h; cases h
  | ok modules =>
    rw [hload] at h
    simp only [bind, Except.bind] at h
    split at h
    · cases h
    · rename_i hne
      exact ⟨modules, rfl, by simpa using hne, h⟩

theorem acted_ask (e : Evaluator) (engine : Engine) (input : Input) :
    Acted e (e.ask engine input) := by
  unfold ask Permits.acquire?
  by_cases h : e.permits.free = 0
  · rw [if_pos h]
    exact .queue _ h
  · rw [if_neg h]
    exact .start _ h

theorem acted_act (e : Evaluator) (a : Act) : Acted e (e.act a) := by
  cases a with
  | reload modules =>
    simp only [act]
    split
    · rename_i h
      exact acted_reload h
    · exact acted_self e
  | reloadDirectory files directory =>
    simp only [act]
    split
    · rename_i h
      obtain ⟨modules, -, -, hr⟩ := reload_of_reloadDirectory h
      exact acted_reload hr
    · exact acted_self e
  | listen mark => exact .beside e.modules e.version e.now (some mark) e.told
  | ask engine input => exact acted_ask e engine input
  | move m =>
    simp only [act]
    split
    · exact .move (performed e m)
    · exact acted_self e
  | wait ticks => exact .beside e.modules e.version (e.now + ticks) e.callback e.told

/-- A permit that comes back is handed to one that waits, or it is free if nobody waits. -/
theorem handOver_cases (e : Evaluator) :
    (∃ number t, e.tasks[number]? = some t ∧ t.stage = .waiting ∧
      e.handOver = e.begin number t.evaluation) ∨
    ((∀ k, e.stage? k ≠ some .waiting) ∧
      e.handOver = { e with permits := e.permits.release }) := by
  unfold handOver
  split
  · rename_i t number hfind
    left
    have ht := List.mk_mem_zipIdx_iff_getElem?.mp (List.mem_of_find?_eq_some hfind)
    refine ⟨number, t, ht, ?_, rfl⟩
    have hwaits := List.find?_some hfind
    dsimp only at hwaits
    unfold Stage.isWaiting at hwaits
    split at hwaits
    · assumption
    · cases hwaits
  · rename_i hfind
    right
    refine ⟨fun k hk => ?_, rfl⟩
    obtain ⟨t, ht, hs⟩ := task_of_stage? hk
    have hmem : (t, k) ∈ e.tasks.zipIdx := List.mk_mem_zipIdx_iff_getElem?.mpr ht
    have := List.find?_eq_none.mp hfind _ hmem
    simp [hs, Stage.isWaiting] at this

/-! ## What stays as it is -/

/-- Decisions leave alone what callers set. -/
theorem handOver_frame (e : Evaluator) :
    ∃ permits tasks journal, e.handOver = { e with permits, tasks, journal } := by
  rcases handOver_cases e with ⟨number, t, -, -, heq⟩ | ⟨-, heq⟩
  · exact ⟨_, _, _, heq⟩
  · exact ⟨_, _, _, heq⟩

theorem ask_frame (e : Evaluator) (engine : Engine) (input : Input) :
    ∃ permits tasks journal, e.ask engine input = { e with permits, tasks, journal } := by
  unfold ask
  dsimp only
  split
  · exact ⟨_, _, _, rfl⟩
  · exact ⟨_, _, _, rfl⟩

theorem Performed.frame {m : Move} (h : Performed e m e') :
    ∃ permits tasks journal, e' = { e with permits, tasks, journal } := by
  cases h with
  | idle => exact ⟨e.permits, e.tasks, e.journal, rfl⟩
  | answer => exact ⟨_, _, _, rfl⟩
  | @finish number t s => exact handOver_frame (e.enter number s .ended)

theorem handOver_limit (e : Evaluator) : e.handOver.permits.limit = e.permits.limit := by
  rcases handOver_cases e with ⟨number, t, -, -, heq⟩ | ⟨-, heq⟩
  · rw [heq]
    rfl
  · rw [heq]
    rfl

/-- What no act changes. -/
structure Fixed (query : String) (timeout limit : Nat) (e : Evaluator) : Prop where
  query : e.query = query
  timeout : e.timeout = timeout
  limit : e.permits.limit = limit

theorem Fixed.performed {query : String} {timeout limit : Nat} {m : Move}
    (h : Fixed query timeout limit e) (hm : Performed e m e') : Fixed query timeout limit e' := by
  cases hm with
  | idle => exact h
  | answer => exact ⟨h.query, h.timeout, h.limit⟩
  | @finish number t s =>
    have hlimit := handOver_limit (e.enter number s .ended)
    obtain ⟨permits, tasks, journal, heq⟩ := handOver_frame (e.enter number s .ended)
    rw [heq] at hlimit ⊢
    exact ⟨h.query, h.timeout, hlimit.trans h.limit⟩

theorem Fixed.acted {query : String} {timeout limit : Nat} (h : Fixed query timeout limit e)
    (ha : Acted e e') : Fixed query timeout limit e' := by
  cases ha with
  | beside | queue | start => exact ⟨h.query, h.timeout, h.limit⟩
  | move hm => exact h.performed hm

theorem Fixed.run {query : String} {timeout limit : Nat} (h : Fixed query timeout limit e)
    (acts : List Act) : Fixed query timeout limit (e.run acts) := by
  induction acts generalizing e with
  | nil => exact h
  | cons a rest ih => exact ih (h.acted (acted_act e a))

theorem new_eq_ok {modules : Modules} {query : String} {timeout : Nat}
    (h : new modules query timeout = .ok e) : modules ≠ [] ∧ e = { modules, query, timeout } := by
  unfold new at h
  split at h
  · cases h
  · rename_i hne
    cases h
    exact ⟨by simpa using hne, rfl⟩

theorem fixed_new {modules : Modules} {query : String} {timeout : Nat}
    (h : new modules query timeout = .ok e) (limit : Nat) :
    Fixed query timeout (max 1 limit) (e.withLimit limit) := by
  obtain ⟨-, rfl⟩ := new_eq_ok h
  exact ⟨rfl, rfl, rfl⟩

/-! ## Time passes by itself -/

theorem isDue_of_le {m : Move} {due : Nat} (hdue : e.dueAt m = some due) (hle : due ≤ e.now) :
    e.isDue m = true := by
  rw [isDue, hdue]
  exact decide_eq_true hle

theorem isDue_of_mem_moves {tick : Nat} {m : Move} (h : (tick, m) ∈ e.moves) :
    { e with now := max e.now tick }.isDue m = true := by
  obtain ⟨m', -, hm⟩ := List.mem_filterMap.mp h
  obtain ⟨due, hdue, heq⟩ := Option.map_eq_some_iff.mp hm
  obtain ⟨rfl, rfl⟩ := Prod.mk.inj heq
  cases m' with
  | deliver n =>
    simp only [dueAt] at hdue
    split at hdue
    · rename_i hs
      have hs : { e with now := max e.now due }.stage? n = some .ended := hs
      exact isDue_of_le (by rw [dueAt, hs]) (Nat.le_refl _)
    · cases hdue
  | giveUp n =>
    have hdue : { e with now := max e.now due }.dueAt (.giveUp n) = some due := hdue
    exact isDue_of_le hdue (Nat.le_max_right ..)
  | finish n =>
    have hdue : { e with now := max e.now due }.dueAt (.finish n) = some due := hdue
    exact isDue_of_le hdue (Nat.le_max_right ..)

/-- What the evaluator does by itself is a run. -/
theorem runUntil_eq_run (stop : Evaluator → Bool) (bound : Nat) (e : Evaluator) :
    ∃ acts, (∀ a ∈ acts, a.isAlone = true) ∧ e.runUntil stop bound = e.run acts := by
  induction bound generalizing e with
  | zero => exact ⟨[], nofun, rfl⟩
  | succ bound ih =>
    rw [runUntil]
    split
    · exact ⟨[], nofun, rfl⟩
    · split
      · rename_i tick m hnext
        have hdue := isDue_of_mem_moves (List.minOn?_mem hnext)
        obtain ⟨acts, halone, hrun⟩ := ih ({ e with now := max e.now tick }.perform m)
        refine ⟨.wait (tick - e.now) :: .move m :: acts, ?_, ?_⟩
        · simpa [Act.isAlone] using halone
        · have hnow : e.now + (tick - e.now) = max e.now tick := by omega
          rw [run_cons, run_cons, hrun, act, act, hnow, if_pos hdue]
      · exact ⟨[], nofun, rfl⟩

/-- **A call of `decide` is a run**: it asks, and then the evaluator is left alone until it has the
answer. -/
theorem decide_eq_run (e : Evaluator) (engine : Engine) (input : Input) :
    ∃ acts, (∀ a ∈ acts, a.isAlone = true) ∧
      (e.decide engine input).1 = (e.ask engine input).run acts :=
  runUntil_eq_run _ _ _

end Guardrail.Decision.Evaluator
