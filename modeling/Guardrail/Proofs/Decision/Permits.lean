import Guardrail.Proofs.Decision.Runs

/-! # Permits come back

Of the permits of an evaluator every one is free or held by a decision whose evaluation runs, given
up or not (`Kept`). What can happen to a decision is told by its story, which is the beginning of
one of three: it is given up while it waits, it is given up while it is evaluated, or it is
evaluated to the end (`Life.prefix_of`). -/

namespace Guardrail.Decision

def Stage.holds (s : Stage) : Bool := s.ending?.isSome

def Milestone.isBegun : Milestone → Bool
  | begun => true
  | _ => false

def Milestone.isEnded : Milestone → Bool
  | ended => true
  | _ => false

namespace Evaluator

/-- The decisions whose evaluation has begun and not ended. -/
def evaluating (e : Evaluator) : List Nat :=
  (List.range e.tasks.length).filter fun number =>
    (e.story number).any Milestone.isBegun && !(e.story number).any Milestone.isEnded

/-- The permits that are held. -/
def held (e : Evaluator) : Nat := e.tasks.countP (·.stage.holds)

/-! ## Lives -/

/-- The stage of a decision, and all that has happened to it. -/
inductive Life (timedOut : Except Fault Decision) : Option Stage → List Milestone → Prop
  /-- Nobody has asked for it. -/
  | unasked : Life timedOut none []
  | waiting : Life timedOut (some .waiting) [.asked]
  | running (ending : Nat) : Life timedOut (some (.running ending)) [.asked, .begun]
  | ended : Life timedOut (some .ended) [.asked, .begun, .ended]
  | abandoned (ending : Nat) :
      Life timedOut (some (.abandoned ending)) [.asked, .begun, .answered timedOut]
  /-- Its time was over before it had a permit. -/
  | turnedAway : Life timedOut (some (.done timedOut)) [.asked, .answered timedOut]
  /-- Its evaluation went on when its time was over. -/
  | outlived :
      Life timedOut (some (.done timedOut)) [.asked, .begun, .answered timedOut, .ended]
  | served (outcome : Except Fault Decision) :
      Life timedOut (some (.done outcome)) [.asked, .begun, .ended, .answered outcome]

variable {e e' : Evaluator} {timedOut : Except Fault Decision}

theorem Life.turn {t : Task} {m : Milestone} {s : Stage} {story : List Milestone}
    (h : Life timedOut (some t.stage) story) (turn : Turn timedOut t m s) :
    Life timedOut (some s) (story ++ [m]) := by
  cases turn with
  | begin hs ending =>
    rw [hs] at h
    cases h
    exact .running ending
  | giveUp hs =>
    rw [hs] at h
    cases h
    exact .turnedAway
  | abandon hs =>
    rw [hs] at h
    cases h
    exact .abandoned _
  | miss hs | deliver hs =>
    rw [hs] at h
    cases h
    exact .served _
  | finish hs =>
    rw [hs] at h
    cases h
    exact .ended
  | outlive hs =>
    rw [hs] at h
    cases h
    exact .outlived

/-- An evaluation that has begun and not ended has its permit. -/
theorem Life.holds_iff {stage : Option Stage} {story : List Milestone}
    (h : Life timedOut stage story) :
    stage.any Stage.holds = (story.any Milestone.isBegun && !story.any Milestone.isEnded) := by
  cases h <;> rfl

theorem Life.prefix_of {stage : Option Stage} {story : List Milestone}
    (h : Life timedOut stage story) :
    story <+: [.asked, .answered timedOut] ∨
      story <+: [.asked, .begun, .answered timedOut, .ended] ∨
      ∃ outcome, story <+: [.asked, .begun, .ended, .answered outcome] := by
  cases h with
  | unasked => exact .inl ⟨_, rfl⟩
  | waiting => exact .inl ⟨_, rfl⟩
  | turnedAway => exact .inl ⟨[], rfl⟩
  | running ending => exact .inr (.inl ⟨_, rfl⟩)
  | abandoned ending => exact .inr (.inl ⟨_, rfl⟩)
  | outlived => exact .inr (.inl ⟨[], rfl⟩)
  | ended => exact .inr (.inr ⟨timedOut, _, rfl⟩)
  | served outcome => exact .inr (.inr ⟨outcome, [], rfl⟩)

/-! ## The balance of permits -/

theorem held_enter {number : Nat} {t : Task} (ht : e.tasks[number]? = some t) (s : Stage)
    (m : Milestone) :
    (e.enter number s m).held + (if t.stage.holds then 1 else 0) =
      e.held + if s.holds then 1 else 0 := by
  rw [held, held, countP_eq_total, countP_eq_total]
  exact total_modify (fun t : Task => if t.stage.holds then 1 else 0)
    (fun t => { t with stage := s }) ht

/-- Every permit is free, on its way from one decision to the next, or held by a decision whose
evaluation runs; and no decision has had another life than these. -/
structure Kept (onTheWay : Nat) (e : Evaluator) : Prop where
  balance : e.permits.free + onTheWay + e.held = e.permits.limit
  life : ∀ k, Life e.timedOut (e.stage? k) (e.story k)

theorem Kept.life_enter {spare number : Nat} {t : Task} {m : Milestone} {s : Stage}
    (h : Kept spare e) (ht : e.tasks[number]? = some t) (turn : Turn e.timedOut t m s) (k : Nat) :
    Life e.timedOut ((e.enter number s m).stage? k) ((e.enter number s m).story k) := by
  rw [stage?_enter, story_enter]
  by_cases hk : number = k
  · subst hk
    have hlife := h.life number
    rw [stage?_of_task ht] at hlife ⊢
    rw [if_pos rfl]
    simpa using hlife.turn turn
  · have hlife := h.life k
    cases hs : e.stage? k <;> simpa [hk, hs] using hlife

theorem Kept.begin {number : Nat} {t : Task} (h : Kept 1 e) (ht : e.tasks[number]? = some t)
    (hw : t.stage = .waiting) : Kept 0 (e.begin number t.evaluation) := by
  refine ⟨?_, h.life_enter ht (.begin hw _)⟩
  have hheld := held_enter ht (.running (e.now + t.evaluation.duration)) .begun
  have hbalance := h.balance
  rw [hw] at hheld
  simp only [Stage.holds, Stage.ending?, Option.isSome_none, Option.isSome_some, if_true,
    Bool.false_eq_true, if_false] at hheld
  show e.permits.free + 0 + (e.enter number _ .begun).held = e.permits.limit
  omega

theorem Kept.handOver (h : Kept 1 e) : Kept 0 e.handOver := by
  rcases handOver_cases e with ⟨number, t, ht, hw, heq⟩ | ⟨-, heq⟩
  · rw [heq]
    exact h.begin ht hw
  · rw [heq]
    refine ⟨?_, h.life⟩
    have hbalance := h.balance
    show e.permits.free + 1 + 0 + e.held = e.permits.limit
    omega

theorem Kept.enroll (h : Kept 0 e) (evaluation : Evaluation) : Kept 0 (e.enroll evaluation) := by
  constructor
  · have hheld : (e.enroll evaluation).held = e.held := by
      rw [held, Evaluator.enroll, List.countP_append, held]
      rfl
    have hbalance := h.balance
    show e.permits.free + 0 + (e.enroll evaluation).held = e.permits.limit
    omega
  · intro k
    rw [stage?_enroll, story_enroll]
    by_cases hk : k = e.tasks.length
    · have hlife := h.life k
      have hnone : e.stage? k = none := by
        rw [stage?, hk, List.getElem?_eq_none (Nat.le_refl _), Option.map_none]
      rw [hnone] at hlife
      rw [if_pos hk, if_pos hk]
      cases hstory : e.story k with
      | nil => exact .waiting
      | cons m rest => rw [hstory] at hlife; cases hlife
    · rw [if_neg hk, if_neg hk, List.append_nil]
      exact h.life k

theorem Kept.performed {m : Move} (h : Kept 0 e) (hm : Performed e m e') : Kept 0 e' := by
  cases hm with
  | idle => exact h
  | @answer number t outcome s _ ht turn =>
    refine ⟨?_, h.life_enter ht turn⟩
    -- Who is answered keeps the permit, if there is one: it comes back with the evaluation's end.
    have hheld := held_enter ht s (.answered outcome)
    have hsame : s.holds = t.stage.holds := by
      cases turn with
      | giveUp hs | abandon hs | miss hs | deliver hs => rw [hs]; rfl
    have hbalance := h.balance
    rw [hsame] at hheld
    show e.permits.free + 0 + (e.enter number s (.answered outcome)).held = e.permits.limit
    omega
  | @finish number t s ht turn =>
    -- The permit is on its way now, until it is handed over.
    apply Kept.handOver
    refine ⟨?_, h.life_enter ht turn⟩
    have hheld := held_enter ht s .ended
    have hbefore : t.stage.holds = true := by
      cases turn with
      | finish hs | outlive hs => rw [hs]; rfl
    have hafter : s.holds = false := by cases turn <;> rfl
    have hbalance := h.balance
    simp only [hbefore, hafter, if_true, Bool.false_eq_true, if_false] at hheld
    show e.permits.free + 1 + (e.enter number s .ended).held = e.permits.limit
    omega

theorem Kept.acted (h : Kept 0 e) (ha : Acted e e') : Kept 0 e' := by
  cases ha with
  | beside => exact ⟨h.balance, h.life⟩
  | queue evaluation => exact h.enroll evaluation
  | start evaluation hroom =>
    -- A free permit is taken before the evaluation begins with it.
    have hkept := h.enroll evaluation
    have htaken : Kept 1 { e.enroll evaluation with
        permits := { e.permits with free := e.permits.free - 1 } } := by
      refine ⟨?_, hkept.life⟩
      have hbalance : e.permits.free + 0 + (e.enroll evaluation).held = e.permits.limit :=
        hkept.balance
      show e.permits.free - 1 + 1 + (e.enroll evaluation).held = e.permits.limit
      omega
    exact htaken.begin (t := ⟨evaluation, e.now + e.timeout, .waiting⟩)
      (by simp [Evaluator.enroll]) rfl
  | move hm => exact h.performed hm

theorem Kept.run (h : Kept 0 e) (acts : List Act) : Kept 0 (e.run acts) := by
  induction acts generalizing e with
  | nil => exact h
  | cons a rest ih => exact ih (h.acted (acted_act e a))

theorem countP_range_getElem? {α : Type} (p : α → Bool) (l : List α) :
    (List.range l.length).countP (fun i => l[i]?.any p) = l.countP p := by
  have hmap : (List.range l.length).map (fun i => l[i]?) = l.map some := by
    apply List.ext_getElem?
    intro i
    by_cases hi : i < l.length <;> simp [hi]
  calc (List.range l.length).countP (fun i => l[i]?.any p)
      = ((List.range l.length).map (fun i => l[i]?)).countP (·.any p) := by
        rw [List.countP_map]; rfl
    _ = l.countP p := by
        rw [hmap, List.countP_map]; rfl

/-- The permits that are held are those of the evaluations that have begun and not ended. -/
theorem Kept.held_eq {spare : Nat} (h : Kept spare e) : e.held = e.evaluating.length := by
  rw [evaluating, ← List.countP_eq_length_filter, held,
    ← countP_range_getElem? (fun t : Task => t.stage.holds) e.tasks]
  apply List.countP_congr
  intro number _
  rw [← (h.life number).holds_iff, stage?, Option.any_map]

/-! ## Nobody waits in vain -/

/-- A decision waits only while all permits are held. -/
def Eager (e : Evaluator) : Prop := e.permits.free ≠ 0 → ∀ k, e.stage? k ≠ some .waiting

theorem stage?_enter_ne_waiting {number k : Nat} {s : Stage} {m : Milestone} (hs : s ≠ .waiting)
    (h : e.stage? k ≠ some .waiting) : (e.enter number s m).stage? k ≠ some .waiting := by
  rw [stage?_enter]
  cases hk : e.stage? k with
  | none => simp
  | some old =>
    rw [hk] at h
    by_cases heq : number = k
    · simpa [heq] using hs
    · simpa [heq] using h

theorem Eager.enter {number : Nat} {s : Stage} {m : Milestone} (h : Eager e)
    (hs : s ≠ .waiting) : Eager (e.enter number s m) := by
  intro hfree k
  exact stage?_enter_ne_waiting hs (h hfree k)

theorem Eager.performed {m : Move} (h : Eager e) (hm : Performed e m e') : Eager e' := by
  cases hm with
  | idle => exact h
  | answer ht turn => exact h.enter turn.ne_waiting
  | @finish number t s ht turn =>
    rcases handOver_cases (e.enter number s .ended) with
      ⟨next, t', -, -, heq⟩ | ⟨hnone, heq⟩
    · rw [heq]
      exact (h.enter turn.ne_waiting).enter nofun
    · rw [heq]
      exact fun _ => hnone

theorem Eager.acted (h : Eager e) (ha : Acted e e') : Eager e' := by
  cases ha with
  | beside => exact h
  | queue evaluation hfull => exact fun hfree => absurd hfull hfree
  | start evaluation hroom =>
    intro _ k
    by_cases hk : k = e.tasks.length
    · subst hk
      rw [begin, stage?_enter]
      simp
    · refine stage?_enter_ne_waiting nofun ?_
      show (e.enroll evaluation).stage? k ≠ some .waiting
      rw [stage?_enroll, if_neg hk]
      exact h hroom k
  | move hm => exact h.performed hm

theorem Eager.run (h : Eager e) (acts : List Act) : Eager (e.run acts) := by
  induction acts generalizing e with
  | nil => exact h
  | cons a rest ih => exact ih (h.acted (acted_act e a))

/-! ## Decisions that begin at once -/

theorem ask_of_free (h : e.permits.free ≠ 0) (engine : Engine) (input : Input) :
    ⟨e.tasks.length, e.now, .begun⟩ ∈ (e.ask engine input).journal ∧
      (e.ask engine input).tasks.length = e.tasks.length + 1 ∧
      (e.ask engine input).permits.free = e.permits.free - 1 ∧
      (e.ask engine input).now = e.now ∧
      ∀ event ∈ e.journal, event ∈ (e.ask engine input).journal := by
  rw [ask, Permits.acquire?, if_neg h]
  refine ⟨List.mem_cons_self .., ?_, rfl, rfl, fun event he => ?_⟩
  · simp [begin, enter, enroll]
  · exact List.mem_cons_of_mem _ (List.mem_cons_of_mem _ he)

/-- As many decisions as permits are free can begin at once. -/
theorem begun_of_free (asks : List (Engine × Input)) (h : asks.length ≤ e.permits.free) :
    (∀ k < asks.length, ⟨e.tasks.length + k, e.now, .begun⟩ ∈
      (e.run (asks.map fun a => .ask a.1 a.2)).journal) ∧
    ∀ event ∈ e.journal, event ∈ (e.run (asks.map fun a => .ask a.1 a.2)).journal := by
  induction asks generalizing e with
  | nil => exact ⟨nofun, fun _ he => he⟩
  | cons a rest ih =>
    rw [List.length_cons] at h
    have hfree : e.permits.free ≠ 0 := by omega
    obtain ⟨hbegun, hlength, hleft, hnow, hold⟩ := ask_of_free hfree a.1 a.2
    obtain ⟨hrest, hkeep⟩ := ih (e := e.ask a.1 a.2) (by omega)
    refine ⟨?_, fun event he => hkeep event (hold event he)⟩
    intro k hk
    cases k with
    | zero => exact hkeep _ hbegun
    | succ k =>
      have := hrest k (by simpa using hk)
      rwa [hlength, hnow, Nat.add_assoc, Nat.add_comm 1] at this

/-! ## What holds of every run -/

theorem kept_new {modules : Modules} {query : String} {timeout : Nat}
    (h : new modules query timeout = .ok e) (limit : Nat) :
    Kept 0 (e.withLimit limit) ∧ Eager (e.withLimit limit) := by
  obtain ⟨-, rfl⟩ := new_eq_ok h
  exact ⟨⟨rfl, fun _ => .unasked⟩, nofun⟩

/-- **Permits are neither lost nor doubled.** At every moment as many are held as evaluations have
begun and not ended, given up or not, and never more than there are. A decision that is given up
while it waits begins nothing; one that is given up later, or answered, gives its permit back once,
when its evaluation ends, and an answer that is no timeout comes after that. A decision waits only
while all permits are held, so that with none of them held as many as there are begin at once. -/
theorem permits_conserved {modules : Modules} {query : String} {timeout : Nat} {e₀ : Evaluator}
    (h : new modules query timeout = .ok e₀) (limit : Nat) (acts : List Act) :
    let e := (e₀.withLimit limit).run acts
    e.inFlight = e.evaluating.length ∧ e.inFlight ≤ max 1 limit ∧
    (∀ number,
      e.story number <+: [.asked, .answered (.error (.timeout timeout))] ∨
      e.story number <+: [.asked, .begun, .answered (.error (.timeout timeout)), .ended] ∨
      ∃ outcome, e.story number <+: [.asked, .begun, .ended, .answered outcome]) ∧
    (e.inFlight < max 1 limit → ∀ number, e.stage? number ≠ some .waiting) ∧
    (e.evaluating = [] → e.inFlight = 0 ∧
      ∀ asks : List (Engine × Input), asks.length ≤ max 1 limit → ∀ k < asks.length,
        ⟨e.tasks.length + k, e.now, .begun⟩ ∈
          (e.run (asks.map fun a => .ask a.1 a.2)).journal) := by
  intro e
  have hfixed : Fixed query timeout (max 1 limit) e := (fixed_new h limit).run acts
  have hkept : Kept 0 e := (kept_new h limit).1.run acts
  have heager : Eager e := (kept_new h limit).2.run acts
  have hbalance := hkept.balance
  have hheld := hkept.held_eq
  rw [hfixed.limit, hheld] at hbalance
  have hflight : e.inFlight = max 1 limit - e.permits.free := by
    rw [inFlight, Permits.inFlight, hfixed.limit]
  refine ⟨by omega, by omega, ?_, ?_, ?_⟩
  · intro number
    have hlife := (hkept.life number).prefix_of
    rwa [timedOut, hfixed.timeout] at hlife
  · intro hroom
    exact heager (by omega)
  · intro hnone
    rw [hnone, List.length_nil] at hbalance
    refine ⟨by omega, fun asks hasks => ?_⟩
    exact (begun_of_free asks (by omega)).1

/-- An evaluator that gives up decisions before their evaluations end. -/
def hasty : Evaluator :=
  { modules := [("a.rego", "package a")], query := "data.a.allow", timeout := 5 }

def slowEngine : Engine := fun _ _ _ => ⟨10, .ok (some (.bool true))⟩

/-- Two decisions over one permit, both given up while the first is evaluated. -/
def crowding : List Act :=
  [.ask slowEngine { tenant := "acme", mode := .tool },
    .ask slowEngine { tenant := "acme", mode := .tool }, .wait 5, .move (.giveUp 1),
    .move (.giveUp 0)]

theorem crowding_conserved :
    new hasty.modules hasty.query hasty.timeout = .ok hasty ∧
      ((hasty.withLimit 1).run crowding).inFlight = 1 ∧
      ((hasty.withLimit 1).run crowding).story 0 = [.asked, .begun, .answered hasty.timedOut] ∧
      ((hasty.withLimit 1).run crowding).story 1 = [.asked, .answered hasty.timedOut] := by
  have hnew : new hasty.modules hasty.query hasty.timeout = .ok hasty := rfl
  obtain ⟨hflight, -⟩ := permits_conserved hnew 1 crowding
  refine ⟨hnew, ?_, rfl, rfl⟩
  rw [hflight]
  decide +kernel

end Evaluator
end Guardrail.Decision
