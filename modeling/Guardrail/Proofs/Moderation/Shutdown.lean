import Guardrail.Proofs.Moderation.Completion
import Guardrail.Proofs.Moderation.Freshness

/-! # The end of a detector

When a detector is shut down, idle workers and sweepers may stop, and the shutdown returns when the
workers that were there have stopped, the busy ones after their jobs. The order is open: a worker
that is free may even take another job before it sees that it should stop. So here workers stop one
by one, between steps of all kinds (`Ending`). A job stays with a worker that is waited for until it
is settled (`Tended`), and without workers nothing more happens to jobs (`Silent`). What `shutdown`
does is one of the orders (`ends_shutdown`). -/

namespace Guardrail.Moderation

/-- One thing happens to a detector while somebody waits for the first so many of its workers to
stop. Workers that start meanwhile, if they may, come after these and are not waited for. -/
inductive Ending (starts : Prop) : Nat × Nat × Detector → Nat × Nat × Detector → Prop
  | step {awaited : Nat} {s s' : Nat × Detector} (hs : Step s s')
      (hstarts : starts ∨ s'.2.workers.length = s.2.workers.length) :
      Ending starts (awaited, s) (awaited, s')
  | stop {awaited now : Nat} {d : Detector} {front back : List Worker}
      (hw : d.workers = front ++ .idle :: back) :
      Ending starts (awaited, now, d)
        (if front.length < awaited then awaited - 1 else awaited, now,
          { d with workers := front ++ back })
  | stopSweeper {awaited now : Nat} {d : Detector} (j : Nat) :
      Ending starts (awaited, now, d)
        (awaited, now, { d with sweepers := d.sweepers.eraseIdx j })

/-- Many things happen; if nobody is waited for any more, a shutdown may return. -/
abbrev Ends (starts : Prop) : Nat × Nat × Detector → Nat × Nat × Detector → Prop :=
  Relation.ReflTransGen (Ending starts)

/-- What holds of a detector whether or not workers have stopped. -/
structure Sound (client : Client) (options : Options) (now : Nat) (d : Detector) : Prop where
  fixed : Fixed client options d
  accounted : d.Accounted
  backed : Backed client options d
  faithful : d.Faithful now

section Sound

variable {client : Client} {options : Options} {now now' : Nat} {d d' : Detector}

theorem Sound.new (client : Client) (options : Options) (now : Nat) :
    Sound client options now (.new client options) :=
  have h : Reachable client options now (.new client options) := .new now
  ⟨h.fixed, h.accounted, h.backed, h.faithful⟩

theorem Sound.step (h : Sound client options now d) (hs : Step (now, d) (now', d')) :
    Sound client options now' d' := by
  have hstepped := Detector.stepped_of_step h.fixed.not_closed hs
  have hfixed := h.fixed.stepped hstepped
  refine ⟨hfixed, ?_, h.backed.stepped h.fixed hstepped, ?_⟩
  · exact h.accounted.change (hfixed.options.trans h.fixed.options.symm) hstepped.change
  · exact h.faithful.step hs fun due =>
      (Detector.perform_moved h.fixed.not_closed due).faithful h.faithful

/-- A worker that is idle has no part in the account. -/
theorem Detector.filterMap_of_stopped {α : Type} {pick : Worker → Option α}
    (hp : pick .idle = none) {front back : List Worker}
    (hw : d.workers = front ++ .idle :: back) :
    (front ++ back).filterMap pick = d.workers.filterMap pick := by
  rw [hw, Detector.filterMap_around, hp, List.filterMap_append]
  exact (congrArg (· ++ _) (List.append_nil _)).symm

theorem Sound.stop (h : Sound client options now d) {front back : List Worker}
    (hw : d.workers = front ++ .idle :: back) :
    Sound client options now { d with workers := front ++ back } := by
  have hkept {w : Worker} (hm : w ∈ front ++ back) : w ∈ d.workers := by
    rw [hw]
    simp only [List.mem_append, List.mem_cons] at hm ⊢
    tauto
  have ha := h.accounted
  refine ⟨⟨h.fixed.client, h.fixed.options, h.fixed.not_closed⟩, { ha with
    taken := ?_
    begun := ?_
    stored := ?_ }, ⟨fun hm => h.backed.calling (hkept hm), h.backed.stored⟩,
    h.faithful.same rfl rfl fun _ => rfl⟩
  · rw [Detector.waiting, Detector.filterMap_of_stopped rfl hw]
    exact ha.taken
  · rw [Detector.calling, Detector.filterMap_of_stopped rfl hw]
    exact ha.begun
  · rw [Detector.unreported, Detector.filterMap_of_stopped rfl hw]
    exact ha.stored

theorem Sound.ending {starts : Prop} {s s' : Nat × Nat × Detector}
    (h : Sound client options s.2.1 s.2.2) (he : Ending starts s s') :
    Sound client options s'.2.1 s'.2.2 := by
  cases he with
  | step hs _ => exact h.step hs
  | stop hw => exact h.stop hw
  | stopSweeper j =>
    obtain ⟨hf, ha, hb, hv⟩ := h
    exact ⟨⟨hf.client, hf.options, hf.not_closed⟩, { ha with }, ⟨hb.calling, hb.stored⟩,
      hv.same rfl rfl fun _ => rfl⟩

theorem Sound.ends {starts : Prop} {s s' : Nat × Nat × Detector}
    (h : Sound client options s.2.1 s.2.2) (r : Ends starts s s') :
    Sound client options s'.2.1 s'.2.2 := by
  induction r with
  | refl => exact h
  | tail _ he ih => exact ih.ending he

end Sound

namespace Detector

variable {d d' : Detector} {now now' awaited : Nat} {job : Job} {report : Prop}

/-! ## No job is left behind -/

/-- The job is with a worker that is waited for, or it is settled. If it should be reported, then
somebody listens until it is. -/
inductive Tended (report : Prop) (awaited : Nat) (d : Detector) (job : Job) : Prop
  | held {i : Nat} {w : Worker} (hi : i < awaited) (hw : d.workers[i]? = some w)
      (hj : w.job? = some job) (listens : report → d.reporting = true)
  | settled (hs : d.Settled job)
      (hr : report → ∃ v, (job, v) ∈ d.stored ∧ d.reportsOf job = [(job, v)])

theorem Stepped.listens (hs : Stepped now d d') (h : d.reporting = true) :
    d'.reporting = true := by
  cases hs with
  | beside _ _ _ hlistens => exact hlistens h
  | accept | drop | start => exact h
  | moved hm => cases hm <;> exact h

theorem Tended.stepped (h : d.Tended report awaited job) (ha : d.Accounted)
    (hs : Stepped now d d') : d'.Tended report awaited job := by
  have hc := hs.change
  cases h with
  | settled hsettled hr =>
    obtain ⟨hsettled', he⟩ := hsettled.change ha hc
    refine .settled hsettled' fun hreport => ?_
    obtain ⟨v, hv, hreports⟩ := hr hreport
    exact ⟨v, hc.history _ hv, he.trans hreports⟩
  | @held i w hi hw hj hlistens =>
    have hlistens' (hreport : report) : d'.reporting = true := hs.listens (hlistens hreport)
    cases hs with
    | beside | accept | drop => exact .held hi hw hj hlistens'
    | start workers =>
      have hlt := (List.getElem?_eq_some_iff.mp hw).1
      exact .held hi ((List.getElem?_append_left hlt).trans hw) hj hlistens'
    | moved hm =>
      cases hm with
      | tick => exact .held hi hw hj hlistens'
      | take _ haround =>
        rcases getElem?_around (haround ▸ hw) with hother | ⟨-, rfl, -⟩
        · exact .held hi hother hj hlistens'
        · cases hj
      | acquire haround _ | begin haround _ | finish haround _ _ =>
        rcases getElem?_around (haround ▸ hw) with hother | ⟨-, rfl, hnext⟩
        · exact .held hi hother hj hlistens'
        · exact .held hi hnext hj hlistens'
      | @report front back job' v haround =>
        rcases getElem?_around (haround ▸ hw) with hother | ⟨rfl, rfl, -⟩
        · exact .held hi hother hj hlistens'
        · cases hj
          have hmoved : Moved now d _ _ := .report haround
          obtain ⟨hsettled, hreports⟩ := hmoved.settled ha hw
          have hstored : (job, v) ∈ d.stored := ha.mem_stored (List.mem_of_getElem? hw)
          exact .settled hsettled fun hreport =>
            ⟨v, hc.history _ hstored, hreports.trans (if_pos (hlistens hreport))⟩

/-- Whoever stops is idle, and the workers after it move up. -/
theorem Tended.stop (h : d.Tended report awaited job) {front back : List Worker}
    (hw : d.workers = front ++ .idle :: back) :
    Tended report (if front.length < awaited then awaited - 1 else awaited)
      { d with workers := front ++ back } job := by
  cases h with
  | settled hs hr =>
    refine .settled ⟨hs.1, ?_⟩ hr
    rw [unreported, filterMap_of_stopped rfl hw]
    exact hs.2
  | @held i w hi hiw hj hlistens =>
    rw [hw] at hiw
    rcases Nat.lt_trichotomy i front.length with hlt | rfl | hgt
    · have hfront : (front ++ back)[i]? = some w := by
        rw [List.getElem?_append_left hlt] at hiw ⊢
        exact hiw
      exact .held (by split <;> omega) hfront hj hlistens
    · obtain rfl : Worker.idle = w := by simpa using hiw
      cases hj
    · obtain ⟨k, rfl⟩ := Nat.exists_eq_add_of_lt hgt
      have hback : (front ++ back)[front.length + k]? = some w := by
        rw [List.getElem?_append_right (by omega)] at hiw ⊢
        simpa [Nat.add_assoc] using hiw
      exact .held (by split <;> omega) hback hj hlistens

/-- On the way from one state to the other, texts were put on the queue or dropped and entries of
the cache got lost, and that is all. -/
structure Silent (d d' : Detector) : Prop where
  begun : d'.begun = d.begun
  stored : d'.stored = d.stored
  reported : d'.reported = d.reported
  cache : d'.cache.Sublist d.cache
  workers : d'.workers = d.workers
  options : d'.options = d.options
  closed : d'.closed = d.closed
  lastStored : ∀ text, d'.lastStored text = d.lastStored text

theorem Silent.refl (d : Detector) : Silent d d :=
  ⟨rfl, rfl, rfl, .refl _, rfl, rfl, rfl, fun _ => rfl⟩

theorem Silent.trans {d'' : Detector} (h : Silent d d') (h' : Silent d' d'') : Silent d d'' where
  begun := h'.begun.trans h.begun
  stored := h'.stored.trans h.stored
  reported := h'.reported.trans h.reported
  cache := h'.cache.trans h.cache
  workers := h'.workers.trans h.workers
  options := h'.options.trans h.options
  closed := h'.closed.trans h.closed
  lastStored text := (h'.lastStored text).trans (h.lastStored text)

theorem Silent.asked {e : Option Event} (asked : Asked d e) {cache : List (String × Entry)}
    (fewer : cache.Sublist d.cache) (queue : List Job) (sweepers : List Sweeper)
    (reporting : Bool) :
    Silent d { d with cache, queue, sweepers, reporting, journal := e.toList ++ d.journal } := by
  obtain ⟨-, hb, hs, hr⟩ := asked.quiet
  refine ⟨history_of_asked hb rfl, history_of_asked hs rfl, history_of_asked hr rfl, fewer,
    rfl, rfl, rfl, fun text => ?_⟩
  cases asked <;> rfl

theorem Silent.beside {cache : List (String × Entry)} (fewer : cache.Sublist d.cache)
    (sweepers : List Sweeper) (reporting : Bool) :
    Silent d { d with cache, sweepers, reporting } :=
  .asked .nothing fewer d.queue sweepers reporting

/-- Also a detector that is closed is silent; then nobody can start workers. -/
theorem silent_of_step (hs : Step (now, d) (now', d')) (hw : d.workers = [])
    (hstart : d.closed = true ∨ d'.workers.length = d.workers.length) : Silent d d' := by
  cases hs with
  | lookup text =>
    obtain ⟨cache, fewer, he⟩ := d.lookup_frame now text
    rw [he]
    exact .beside fewer d.sweepers d.reporting
  | enqueue text =>
    rcases Nat.lt_or_ge d.queue.length d.capacity with hlt | hle
    · rw [enqueue_of_lt hlt]
      exact .asked (.accept text hlt) (.refl _) _ d.sweepers d.reporting
    · rw [enqueue_of_le hle]
      exact .asked (.drop text hle) (.refl _) d.queue d.sweepers d.reporting
  | start workers =>
    rcases Bool.eq_false_or_eq_true d.closed with hclosed | hopen
    · rw [start, if_pos hclosed]
      exact .refl d
    · rw [start_frame hopen] at hstart ⊢
      have hnone : workers = 0 := by simpa [hopen] using hstart
      subst hnone
      rw [List.replicate_zero, List.append_nil]
      exact .refl d
  | startSweeper interval =>
    obtain ⟨sweepers, he⟩ := d.startSweeper_frame now interval
    rw [he]
    exact .beside (.refl _) sweepers d.reporting
  | sweep => exact .beside List.filter_sublist d.sweepers d.reporting
  | listen => exact .beside (.refl _) d.sweepers true
  | move due =>
    rcases mem_moves.mp due with ⟨i, w, hi, -⟩ | ⟨j, s, hs, -, rfl⟩
    · simp [hw] at hi
    · rw [perform, hs]
      exact .beside List.filter_sublist _ d.reporting
  | wait ticks => exact .refl d

theorem faithful_of_step (h : Faithful now d) (hs : Step (now, d) (now', d'))
    (hw : d.workers = []) : Faithful now' d' := by
  refine h.step hs fun due => ?_
  rcases mem_moves.mp due with ⟨i, w, hi, -⟩ | ⟨j, s, hs, -, rfl⟩
  · simp [hw] at hi
  · rw [perform, hs]
    exact (sweep_faithful h).same rfl rfl fun _ => rfl

/-! ## How `shutdown` goes -/

/-- When all workers are waited for, they are one fewer then. -/
theorem ending_stop {starts : Prop} {front back : List Worker}
    (hw : d.workers = front ++ .idle :: back) :
    Ending starts (d.workers.length, now, d)
      ((front ++ back).length, now, { d with workers := front ++ back }) := by
  have hfewer : (if front.length < d.workers.length then d.workers.length - 1
      else d.workers.length) = (front ++ back).length := by
    simp [hw]
  exact hfewer ▸ .stop hw

/-- To be closed matters only to workers that are done. -/
theorem perform_closed {m : Move} (hm : ∀ i, m ≠ .report i) :
    { d with closed := true }.perform now m = { d.perform now m with closed := true } := by
  cases m with
  | take i =>
    simp only [perform]
    split <;> rfl
  | acquire i =>
    simp only [perform]
    split
    · cases hp : d.pacer <;> simp [acquireSlot, hp, setWorker, record]
    · rfl
  | begin i | finish i | tick i =>
    simp only [perform]
    split <;> rfl
  | report i => exact absurd rfl (hm i)

theorem perform_report_closed {front back : List Worker} {v : Verdict}
    (hw : d.workers = front ++ .reporting job v :: back) :
    { d with closed := true }.perform now (.report front.length) = { d with
      workers := front ++ back
      journal := (if d.reporting then [.reported job now v] else []) ++ d.journal
      closed := true } := by
  have hi : d.workers[front.length]? = some (.reporting job v) := by simp [hw]
  rw [perform, hi]
  have herase : (front ++ .reporting job v :: back).eraseIdx front.length = front ++ back := by
    simp [List.eraseIdx_append_of_length_le]
  by_cases hr : d.reporting = true <;> simp [Detector.report, release, record, hr, hw, herase]

/-- What has yet to stop when idle workers and sweepers have: workers that have a job. -/
structure Draining (d : Detector) : Prop where
  not_closed : d.closed = false
  busy : ∀ w ∈ d.workers, isIdle w = false
  sweepers : d.sweepers = []

theorem Draining.replace (h : d.Draining) {front back : List Worker} {w w' : Worker}
    (hw : d.workers = front ++ w :: back) (hw' : d'.workers = front ++ w' :: back)
    (hbusy : isIdle w' = false) (hopen : d'.closed = d.closed)
    (hsweepers : d'.sweepers = d.sweepers) : d'.Draining := by
  refine ⟨hopen.trans h.not_closed, fun u hm => ?_, hsweepers.trans h.sweepers⟩
  by_cases hu : u = w'
  · rw [hu, hbusy]
  · exact h.busy u (hw ▸ mem_of_mem_around (hw' ▸ hm) hu)

/-- The next move of a closed detector is a move of an open one, and maybe a worker stops then. -/
theorem Draining.move (h : d.Draining) {t : Nat} {m : Move} (hm : (t, m) ∈ d.moves now) :
    ∃ e, Ends False (d.workers.length, now, d) (e.workers.length, t, e) ∧
      { d with closed := true }.perform t m = { e with closed := true } ∧ e.Draining ∧
      total (e.workers.map phase) < total (d.workers.map phase) := by
  obtain ⟨hle, due⟩ := due_of_mem_moves hm
  obtain ⟨ticks, rfl⟩ := Nat.exists_eq_add_of_le hle
  have hmoved := perform_moved h.not_closed due
  have hstep (hlength : (d.perform (now + ticks) m).workers.length = d.workers.length) :
      Ends False (d.workers.length, now, d)
        ((d.perform (now + ticks) m).workers.length, now + ticks, d.perform (now + ticks) m) := by
    rw [hlength]
    exact .head (.step (.wait ticks) (.inr rfl)) (.single (.step (.move due) (.inr hlength)))
  have hclosed (hreport : ∀ i, m ≠ .report i) :
      { d with closed := true }.perform (now + ticks) m
        = { d.perform (now + ticks) m with closed := true } := perform_closed hreport
  generalize d.perform (now + ticks) m = d' at hmoved hstep hclosed
  cases hmoved with
  | take _ hw =>
    have hbusy := h.busy .idle (hw ▸ by simp)
    cases hbusy
  | acquire hw _ | begin hw _ | finish hw _ _ =>
    refine ⟨_, hstep (by simp [hw]), hclosed (by simp), h.replace hw rfl rfl rfl rfl, ?_⟩
    simp [hw, phase]
  | @report front back job v hw =>
    refine ⟨{ d with
      workers := front ++ back
      journal := (if d.reporting then [.reported job (now + ticks) v] else []) ++ d.journal },
      (hstep (by simp [hw])).tail (ending_stop rfl), perform_report_closed hw, ?_, ?_⟩
    · refine ⟨h.not_closed, fun u hm => h.busy u (hw ▸ ?_), h.sweepers⟩
      exact List.mem_append.mpr ((List.mem_append.mp hm).imp_right (List.mem_cons_of_mem _))
    · simp [hw, phase]
  | tick j =>
    rcases mem_moves.mp due with ⟨_, _, -, hm⟩ | ⟨_, _, hs, -⟩
    · exact absurd hm workerMove_ne_tick
    · simp [h.sweepers] at hs

end Detector

/-! ## What a shutdown waits for and what is left -/

section Ends

variable {client : Client} {options : Options} {now : Nat} {d : Detector} {job : Job}
  {starts report : Prop} {s s' : Nat × Nat × Detector}

theorem Detector.Tended.ends (h : s.2.2.Tended report s.1 job)
    (hsound : Sound client options s.2.1 s.2.2) (r : Ends starts s s') :
    s'.2.2.Tended report s'.1 job := by
  induction r with
  | refl => exact h
  | tail r he ih =>
    have hs := hsound.ends r
    cases he with
    | step hstep _ =>
      exact ih.stepped hs.accounted (Detector.stepped_of_step hs.fixed.not_closed hstep)
    | stop hw => exact ih.stop hw
    | @stopSweeper _ now d j =>
      have hbeside : Detector.Stepped now d _ :=
        .beside (.refl _) (d.sweepers.eraseIdx j) d.reporting id
      exact ih.stepped hs.accounted hbeside

/-- If nobody starts workers, all that are left are waited for. -/
theorem Ends.awaited (r : Ends False s s') (h : s.1 = s.2.2.workers.length) :
    s'.1 = s'.2.2.workers.length := by
  induction r with
  | refl => exact h
  | tail _ he ih =>
    cases he with
    | step _ hlength => exact ih.trans (hlength.resolve_left id).symm
    | stop hw =>
      simp only [hw, List.length_append, List.length_cons] at ih ⊢
      split <;> omega
    | stopSweeper j => exact ih

theorem Ends.silent (r : Ends False s s') (hw : s.2.2.workers = [])
    (hf : s.2.2.Faithful s.2.1) :
    Detector.Silent s.2.2 s'.2.2 ∧ s'.2.2.Faithful s'.2.1 := by
  induction r with
  | refl => exact ⟨.refl _, hf⟩
  | tail _ he ih =>
    obtain ⟨hsilent, hfaithful⟩ := ih
    have hw := hsilent.workers.trans hw
    cases he with
    | step hs hlength =>
      have hnext := Detector.silent_of_step hs hw (.inr (hlength.resolve_left id))
      exact ⟨hsilent.trans hnext, Detector.faithful_of_step hfaithful hs hw⟩
    | stop hidle => simp [hidle] at hw
    | @stopSweeper _ now d j =>
      have hnext : Detector.Silent d _ :=
        .beside (.refl _) (d.sweepers.eraseIdx j) d.reporting
      exact ⟨hsilent.trans hnext, hfaithful.same rfl rfl fun _ => rfl⟩

theorem Reachable.ends (h : Reachable client options now d) :
    ∃ first, Ends True (0, first, .new client options) (0, now, d) := by
  induction h with
  | new first => exact ⟨first, .refl⟩
  | step _ hs ih =>
    obtain ⟨first, r⟩ := ih
    exact ⟨first, r.tail (.step hs (.inl trivial))⟩

end Ends
end Guardrail.Moderation
