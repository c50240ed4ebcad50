import Guardrail.Proofs.Moderation.Conservation

/-! # Every job comes to its end

Checks may go on for ever and time may pass as slowly as it likes, as long as no worker is left for
ever in a state from which it could move (`Fair`). Then every job that is accepted is settled in the
end: jobs are taken in their order, so what is left to do for a job and those before it (`load`)
never grows, and each turn of a worker that has one of them makes it smaller. -/

namespace Guardrail.Moderation

def Worker.job? : Worker → Option Job
  | .idle => none
  | .taken job | .pacing job _ | .calling job _ _ | .reporting job _ => some job

namespace Detector

variable {d d' : Detector} {now : Nat} {p : Job → Bool}

/-! ## What is left to do -/

/-- The moves that a worker is away from being idle, if its job counts. -/
def workerLoad (p : Job → Bool) (w : Worker) : Nat := if w.job?.any p then phase w else 0

/-- The moves that are left for the jobs that count. -/
def load (p : Job → Bool) (d : Detector) : Nat :=
  5 * d.queue.countP p + total (d.workers.map (workerLoad p))

theorem Turn.load {w w' : Worker} {e : Option Event} (turn : Turn w e w') (p : Job → Bool) :
    5 * (e.bind Event.taken?).toList.countP p + workerLoad p w
      = workerLoad p w' + if (w.job?.or w'.job?).any p then 1 else 0 := by
  cases turn <;> simp [workerLoad, Worker.job?, Event.taken?, phase] <;> split <;> simp_all

theorem load_of_turn {front back : List Worker} {w w' : Worker} {e : Option Event}
    (turn : Turn w e w') (hw : d.workers = front ++ w :: back)
    (hw' : d'.workers = front ++ w' :: back)
    (hq : d.queue = (e.bind Event.taken?).toList ++ d'.queue) (p : Job → Bool) :
    d.load p = d'.load p + if (w.job?.or w'.job?).any p then 1 else 0 := by
  have hl := turn.load p
  rw [load, load, hw, hw', hq]
  simp only [List.countP_append, List.map_append, List.map_cons, total_append, total_cons]
  omega

/-- The moves of workers make the whole load smaller. -/
theorem Moved.load_lt {m : Move} (hm : Moved now d m d') (hworker : ∀ j, m ≠ .tick j) :
    d'.load (fun _ => true) < d.load (fun _ => true) := by
  obtain ⟨_, _, _, _, _, turn, hw, hw', hq, -⟩ := hm.turn hworker
  rw [load_of_turn turn hw hw' hq]
  cases turn <;> simp [Worker.job?]

theorem Change.load_le (hc : Change d d') (hp : ∀ text, p ⟨d.accepts, text⟩ = false) :
    d'.load p ≤ d.load p := by
  cases hc with
  | turn turn hw hw' hq _ =>
    rw [load_of_turn turn hw hw' hq p]
    exact Nat.le_add_right ..
  | ask asked hw hq _ =>
    have hidle : workerLoad p .idle = 0 := rfl
    rw [load, load, hw, hq]
    cases asked <;> simp [Event.accepted?, hp, hidle, total_replicate]

/-- The next turn of a worker in this state is for a job that counts. -/
def Needed (p : Job → Bool) (d : Detector) (w : Worker) : Prop :=
  (∃ job, w.job? = some job ∧ p job = true) ∨
    (w = .idle ∧ ∃ job, d.queue.head? = some job ∧ p job = true)

theorem Needed.counts {w w' : Worker} {e : Option Event} (hn : d.Needed p w) (turn : Turn w e w')
    (hq : d.queue = (e.bind Event.taken?).toList ++ d'.queue) :
    (w.job?.or w'.job?).any p = true := by
  rcases hn with ⟨job, hj, hp⟩ | ⟨rfl, job, hj, hp⟩
  · simp [hj, hp]
  · cases turn with
    | take taken =>
      obtain rfl : taken = job := by simpa [hq, Event.taken?] using hj
      simp [Worker.job?, hp]

theorem Needed.turn {u w w' : Worker} {e : Option Event} (hn : d.Needed p u) (turn : Turn w e w')
    (hq : d.queue = (e.bind Event.taken?).toList ++ d'.queue)
    (hcounts : ¬ (w.job?.or w'.job?).any p = true) : d'.Needed p u := by
  rcases hn with hjob | ⟨hidle, job, hj, hp⟩
  · exact .inl hjob
  · refine .inr ⟨hidle, job, ?_, hp⟩
    cases turn with
    | take taken =>
      obtain rfl : taken = job := by simpa [hq, Event.taken?] using hj
      exact absurd (by simp [Worker.job?, hp]) hcounts
    | _ => simpa [hq, Event.taken?] using hj

/-- Until the load gets smaller, a worker that is needed stays as it is and is needed. -/
theorem Change.needed (hc : Change d d') {i : Nat} {w : Worker} (hi : d.workers[i]? = some w)
    (hn : d.Needed p w) :
    d'.load p < d.load p ∨ (d'.workers[i]? = some w ∧ d'.Needed p w) := by
  cases hc with
  | @turn front back v v' e turn hw hw' hq _ =>
    rw [load_of_turn turn hw hw' hq p]
    by_cases hcounts : (v.job?.or v'.job?).any p = true
    · exact .inl (by simp [hcounts])
    · refine .inr ⟨?_, hn.turn turn hq hcounts⟩
      rw [hw] at hi
      rw [hw']
      rcases getElem?_around hi with hother | ⟨-, rfl, -⟩
      · exact hother
      · exact absurd (hn.counts turn hq) hcounts
  | ask asked hw hq _ =>
    refine .inr ⟨?_, ?_⟩
    · rw [hw, List.getElem?_append_left (List.getElem?_eq_some_iff.mp hi).1]
      exact hi
    · rcases hn with hjob | ⟨hidle, job, hj, hp⟩
      · exact .inl hjob
      · exact .inr ⟨hidle, job, by rw [hq, List.head?_append, hj]; rfl, hp⟩

theorem workerMove_ne_tick {i j t : Nat} {w : Worker} :
    d.workerMove now i w ≠ some (t, .tick j) := by
  cases w <;> simp [workerMove]

theorem Needed.can_move {w : Worker} (hn : d.Needed p w) (hopen : d.closed = false) (i : Nat) :
    d.workerMove now i w ≠ none := by
  cases w with
  | idle =>
    rcases hn with ⟨job, hj, -⟩ | ⟨-, job, hj, -⟩
    · cases hj
    · have hq : d.queue.isEmpty = false := by
        cases hq : d.queue with
        | nil => simp [hq] at hj
        | cons => rfl
      simp [workerMove, hq, hopen]
  | _ => simp [workerMove]

/-! ## Jobs are taken in their order -/

theorem Accounted.mem_taken (h : d.Accounted) {w : Worker} {job : Job} (hw : w ∈ d.workers)
    (hj : w.job? = some job) : job ∈ d.taken := by
  have hcalled {job : Job} (hm : job ∈ d.calling ++ d.stored.map Prod.fst) : job ∈ d.taken :=
    h.taken.mem_iff.mpr (List.mem_append_right _ (h.begun.mem_iff.mpr hm))
  cases w with
  | idle => cases hj
  | taken | pacing =>
    exact h.taken.mem_iff.mpr (List.mem_append_left _ (List.mem_filterMap.mpr ⟨_, hw, hj⟩))
  | calling => exact hcalled (List.mem_append_left _ (List.mem_filterMap.mpr ⟨_, hw, hj⟩))
  | reporting job' v =>
    cases hj
    exact hcalled (List.mem_append_right _ (List.mem_map.mpr ⟨_, h.mem_stored hw, rfl⟩))

/-- A job that has been taken is settled or with a worker. -/
theorem Accounted.settled_or_held (h : d.Accounted) {job : Job} (hj : job ∈ d.taken) :
    d.Settled job ∨ ∃ w ∈ d.workers, w.job? = some job := by
  by_cases hw : job ∈ d.waiting
  · obtain ⟨w, hw, hj⟩ := List.mem_filterMap.mp hw
    exact .inr ⟨w, hw, by cases w <;> simp_all [Worker.waiting?, Worker.job?]⟩
  by_cases hc : job ∈ d.calling
  · obtain ⟨w, hw, hj⟩ := List.mem_filterMap.mp hc
    exact .inr ⟨w, hw, by cases w <;> simp_all [Worker.calling?, Worker.job?]⟩
  by_cases hu : job ∈ d.unreported.map Prod.fst
  · obtain ⟨⟨_, v⟩, hm, rfl⟩ := List.mem_map.mp hu
    obtain ⟨w, hw, hj⟩ := List.mem_filterMap.mp hm
    exact .inr ⟨w, hw, by cases w <;> simp_all [Worker.reporting?, Worker.job?]⟩
  have hbegun := (List.mem_append.mp (h.taken.mem_iff.mp hj)).resolve_left hw
  exact .inl ⟨(List.mem_append.mp (h.begun.mem_iff.mp hbegun)).resolve_left hc, hu⟩

/-- Jobs that have been taken come before those in the queue, and these stand in their order. -/
theorem Accounted.ordered (h : d.Accounted) :
    (∀ job ∈ d.taken, ∀ job' ∈ d.queue, job.number < job'.number) ∧
      d.queue.Pairwise (·.number < ·.number) := by
  have hall : d.accepted.Pairwise (·.number < ·.number) :=
    List.pairwise_map.mp (h.numbered ▸ List.pairwise_lt_range)
  rw [h.in_order] at hall
  obtain ⟨_, hq, hlt⟩ := List.pairwise_append.mp hall
  exact ⟨hlt, hq⟩

theorem Accounted.number_lt (h : d.Accounted) {job : Job} (hj : job ∈ d.accepted) :
    job.number < d.accepts := by
  rw [accepts_eq, ← List.mem_range, ← h.numbered]
  exact List.mem_map.mpr ⟨job, hj, rfl⟩

/-- While a job is not settled, some worker is needed for it or for a job before it. -/
theorem Accounted.exists_needed (h : d.Accounted) {job : Job} (hj : job ∈ d.accepted)
    (hs : ¬ d.Settled job) (hw : d.workers ≠ []) :
    ∃ (i : Nat) (w : Worker),
      d.workers[i]? = some w ∧ d.Needed (fun other => other.number ≤ job.number) w := by
  rcases List.mem_append.mp (h.in_order ▸ hj) with ht | hq
  · obtain ⟨w, hw, hj⟩ := (h.settled_or_held ht).resolve_left hs
    obtain ⟨i, hi⟩ := List.mem_iff_getElem?.mp hw
    exact ⟨i, w, hi, .inl ⟨job, hj, by simp⟩⟩
  · obtain ⟨w, rest, hcons⟩ := List.exists_cons_of_ne_nil hw
    refine ⟨0, w, by simp [hcons], ?_⟩
    obtain ⟨hbefore, hsorted⟩ := h.ordered
    cases hjob : w.job? with
    | some other =>
      have ht := h.mem_taken (hcons ▸ List.mem_cons_self ..) hjob
      exact .inl ⟨other, hjob, by simpa using Nat.le_of_lt (hbefore _ ht _ hq)⟩
    | none =>
      have hidle : w = .idle := by cases w <;> first | rfl | cases hjob
      cases hqueue : d.queue with
      | nil => simp [hqueue] at hq
      | cons first others =>
        refine .inr ⟨hidle, first, by simp [hqueue], ?_⟩
        rw [hqueue] at hq hsorted
        rcases List.mem_cons.mp hq with rfl | hm
        · simp
        · simpa using Nat.le_of_lt (List.rel_of_pairwise_cons hsorted hm)

/-- What the journal has told stays told. -/
theorem Change.history {α : Type} (hc : Change d d') (kind : Event → Option α) :
    d.history kind ⊆ d'.history kind := by
  cases hc with
  | turn _ _ _ _ hj | ask _ _ _ hj =>
    rw [history_of_journal hj]
    exact List.subset_append_left ..

theorem Change.workers_ne_nil (hc : Change d d') (hw : d.workers ≠ []) : d'.workers ≠ [] := by
  cases hc with
  | turn _ _ hw' => simp [hw']
  | ask _ hw' => simp [hw', hw]

end Detector

/-! ## Fair runs -/

/-- A run without end in which no worker is for ever in a state from which it could move. -/
structure Fair (run : Nat → Nat × Detector) : Prop where
  step : ∀ n, Step (run n) (run (n + 1))
  moves : ∀ n i w, (run n).2.workers[i]? = some w →
    ∃ m ≥ n, (run m).2.workers[i]? ≠ some w ∨ (run m).2.workerMove (run m).1 i w = none

section Reachable

variable {client : Client} {options : Options} {run : Nat → Nat × Detector}

theorem Fair.reachable (fair : Fair run) (h : Reachable client options (run 0).1 (run 0).2)
    (n : Nat) : Reachable client options (run n).1 (run n).2 := by
  induction n with
  | zero => exact h
  | succ n ih => exact ih.step (fair.step n)

theorem Fair.change (fair : Fair run) (h : Reachable client options (run 0).1 (run 0).2)
    (n : Nat) : Detector.Change (run n).2 (run (n + 1)).2 :=
  ((fair.reachable h n).stepped (fair.step n)).change

theorem Fair.keeps (fair : Fair run) (h : Reachable client options (run 0).1 (run 0).2) {n m : Nat}
    (hle : n ≤ m) : (run n).2.accepted ⊆ (run m).2.accepted ∧
      ((run n).2.workers ≠ [] → (run m).2.workers ≠ []) := by
  induction hle with
  | refl => exact ⟨List.Subset.refl _, id⟩
  | @step m _ ih =>
    have hc := fair.change h m
    exact ⟨List.Subset.trans ih.1 (hc.history _), fun hw => hc.workers_ne_nil (ih.2 hw)⟩

/-- While a worker is needed for jobs that count and no new ones do, some of them move on. -/
theorem Fair.load_lt (fair : Fair run) (h : Reachable client options (run 0).1 (run 0).2)
    {p : Job → Bool} {n i : Nat} {w : Worker} (hi : (run n).2.workers[i]? = some w)
    (hn : (run n).2.Needed p w) (hp : ∀ m ≥ n, ∀ text, p ⟨(run m).2.accepts, text⟩ = false) :
    ∃ m ≥ n, (run m).2.load p < (run n).2.load p := by
  by_contra hnone
  -- The worker stays as it is, and it can move: that is not fair.
  have hstay (j : Nat) : (run (n + j)).2.workers[i]? = some w ∧ (run (n + j)).2.Needed p w ∧
      (run (n + j)).2.load p ≤ (run n).2.load p := by
    induction j with
    | zero => exact ⟨hi, hn, Nat.le_refl _⟩
    | succ j ih =>
      have hc := fair.change h (n + j)
      have hle := Nat.le_trans (hc.load_le (hp _ (Nat.le_add_right ..))) ih.2.2
      rcases hc.needed ih.1 ih.2.1 with hlt | ⟨hi', hn'⟩
      · exact absurd ⟨n + j + 1, by omega, Nat.lt_of_lt_of_le hlt ih.2.2⟩ hnone
      · exact ⟨hi', hn', hle⟩
  obtain ⟨m, hm, hmoves⟩ := fair.moves n i w hi
  obtain ⟨j, rfl⟩ := Nat.exists_eq_add_of_le hm
  obtain ⟨hi', hn', -⟩ := hstay j
  rcases hmoves with hgone | hstuck
  · exact hgone hi'
  · exact hn'.can_move (fair.reachable h _).fixed.not_closed i hstuck

/-- In a fair run every job that is accepted comes to its end, if there are workers. -/
theorem Fair.settles (fair : Fair run) (h : Reachable client options (run 0).1 (run 0).2)
    {n : Nat} {job : Job} (hj : job ∈ (run n).2.accepted) (hw : (run n).2.workers ≠ []) :
    ∃ m ≥ n, (run m).2.Settled job := by
  generalize hl : (run n).2.load (fun other => other.number ≤ job.number) = l
  induction l using Nat.strongRecOn generalizing n with
  | ind l ih =>
    by_cases hs : (run n).2.Settled job
    · exact ⟨n, Nat.le_refl n, hs⟩
    · obtain ⟨i, w, hi, hn⟩ := (fair.reachable h n).accounted.exists_needed hj hs hw
      obtain ⟨m, hm, hlt⟩ := fair.load_lt h hi hn fun m hm text => by
        have hlt := (fair.reachable h m).accounted.number_lt ((fair.keeps h hm).1 hj)
        simpa using hlt
      obtain ⟨m', hm', hs'⟩ := ih _ (hl ▸ hlt) ((fair.keeps h hm).1 hj) ((fair.keeps h hm).2 hw) rfl
      exact ⟨m', Nat.le_trans hm hm', hs'⟩

end Reachable

/-! ## There are fair runs -/

theorem Fair.cons {run : Nat → Nat × Detector} (fair : Fair run) {s : Nat × Detector}
    (hs : Step s (run 0)) : Fair fun | 0 => s | n + 1 => run n := by
  constructor
  · intro n
    cases n with
    | zero => exact hs
    | succ n => exact fair.step n
  · intro n i w hi
    cases n with
    | zero =>
      by_cases hstay : (run 0).2.workers[i]? = some w
      · obtain ⟨m, -, hm⟩ := fair.moves 0 i w hstay
        exact ⟨m + 1, Nat.zero_le _, hm⟩
      · exact ⟨1, Nat.zero_le _, .inl hstay⟩
    | succ n =>
      obtain ⟨m, hle, hm⟩ := fair.moves n i w hi
      exact ⟨m + 1, Nat.succ_le_succ hle, hm⟩

/-- Workers that make all the moves they can are fair, and so many moves there are not. -/
theorem exists_fair {d : Detector} (hopen : d.closed = false) (now : Nat) :
    ∃ run, Fair run ∧ run 0 = (now, d) := by
  generalize hl : d.load (fun _ => true) = l
  induction l using Nat.strongRecOn generalizing d now with
  | ind l ih =>
    by_cases hmoves : ∃ (i : Nat) (w : Worker),
        d.workers[i]? = some w ∧ d.workerMove now i w ≠ none
    · obtain ⟨i, w, hi, hm⟩ := hmoves
      obtain ⟨⟨t, m⟩, hm⟩ := Option.ne_none_iff_exists'.mp hm
      obtain ⟨hle, due⟩ := Detector.due_of_mem_moves (Detector.mem_moves.mpr (.inl ⟨i, w, hi, hm⟩))
      have hmoved := Detector.perform_moved hopen due
      have hworker (j : Nat) : m ≠ .tick j := fun he => Detector.workerMove_ne_tick (he ▸ hm)
      have hopen' := (Fixed.moved ⟨rfl, rfl, hopen⟩ hmoved).not_closed
      obtain ⟨run, fair, hrun⟩ := ih _ (hl ▸ hmoved.load_lt hworker) hopen' t rfl
      have hmove : Step (t, d) (run 0) := hrun ▸ .move due
      obtain ⟨ticks, rfl⟩ := Nat.exists_eq_add_of_le hle
      exact ⟨_, (fair.cons hmove).cons (.wait ticks), rfl⟩
    · refine ⟨fun _ => (now, d), ⟨fun _ => .wait 0, ?_⟩, rfl⟩
      intro n i w hi
      refine ⟨n, Nat.le_refl n, .inr ?_⟩
      by_contra hm
      exact hmoves ⟨i, w, hi, hm⟩

/-! ## No job is lost or doubled -/

theorem Detector.Settled.once {d : Detector} {job : Job} (hs : d.Settled job) (h : d.Accounted) :
    d.begun.count job = 1 ∧ (d.stored.map Prod.fst).count job = 1 := by
  have hstored := (List.nodup_append.mp h.calling_stored_nodup).2.1
  have hbegun := (List.nodup_append.mp h.waiting_begun_nodup).2.1
  have hm : job ∈ d.begun := h.begun.mem_iff.mpr (List.mem_append_right _ hs.1)
  exact ⟨List.count_eq_one_of_mem hbegun hm, List.count_eq_one_of_mem hstored hs.1⟩

/-- The whole account of the jobs of a detector: where they are now, what a check adds to them, and
what becomes of them. -/
structure Conserved (now : Nat) (d : Detector) : Prop extends Detector.Accounted d where
  /-- Putting a text on the queue drops it exactly if the queue is full. -/
  enqueued : ∀ text, d.enqueue text =
    if d.queue.length = d.capacity then { d with journal := .dropped text :: d.journal }
    else { d with
      queue := d.queue ++ [⟨d.accepted.length, text⟩]
      journal := .accepted ⟨d.accepted.length, text⟩ :: d.journal }
  /-- That is what a check does if it misses; if it hits, it does nothing of the kind. -/
  checked : ∀ text, ∃ cache, (d.check now text).2 =
    if (d.lookup now text).1.isSome then { d with cache } else { d.enqueue text with cache }
  /-- With `taken`, `begun` and `stored` of the account, no job gets anywhere twice. -/
  nodup : d.accepted.Nodup
  /-- What is reported for a job, now and ever after, is what was stored for it, and that once,
  or nothing if nobody listens when its worker is about to report. -/
  reported : ∀ i job v, d.workers[i]? = some (.reporting job v) → (job, v) ∈ d.stored ∧
    ∀ now' d', Run (now, d.perform now (.report i)) (now', d') →
      d'.reportsOf job = if d.reporting then [(job, v)] else []
  balance : d.accepted.length = d.queue.length + d.unfinished.length + d.stored.length
  /-- Also workers that have a verdict to report are not free for another job. -/
  occupied : d.unfinished.length + d.unreported.length ≤ d.workers.length
  /-- In a fair run, calls begin and verdicts are stored for all jobs, once for each. -/
  completed : ∀ run, Fair run → run 0 = (now, d) → ∀ n, (run n).2.workers ≠ [] →
    ∀ job ∈ (run n).2.accepted, ∃ m ≥ n, (run m).2.begun.count job = 1 ∧
      ((run m).2.stored.map Prod.fst).count job = 1 ∧ (run m).2.Settled job
  /-- Fair runs go on from here. -/
  fair : ∃ run, Fair run ∧ run 0 = (now, d)

theorem Detector.Accounted.enqueue_eq {d : Detector} (h : d.Accounted) (text : String) :
    d.enqueue text =
      if d.queue.length = d.capacity then { d with journal := .dropped text :: d.journal }
      else { d with
        queue := d.queue ++ [⟨d.accepted.length, text⟩]
        journal := .accepted ⟨d.accepted.length, text⟩ :: d.journal } := by
  by_cases hfull : d.queue.length = d.capacity
  · rw [if_pos hfull, Detector.enqueue_of_le (Nat.le_of_eq hfull.symm)]
  · rw [if_neg hfull, Detector.enqueue_of_lt (Nat.lt_of_le_of_ne h.bounded hfull),
      Detector.accepts_eq]

theorem Detector.check_snd (d : Detector) (now : Nat) (text : String) :
    ∃ cache, (d.check now text).2 =
      if (d.lookup now text).1.isSome then { d with cache } else { d.enqueue text with cache } := by
  obtain ⟨cache, -, hframe⟩ := d.lookup_frame now text
  refine ⟨cache, ?_⟩
  unfold Detector.check
  split
  · rename_i v d' hlookup
    rw [hlookup] at hframe ⊢
    exact hframe
  · rename_i d' hlookup
    rw [hlookup] at hframe ⊢
    subst hframe
    exact d.enqueue_with_cache cache text

section Reachable

variable {client : Client} {options : Options} {now : Nat} {d : Detector}

/-- **No job is lost or doubled**, in whatever order checks, workers and calls come. -/
theorem jobs_conserved (h : Reachable client options now d) :
    d.capacity = max 1 options.queueSize ∧ Conserved now d := by
  have ha := h.accounted
  have hopen := h.fixed.not_closed
  refine ⟨by rw [Detector.capacity, h.fixed.options], { ha with
    enqueued := ha.enqueue_eq
    checked := d.check_snd now
    nodup := ha.accepted_nodup
    reported := fun i job v hw => ?_
    balance := ha.balance.1
    occupied := ha.balance.2
    completed := fun run fair hrun n hw job hj => ?_
    fair := exists_fair hopen now }⟩
  · obtain ⟨hsettled, hreports⟩ := Detector.settled_report ha hopen now hw
    have due : (now, .report i) ∈ d.moves now :=
      Detector.mem_moves.mpr (.inl ⟨i, .reporting job v, hw, rfl⟩)
    refine ⟨ha.mem_stored (List.mem_of_getElem? hw), fun now' d' r => ?_⟩
    exact ((h.step (.move due)).settled hsettled r).2.trans hreports
  · have h0 : Reachable client options (run 0).1 (run 0).2 := hrun ▸ h
    obtain ⟨m, hm, hs⟩ := fair.settles h0 hj hw
    obtain ⟨hb, hst⟩ := hs.once (fair.reachable h0 m).accounted
    exact ⟨m, hm, hb, hst, hs⟩

/-- A client that takes its time. -/
def slowClient : Client := fun _ _ => ⟨30, some .allow⟩

def smallQueue : Options := { queueSize := 1, rate := 0 }

/-- A text is with the client, and another one fills the queue. -/
def crowded : Detector :=
  (((Detector.new slowClient smallQueue).check 0 "hi").2.start 1 |>.advance 0 10).check 10 "ho" |>.2

theorem crowded_reachable : Reachable slowClient smallQueue 10 crowded :=
  (Reachable.new 0).run
    ((((Detector.run_check "hi").tail (.start 1)).trans (Detector.run_advance (by decide))).trans
      (Detector.run_check "ho"))

theorem crowded_conserved : Reachable slowClient smallQueue 10 crowded ∧
    crowded.enqueue "hey" = { crowded with journal := .dropped "hey" :: crowded.journal } ∧
    crowded.accepted.length = 1 + 1 + 0 := by
  obtain ⟨_, hconserved⟩ := jobs_conserved crowded_reachable
  refine ⟨crowded_reachable, ?_, ?_⟩
  · exact (hconserved.enqueued "hey").trans (if_pos (by decide +kernel))
  · rw [hconserved.balance]
    decide +kernel

end Reachable
end Guardrail.Moderation
