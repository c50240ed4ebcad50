import Guardrail.Proofs.Moderation.Interleaving
import Mathlib.Data.List.Nodup

/-! # No job is lost or doubled

The journal tells how far every job has come: it is accepted, taken, its call begins, its verdict is
stored and may be reported. The jobs between two of these are in the queue or with a worker, each in
one place (`Accounted`). Jobs carry numbers, so two of the same text are told apart. -/

namespace Guardrail.Moderation

def Event.accepted? : Event → Option Job
  | .accepted job => some job
  | _ => none

def Event.taken? : Event → Option Job
  | .taken job => some job
  | _ => none

def Event.begun? : Event → Option Job
  | .began job _ _ => some job
  | _ => none

def Event.stored? : Event → Option (Job × Verdict)
  | .stored job _ v => some (job, v)
  | _ => none

def Event.reported? : Event → Option (Job × Verdict)
  | .reported job _ v => some (job, v)
  | _ => none

/-- The job of a worker that has not begun its call. -/
def Worker.waiting? : Worker → Option Job
  | .taken job | .pacing job _ => some job
  | _ => none

def Worker.calling? : Worker → Option Job
  | .calling job _ _ => some job
  | _ => none

def Worker.reporting? : Worker → Option (Job × Verdict)
  | .reporting job v => some (job, v)
  | _ => none

namespace Detector

/-! ## Where jobs are -/

/-- What the journal tells of one kind of event, the earliest first. -/
def history {α : Type} (d : Detector) (kind : Event → Option α) : List α :=
  d.journal.reverse.filterMap kind

def accepted (d : Detector) : List Job := d.history Event.accepted?

def taken (d : Detector) : List Job := d.history Event.taken?

def begun (d : Detector) : List Job := d.history Event.begun?

def stored (d : Detector) : List (Job × Verdict) := d.history Event.stored?

def reported (d : Detector) : List (Job × Verdict) := d.history Event.reported?

def waiting (d : Detector) : List Job := d.workers.filterMap Worker.waiting?

def calling (d : Detector) : List Job := d.workers.filterMap Worker.calling?

/-- The verdicts that are stored but not yet reported. -/
def unreported (d : Detector) : List (Job × Verdict) := d.workers.filterMap Worker.reporting?

/-- Every job is in one place: a job that has been accepted and not taken is in the queue, and one
that is between two later events is with one worker. -/
structure Accounted (d : Detector) : Prop where
  bounded : d.queue.length ≤ d.capacity
  numbered : d.accepted.map Job.number = List.range d.accepted.length
  in_order : d.accepted = d.taken ++ d.queue
  taken : d.taken.Perm (d.waiting ++ d.begun)
  begun : d.begun.Perm (d.calling ++ d.stored.map Prod.fst)
  /-- Verdicts that were due while nobody listened stay silent. -/
  stored : ∃ silent, d.stored.Perm (d.unreported ++ (d.reported ++ silent))

variable {d d' : Detector} {now : Nat}

/-! ## What a step hands on -/

/-- A worker goes from one state to the next, and the journal may tell of it. -/
inductive Turn : Worker → Option Event → Worker → Prop
  | take (job : Job) : Turn .idle (some (.taken job)) (.taken job)
  | acquire (job : Job) (tick slot : Nat) :
      Turn (.taken job) (some (.acquired job tick slot)) (.pacing job slot)
  | begin (job : Job) (slot number tick : Nat) (call : Call) :
      Turn (.pacing job slot) (some (.began job number tick)) (.calling job tick call)
  | finish (job : Job) (began tick : Nat) (call : Call) (v : Verdict) :
      Turn (.calling job began call) (some (.stored job tick v)) (.reporting job v)
  | report (job : Job) (tick : Nat) (v : Verdict) :
      Turn (.reporting job v) (some (.reported job tick v)) .idle
  | keepSilent (job : Job) (v : Verdict) : Turn (.reporting job v) none .idle

/-- Nobody has a turn, but a text may be put on the queue or dropped. -/
inductive Asked (d : Detector) : Option Event → Prop
  | accept (text : String) (hroom : d.queue.length < d.capacity) :
      Asked d (some (.accepted ⟨d.accepts, text⟩))
  | drop (text : String) (hfull : d.capacity ≤ d.queue.length) : Asked d (some (.dropped text))
  | nothing : Asked d none

/-- What a step does to the workers, the queue and the journal: one worker has its turn, which takes
a job from the head of the queue or none, or a job may come to its end and new workers start. -/
inductive Change (d d' : Detector) : Prop
  | turn {front back : List Worker} {w w' : Worker} {e : Option Event} (turn : Turn w e w')
      (hw : d.workers = front ++ w :: back) (hw' : d'.workers = front ++ w' :: back)
      (hq : d.queue = (e.bind Event.taken?).toList ++ d'.queue)
      (hj : d'.journal = e.toList ++ d.journal)
  | ask {fresh : Nat} {e : Option Event} (asked : Asked d e)
      (hw : d'.workers = d.workers ++ List.replicate fresh .idle)
      (hq : d'.queue = d.queue ++ (e.bind Event.accepted?).toList)
      (hj : d'.journal = e.toList ++ d.journal)

theorem Change.asked {e : Option Event} (asked : Asked d e) (hw : d'.workers = d.workers)
    (hq : d'.queue = d.queue ++ (e.bind Event.accepted?).toList)
    (hj : d'.journal = e.toList ++ d.journal) : Change d d' := by
  have hnone : d'.workers = d.workers ++ List.replicate 0 .idle := by simp [hw]
  exact .ask asked hnone hq hj

theorem Change.unasked (hw : d'.workers = d.workers) (hq : d'.queue = d.queue)
    (hj : d'.journal = d.journal) : Change d d' :=
  .asked .nothing hw (by simp [hq]) hj

theorem Moved.turn {m : Move} (hm : Moved now d m d') (hworker : ∀ j, m ≠ .tick j) :
    ∃ front back w w' e, Turn w e w' ∧ d.workers = front ++ w :: back ∧
      d'.workers = front ++ w' :: back ∧ d.queue = (e.bind Event.taken?).toList ++ d'.queue ∧
      d'.journal = e.toList ++ d.journal := by
  cases hm with
  | take hq hw => exact ⟨_, _, _, _, _, .take _, hw, rfl, hq, rfl⟩
  | acquire hw _ => exact ⟨_, _, _, _, _, .acquire _ _ _, hw, rfl, rfl, rfl⟩
  | begin hw _ => exact ⟨_, _, _, _, _, .begin _ _ _ _ _, hw, rfl, rfl, rfl⟩
  | finish hw _ _ => exact ⟨_, _, _, _, _, .finish _ _ _ _ _, hw, rfl, rfl, rfl⟩
  | report hw =>
    by_cases hr : d.reporting = true
    · rw [if_pos hr]
      exact ⟨_, _, _, _, _, .report _ _ _, hw, rfl, rfl, rfl⟩
    · rw [if_neg hr]
      exact ⟨_, _, _, _, _, .keepSilent _ _, hw, rfl, rfl, rfl⟩
  | tick sweeper => exact absurd rfl (hworker sweeper)

theorem Moved.change {m : Move} (hm : Moved now d m d') : Change d d' := by
  by_cases hworker : ∀ j, m ≠ .tick j
  · obtain ⟨_, _, _, _, _, turn, hw, hw', hq, hj⟩ := hm.turn hworker
    exact .turn turn hw hw' hq hj
  · obtain ⟨j, rfl⟩ := not_forall_not.mp hworker
    cases hm with
    | tick => exact .unasked rfl rfl rfl

theorem Stepped.change (hs : Stepped now d d') : Change d d' := by
  cases hs with
  | beside => exact .unasked rfl rfl rfl
  | accept text hroom => exact .asked (.accept text hroom) rfl rfl rfl
  | drop text hfull => exact .asked (.drop text hfull) rfl (by simp [Event.accepted?]) rfl
  | start workers => exact .ask .nothing rfl (by simp) rfl
  | moved hm => exact hm.change

section Turn

variable {w w' : Worker} {e : Option Event}

theorem Turn.accepted (h : Turn w e w') : e.bind Event.accepted? = none := by
  cases h <;> rfl

theorem Turn.taken (h : Turn w e w') :
    ((e.bind Event.taken?).toList ++ w.waiting?.toList).Perm
      (w'.waiting?.toList ++ (e.bind Event.begun?).toList) := by
  cases h <;> exact .refl _

theorem Turn.begun (h : Turn w e w') :
    ((e.bind Event.begun?).toList ++ w.calling?.toList).Perm
      (w'.calling?.toList ++ (e.bind Event.stored?).toList.map Prod.fst) := by
  cases h <;> exact .refl _

theorem Turn.stored (h : Turn w e w') :
    ∃ silent, ((e.bind Event.stored?).toList ++ w.reporting?.toList).Perm
      (w'.reporting?.toList ++ ((e.bind Event.reported?).toList ++ silent)) := by
  cases h with
  | keepSilent job v => exact ⟨[(job, v)], .refl _⟩
  | _ => exact ⟨[], .refl _⟩

theorem Asked.quiet (h : Asked d e) : e.bind Event.taken? = none ∧ e.bind Event.begun? = none ∧
    e.bind Event.stored? = none ∧ e.bind Event.reported? = none := by
  cases h <;> exact ⟨rfl, rfl, rfl, rfl⟩

end Turn

/-! ## Every job is in one place -/

theorem filterMap_around {α β : Type} (pick : α → Option β) (front back : List α) (a : α) :
    (front ++ a :: back).filterMap pick
      = front.filterMap pick ++ (pick a).toList ++ back.filterMap pick := by
  cases h : pick a <;> simp [h]

theorem history_of_journal {e : Option Event} (hj : d'.journal = e.toList ++ d.journal)
    {α : Type} (kind : Event → Option α) :
    d'.history kind = d.history kind ++ (e.bind kind).toList := by
  cases e with
  | none => simp [history, hj]
  | some e => cases h : kind e <;> simp [history, hj, h]

theorem history_of_asked {α : Type} {kind : Event → Option α} {e : Option Event}
    (hk : e.bind kind = none) (hj : d'.journal = e.toList ++ d.journal) :
    d'.history kind = d.history kind := by
  rw [history_of_journal hj, hk]
  exact List.append_nil _

theorem filterMap_of_asked {α : Type} {pick : Worker → Option α} {fresh : Nat}
    (hp : pick .idle = none) (hw : d'.workers = d.workers ++ List.replicate fresh .idle) :
    d'.workers.filterMap pick = d.workers.filterMap pick := by
  rw [hw, List.filterMap_append, List.filterMap_replicate_of_none hp, List.append_nil]

theorem accepts_eq (d : Detector) : d.accepts = d.accepted.length := by
  rw [accepts, accepted, history, List.filterMap_reverse, List.length_reverse,
    List.length_filterMap_eq_countP]
  congr 1
  funext e
  cases e <;> rfl

/-- If one worker passes on what it gets and does not keep, all workers together do. -/
theorem perm_handOver {α : Type} [DecidableEq α]
    {entered front held back left came kept gone : List α}
    (h : entered.Perm (front ++ held ++ back ++ left))
    (hturn : (came ++ held).Perm (kept ++ gone)) :
    (entered ++ came).Perm (front ++ kept ++ back ++ (left ++ gone)) := by
  refine List.perm_iff_count.mpr fun a => ?_
  have hl := h.count_eq a
  have hr := hturn.count_eq a
  simp only [List.count_append] at hl hr ⊢
  omega

theorem Accounted.turn (h : d.Accounted) (ho : d'.options = d.options) {front back : List Worker}
    {w w' : Worker} {e : Option Event} (turn : Turn w e w') (hw : d.workers = front ++ w :: back)
    (hw' : d'.workers = front ++ w' :: back)
    (hq : d.queue = (e.bind Event.taken?).toList ++ d'.queue)
    (hj : d'.journal = e.toList ++ d.journal) : d'.Accounted := by
  have hist {α : Type} (kind : Event → Option α) := history_of_journal hj kind
  have hacc : d'.accepted = d.accepted := by
    rw [accepted, hist, turn.accepted]
    exact List.append_nil _
  have hbounded := h.bounded
  have htaken := h.taken
  have hbegun := h.begun
  obtain ⟨silent, hstored⟩ := h.stored
  obtain ⟨kept, hkept⟩ := turn.stored
  -- The other workers stand for what they had, so it is enough to look at the one with the turn.
  simp only [waiting, calling, unreported, hw, filterMap_around] at htaken hbegun hstored
  refine ⟨?_, ?_, ?_, ?_, ?_, silent ++ kept, ?_⟩
  · simp only [capacity, hq, ho, List.length_append] at hbounded ⊢
    omega
  · rw [hacc]
    exact h.numbered
  · rw [hacc, h.in_order, hq, Detector.taken, Detector.taken, hist, List.append_assoc]
  · simp only [Detector.taken, Detector.begun, waiting, hist, hw', filterMap_around]
    exact perm_handOver htaken turn.taken
  · simp only [Detector.begun, Detector.stored, calling, hist, hw', filterMap_around,
      List.map_append]
    exact perm_handOver hbegun turn.begun
  · simp only [Detector.stored, reported, unreported, hist, hw', filterMap_around]
    refine (perm_handOver hstored hkept).trans (.append_left _ ?_)
    simp only [List.append_assoc]
    exact .append_left _ (List.perm_append_comm_assoc ..)

theorem Accounted.ask (h : d.Accounted) (ho : d'.options = d.options) {fresh : Nat}
    {e : Option Event} (asked : Asked d e)
    (hw : d'.workers = d.workers ++ List.replicate fresh .idle)
    (hq : d'.queue = d.queue ++ (e.bind Event.accepted?).toList)
    (hj : d'.journal = e.toList ++ d.journal) : d'.Accounted := by
  have ha : d'.accepted = d.accepted ++ (e.bind Event.accepted?).toList := history_of_journal hj _
  obtain ⟨ht, hb, hs, hr⟩ := asked.quiet
  have ht : d'.taken = d.taken := history_of_asked ht hj
  have hb : d'.begun = d.begun := history_of_asked hb hj
  have hs : d'.stored = d.stored := history_of_asked hs hj
  have hr : d'.reported = d.reported := history_of_asked hr hj
  have hwaiting : d'.waiting = d.waiting := filterMap_of_asked rfl hw
  have hcalling : d'.calling = d.calling := filterMap_of_asked rfl hw
  have hunreported : d'.unreported = d.unreported := filterMap_of_asked rfl hw
  obtain ⟨silent, hstored⟩ := h.stored
  refine ⟨?_, ?_, ?_, ?_, ?_, silent, ?_⟩
  · rw [capacity, ho, ← capacity, hq]
    cases asked with
    | accept text hroom =>
      rw [List.length_append]
      exact hroom
    | drop | nothing => simpa [Event.accepted?] using h.bounded
  · rw [ha]
    cases asked with
    | accept text => simp [accepts_eq, Event.accepted?, List.range_succ, h.numbered]
    | drop | nothing => simpa [Event.accepted?] using h.numbered
  · rw [ha, h.in_order, ht, hq, List.append_assoc]
  · rw [ht, hwaiting, hb]
    exact h.taken
  · rw [hb, hcalling, hs]
    exact h.begun
  · rwa [hs, hunreported, hr]

theorem Accounted.change (h : d.Accounted) (ho : d'.options = d.options) (hc : Change d d') :
    d'.Accounted := by
  cases hc with
  | turn turn hw hw' hq hj => exact h.turn ho turn hw hw' hq hj
  | ask asked hw hq hj => exact h.ask ho asked hw hq hj

/-! ## Nothing is doubled -/

theorem Accounted.accepted_nodup (h : d.Accounted) : d.accepted.Nodup :=
  List.Nodup.of_map Job.number (h.numbered ▸ List.nodup_range)

theorem Accounted.taken_nodup (h : d.Accounted) : d.taken.Nodup :=
  (List.nodup_append.mp (h.in_order ▸ h.accepted_nodup)).1

theorem Accounted.waiting_begun_nodup (h : d.Accounted) : (d.waiting ++ d.begun).Nodup :=
  h.taken.nodup_iff.mp h.taken_nodup

theorem Accounted.calling_stored_nodup (h : d.Accounted) :
    (d.calling ++ d.stored.map Prod.fst).Nodup :=
  h.begun.nodup_iff.mp (List.nodup_append.mp h.waiting_begun_nodup).2.1

theorem Accounted.unreported_reported_nodup (h : d.Accounted) :
    ((d.unreported ++ d.reported).map Prod.fst).Nodup := by
  obtain ⟨silent, hs⟩ := h.stored
  have hn := (hs.map Prod.fst).nodup_iff.mp (List.nodup_append.mp h.calling_stored_nodup).2.1
  rw [← List.append_assoc, List.map_append] at hn
  exact (List.nodup_append.mp hn).1

/-! ## The balance -/

/-- The jobs that have been taken and whose verdict is not stored. -/
def unfinished (d : Detector) : List Job := d.taken.filter (· ∉ d.stored.map Prod.fst)

theorem Accounted.unfinished_perm (h : d.Accounted) :
    d.unfinished.Perm (d.waiting ++ d.calling) := by
  have hall : d.taken.Perm ((d.waiting ++ d.calling) ++ d.stored.map Prod.fst) := by
    rw [List.append_assoc]
    exact h.taken.trans (.append_left _ h.begun)
  have hn := hall.nodup_iff.mp h.taken_nodup
  have hout : (d.waiting ++ d.calling).filter (· ∉ d.stored.map Prod.fst)
      = d.waiting ++ d.calling :=
    List.filter_eq_self.mpr fun job hm => by
      simpa using fun v hs => (List.nodup_append.mp hn).2.2 job hm job
        (List.mem_map.mpr ⟨(job, v), hs, rfl⟩) rfl
  have hin : (d.stored.map Prod.fst).filter (· ∉ d.stored.map Prod.fst) = [] :=
    List.filter_eq_nil_iff.mpr fun job hm => by simpa using hm
  have hf := hall.filter (· ∉ d.stored.map Prod.fst)
  rwa [List.filter_append, hout, hin, List.append_nil] at hf

/-- A worker has at most one job. -/
theorem jobs_le_workers (ws : List Worker) :
    (ws.filterMap Worker.waiting?).length + (ws.filterMap Worker.calling?).length
      + (ws.filterMap Worker.reporting?).length ≤ ws.length := by
  induction ws with
  | nil => exact Nat.le_refl 0
  | cons w rest ih =>
    cases w <;>
      simp only [List.filterMap_cons, Worker.waiting?, Worker.calling?, Worker.reporting?,
        List.length_cons] <;> omega

theorem Accounted.balance (h : d.Accounted) :
    d.accepted.length = d.queue.length + d.unfinished.length + d.stored.length ∧
      d.unfinished.length + d.unreported.length ≤ d.workers.length := by
  have hu := h.unfinished_perm.length_eq
  have ht := h.taken.length_eq
  have hb := h.begun.length_eq
  have hw := jobs_le_workers d.workers
  rw [h.in_order]
  simp only [List.length_append, List.length_map, waiting, calling, unreported] at *
  omega

/-! ## What happens to a verdict after it is stored -/

/-- The verdict is stored, and the worker has reported it or kept silent. -/
def Settled (d : Detector) (job : Job) : Prop :=
  job ∈ d.stored.map Prod.fst ∧ job ∉ d.unreported.map Prod.fst

/-- The reports for one job. -/
def reportsOf (d : Detector) (job : Job) : List (Job × Verdict) := d.reported.filter (·.1 = job)

theorem Settled.turn {job : Job} (hs : d.Settled job) (h : d.Accounted)
    {front back : List Worker} {w w' : Worker} {e : Option Event} (turn : Turn w e w')
    (hw : d.workers = front ++ w :: back) (hw' : d'.workers = front ++ w' :: back)
    (hj : d'.journal = e.toList ++ d.journal) :
    d'.Settled job ∧ d'.reportsOf job = d.reportsOf job := by
  have hstored : d'.stored = d.stored ++ (e.bind Event.stored?).toList := history_of_journal hj _
  have hreported : d'.reported = d.reported ++ (e.bind Event.reported?).toList :=
    history_of_journal hj _
  have hcalling : job ∉ d.calling := fun hm =>
    (List.nodup_append.mp h.calling_stored_nodup).2.2 job hm job hs.1 rfl
  obtain ⟨hdone, hquiet⟩ := hs
  -- Neither the verdict that is stored now nor the one that is reported now is for this job.
  have hnew : ∀ x ∈ w'.reporting?, x.1 ≠ job := by
    cases turn with
    | finish job' =>
      rintro x ⟨rfl⟩ rfl
      simp [calling, hw, Worker.calling?] at hcalling
    | _ => rintro _ ⟨⟩
  have hold : ∀ x ∈ e.bind Event.reported?, x.1 ≠ job := by
    cases turn with
    | report job' _ v =>
      rintro x ⟨rfl⟩ rfl
      simp [unreported, hw, Worker.reporting?] at hquiet
    | _ => rintro _ ⟨⟩
  refine ⟨⟨?_, ?_⟩, ?_⟩
  · rw [hstored, List.map_append]
    exact List.mem_append_left _ hdone
  · simp only [unreported, hw, hw', filterMap_around, List.map_append, List.mem_append]
      at hquiet ⊢
    rintro ((hm | hm) | hm)
    · exact hquiet (.inl (.inl hm))
    · obtain ⟨x, hx, rfl⟩ := List.mem_map.mp hm
      exact hnew x (Option.mem_toList.mp hx) rfl
    · exact hquiet (.inr hm)
  · have hnil : (e.bind Event.reported?).toList.filter (·.1 = job) = [] :=
      List.filter_eq_nil_iff.mpr fun x hx => by simpa using hold x (Option.mem_toList.mp hx)
    rw [reportsOf, hreported, List.filter_append, hnil, List.append_nil, reportsOf]

theorem Settled.ask {job : Job} (hs : d.Settled job) {fresh : Nat} {e : Option Event}
    (asked : Asked d e) (hw : d'.workers = d.workers ++ List.replicate fresh .idle)
    (hj : d'.journal = e.toList ++ d.journal) :
    d'.Settled job ∧ d'.reportsOf job = d.reportsOf job := by
  obtain ⟨-, -, hstored, hreported⟩ := asked.quiet
  have hstored : d'.stored = d.stored := history_of_asked hstored hj
  have hreported : d'.reported = d.reported := history_of_asked hreported hj
  have hunreported : d'.unreported = d.unreported := filterMap_of_asked rfl hw
  rw [Settled, reportsOf, hstored, hreported, hunreported]
  exact ⟨hs, rfl⟩

/-- Nothing more is heard of a job that is settled. -/
theorem Settled.change {job : Job} (hs : d.Settled job) (h : d.Accounted) (hc : Change d d') :
    d'.Settled job ∧ d'.reportsOf job = d.reportsOf job := by
  cases hc with
  | turn turn hw hw' _ hj => exact hs.turn h turn hw hw' hj
  | ask asked hw _ hj => exact hs.ask asked hw hj

theorem Accounted.mem_stored (h : d.Accounted) {job : Job} {v : Verdict}
    (hw : .reporting job v ∈ d.workers) : (job, v) ∈ d.stored := by
  obtain ⟨silent, hs⟩ := h.stored
  exact hs.mem_iff.mpr (List.mem_append_left _ (List.mem_filterMap.mpr ⟨_, hw, rfl⟩))

/-- A worker that is done has stored its verdict, and reports it if anybody listens. -/
theorem settled_of_reported (h : d.Accounted) {front back : List Worker} {job : Job} {v : Verdict}
    (hw : d.workers = front ++ .reporting job v :: back)
    (hw' : d'.workers = front ++ .idle :: back)
    (hj : d'.journal = (if d.reporting then [.reported job now v] else []) ++ d.journal) :
    d'.Settled job ∧ d'.reportsOf job = if d.reporting then [(job, v)] else [] := by
  have hdone := h.mem_stored (hw ▸ by simp : .reporting job v ∈ d.workers)
  -- No other worker has the job, and it has not been reported.
  have hn := h.unreported_reported_nodup
  rw [unreported, hw, filterMap_around] at hn
  simp only [Worker.reporting?, Option.toList_some, List.append_assoc, List.map_append,
    List.map_cons, List.cons_append, List.nil_append, List.nodup_middle,
    List.nodup_cons, List.mem_append, not_or] at hn
  obtain ⟨⟨hfront, hback, hsilent⟩, -⟩ := hn
  have hnone : d.reported.filter (·.1 = job) = [] := List.filter_eq_nil_iff.mpr fun x hx => by
    simpa using fun he : x.1 = job => hsilent (List.mem_map.mpr ⟨x, hx, he⟩)
  generalize he : (if d.reporting then some (Event.reported job now v) else none) = e
  have hj : d'.journal = e.toList ++ d.journal := by
    rw [hj, ← he]
    split <;> rfl
  refine ⟨⟨?_, ?_⟩, ?_⟩
  · rw [Detector.stored, history_of_journal hj]
    exact List.mem_map.mpr ⟨_, List.mem_append_left _ hdone, rfl⟩
  · simp only [unreported, hw', filterMap_around, List.map_append, List.mem_append, not_or]
    exact ⟨⟨hfront, by simp [Worker.reporting?]⟩, hback⟩
  · rw [reportsOf, reported, history_of_journal hj, List.filter_append]
    subst he
    simp only [reported] at hnone
    by_cases hr : d.reporting = true <;> simp [hr, hnone, Event.reported?]

theorem Moved.settled {i : Nat} {job : Job} {v : Verdict} (hm : Moved now d (.report i) d')
    (h : d.Accounted) (hw : d.workers[i]? = some (.reporting job v)) :
    d'.Settled job ∧ d'.reportsOf job = if d.reporting then [(job, v)] else [] := by
  cases hm with
  | @report front back job' v' haround =>
    obtain ⟨rfl, rfl⟩ : job' = job ∧ v' = v := by simpa [haround] using hw
    exact settled_of_reported h haround rfl rfl

theorem settled_report {i : Nat} {job : Job} {v : Verdict} (h : d.Accounted)
    (hopen : d.closed = false) (now : Nat) (hw : d.workers[i]? = some (.reporting job v)) :
    (d.perform now (.report i)).Settled job ∧
      (d.perform now (.report i)).reportsOf job = if d.reporting then [(job, v)] else [] :=
  (perform_moved hopen (mem_moves.mpr (.inl ⟨i, _, hw, rfl⟩))).settled h hw

end Detector

section Reachable

variable {client : Client} {options : Options} {now : Nat} {d : Detector}

theorem Reachable.accounted (h : Reachable client options now d) : d.Accounted := by
  induction h with
  | new => exact ⟨Nat.zero_le _, rfl, rfl, .refl _, .refl _, [], .refl _⟩
  | step hr hs ha =>
    have ho := (hr.step hs).fixed.options.trans hr.fixed.options.symm
    exact ha.change ho (hr.stepped hs).change

theorem Reachable.settled {now' : Nat} {d' : Detector} {job : Job}
    (h : Reachable client options now d) (hs : d.Settled job) (r : Run (now, d) (now', d')) :
    d'.Settled job ∧ d'.reportsOf job = d.reportsOf job := by
  suffices ∀ s : Nat × Detector, Run (now, d) s →
      s.2.Settled job ∧ s.2.reportsOf job = d.reportsOf job from this _ r
  intro s r
  induction r with
  | refl => exact ⟨hs, rfl⟩
  | tail r step ih =>
    have hr := h.run r
    obtain ⟨hs', he⟩ := ih.1.change hr.accounted (hr.stepped step).change
    exact ⟨hs', he.trans ih.2⟩

end Reachable
end Guardrail.Moderation
