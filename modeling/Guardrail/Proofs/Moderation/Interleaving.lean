import Guardrail.Moderation.Detector
import Mathlib.Logic.Relation

/-! # All orders in which things can happen to a detector

`advance` makes the moves of a detector in one order, at the earliest instant of each. Here any move
that is due may come next, callers may ask in between, and time may pass although a move is due.
What holds of every such run holds of what `advance` does (`run_advance`). A due move is read once,
as a change of one worker or a sweep (`Moved`), and so is a step (`Stepped`); the invariants of a
detector follow from that. -/

namespace Guardrail.Moderation

/-- One thing happens to a detector. A check is a look-up and, if that misses, an enqueueing; other
things may come between the two. -/
inductive Step : Nat × Detector → Nat × Detector → Prop
  | lookup {now : Nat} {d : Detector} (text : String) : Step (now, d) (now, (d.lookup now text).2)
  | enqueue {now : Nat} {d : Detector} (text : String) : Step (now, d) (now, d.enqueue text)
  | start {now : Nat} {d : Detector} (workers : Nat) : Step (now, d) (now, d.start workers)
  | startSweeper {now : Nat} {d : Detector} (interval : Nat) :
      Step (now, d) (now, d.startSweeper now interval)
  | sweep {now : Nat} {d : Detector} : Step (now, d) (now, d.sweep now)
  | listen {now : Nat} {d : Detector} : Step (now, d) (now, d.listen)
  | move {now : Nat} {d : Detector} {m : Detector.Move} (due : (now, m) ∈ d.moves now) :
      Step (now, d) (now, d.perform now m)
  | wait {now : Nat} {d : Detector} (ticks : Nat) : Step (now, d) (now + ticks, d)

abbrev Run : Nat × Detector → Nat × Detector → Prop := Relation.ReflTransGen Step

/-- The states of a detector that was new at some instant and has not been shut down. -/
inductive Reachable (client : Client) (options : Options) : Nat → Detector → Prop
  | new (now : Nat) : Reachable client options now (.new client options)
  | step {now now' : Nat} {d d' : Detector} (h : Reachable client options now d)
      (hs : Step (now, d) (now', d')) : Reachable client options now' d'

namespace Detector

variable {d : Detector} {now : Nat}

/-! ## What callers change -/

theorem lookup_frame (d : Detector) (now : Nat) (text : String) :
    ∃ cache, cache.Sublist d.cache ∧ (d.lookup now text).2 = { d with cache } := by
  unfold lookup
  split
  · exact ⟨d.cache, .refl _, rfl⟩
  · split
    · exact ⟨_, List.filter_sublist, rfl⟩
    · exact ⟨d.cache, .refl _, rfl⟩

theorem enqueue_of_lt (h : d.queue.length < d.capacity) (text : String) :
    d.enqueue text = { d with
      queue := d.queue ++ [⟨d.accepts, text⟩]
      journal := .accepted ⟨d.accepts, text⟩ :: d.journal } := by
  simp [enqueue, h, record]

theorem enqueue_of_le (h : d.capacity ≤ d.queue.length) (text : String) :
    d.enqueue text = { d with journal := .dropped text :: d.journal } := by
  simp [enqueue, Nat.not_lt.mpr h, record]

theorem enqueue_with_cache (d : Detector) (cache : List (String × Entry)) (text : String) :
    { d with cache }.enqueue text = { d.enqueue text with cache } := by
  rcases Nat.lt_or_ge d.queue.length d.capacity with hlt | hle
  · rw [enqueue_of_lt hlt]
    exact enqueue_of_lt (d := { d with cache }) hlt text
  · rw [enqueue_of_le hle]
    exact enqueue_of_le (d := { d with cache }) hle text

theorem start_frame (hopen : d.closed = false) (workers : Nat) :
    d.start workers = { d with workers := d.workers ++ List.replicate workers .idle } := by
  simp [start, hopen]

theorem startSweeper_frame (d : Detector) (now interval : Nat) :
    ∃ sweepers, d.startSweeper now interval = { d with sweepers } := by
  unfold startSweeper
  split
  · exact ⟨d.sweepers, rfl⟩
  · exact ⟨_, rfl⟩

/-! ## Due moves -/

theorem mem_moves {t : Nat} {m : Move} : (t, m) ∈ d.moves now ↔
    (∃ i w, d.workers[i]? = some w ∧ d.workerMove now i w = some (t, m)) ∨
      ∃ j s, d.sweepers[j]? = some s ∧ t = max now s.next ∧ m = .tick j := by
  simp only [moves, List.mem_append, List.mem_filterMap, id, List.mem_mapIdx,
    List.getElem?_eq_some_iff, Prod.mk.injEq]
  constructor
  · rintro (⟨_, ⟨i, hi, rfl⟩, hm⟩ | ⟨j, hj, rfl, rfl⟩)
    · exact .inl ⟨i, _, ⟨hi, rfl⟩, hm⟩
    · exact .inr ⟨j, _, ⟨hj, rfl⟩, rfl, rfl⟩
  · rintro (⟨i, _, ⟨hi, rfl⟩, hm⟩ | ⟨j, _, ⟨hj, rfl⟩, rfl, rfl⟩)
    · exact .inl ⟨_, ⟨i, hi, rfl⟩, hm⟩
    · exact .inr ⟨j, hj, rfl, rfl⟩

/-- What a due move makes of a detector that has not been shut down. -/
inductive Moved (now : Nat) (d : Detector) : Move → Detector → Prop
  | take {front back : List Worker} {job : Job} {rest : List Job}
      (hq : d.queue = job :: rest) (hw : d.workers = front ++ .idle :: back) :
      Moved now d (.take front.length) { d with
        queue := rest
        workers := front ++ .taken job :: back
        journal := .taken job :: d.journal }
  | acquire {front back : List Worker} {job : Job} {slot : Nat} {pacer : Option Pacer}
      (hw : d.workers = front ++ .taken job :: back)
      (hs : d.acquireSlot now = (slot, { d with pacer })) :
      Moved now d (.acquire front.length) { d with
        pacer
        workers := front ++ .pacing job slot :: back
        journal := .acquired job now slot :: d.journal }
  | begin {front back : List Worker} {job : Job} {slot : Nat}
      (hw : d.workers = front ++ .pacing job slot :: back) (hslot : Pacer.tickOf slot ≤ now) :
      Moved now d (.begin front.length) { d with
        workers := front ++ .calling job now (d.client d.calls job.text) :: back
        journal := .began job d.calls now :: d.journal }
  | finish {front back : List Worker} {job : Job} {began : Nat} {call : Call} {v : Verdict}
      (hw : d.workers = front ++ .calling job began call :: back)
      (hend : began + min call.duration d.options.callTimeout ≤ now)
      (hv : v = settle d.options.callTimeout call) :
      Moved now d (.finish front.length) { d with
        cache := (job.text, ⟨v, now + d.options.cacheTtl⟩) :: d.cache.filter (·.1 != job.text)
        workers := front ++ .reporting job v :: back
        journal := .stored job now v :: d.journal }
  | report {front back : List Worker} {job : Job} {v : Verdict}
      (hw : d.workers = front ++ .reporting job v :: back) :
      Moved now d (.report front.length) { d with
        workers := front ++ .idle :: back
        journal := (if d.reporting then [.reported job now v] else []) ++ d.journal }
  | tick (sweeper : Nat) (sweepers : List Sweeper) :
      Moved now d (.tick sweeper) { d.sweep now with sweepers }

theorem acquireSlot_eq (d : Detector) (now : Nat) : d.acquireSlot now =
    ((d.acquireSlot now).1, { d with pacer := (d.acquireSlot now).2.pacer }) := by
  unfold acquireSlot
  cases h : d.pacer with
  | none => cases d; simp_all
  | some p => rfl

/-- An element of a list stands between two parts, and putting another in its place keeps them. -/
theorem exists_around {α : Type} {l : List α} {i : Nat} {a : α} (h : l[i]? = some a) :
    ∃ front back, l = front ++ a :: back ∧ front.length = i ∧
      ∀ b, l.set i b = front ++ b :: back := by
  obtain ⟨hi, rfl⟩ := List.getElem?_eq_some_iff.mp h
  have hset (b : α) : l.set i b = l.take i ++ b :: l.drop (i + 1) := by
    rw [List.set_eq_take_append_cons_drop, if_pos hi]
  exact ⟨l.take i, l.drop (i + 1), by rw [← hset, List.set_getElem_self],
    List.length_take_of_le (Nat.le_of_lt hi), hset⟩

/-- A list that differs at one place has what the other one has, or it is that place. -/
theorem getElem?_around {α : Type} {front back : List α} {a b x : α} {i : Nat}
    (h : (front ++ a :: back)[i]? = some x) :
    (front ++ b :: back)[i]? = some x ∨
      (i = front.length ∧ x = a ∧ (front ++ b :: back)[i]? = some b) := by
  by_cases hi : i = front.length
  · subst hi
    exact .inr ⟨rfl, by simpa using h.symm, by simp⟩
  · have hset : front ++ b :: back = (front ++ a :: back).set front.length b := by simp
    rw [hset, List.getElem?_set_ne (Ne.symm hi)]
    exact .inl h

theorem perform_report {i : Nat} {job : Job} {v : Verdict} (hopen : d.closed = false)
    (hw : d.workers[i]? = some (.reporting job v)) :
    d.perform now (.report i) = { d with
      workers := d.workers.set i .idle
      journal := (if d.reporting then [.reported job now v] else []) ++ d.journal } := by
  rw [perform, hw]
  by_cases hr : d.reporting = true <;> simp [report, release, record, setWorker, hopen, hr]

theorem perform_moved {m : Move} (hopen : d.closed = false) (due : (now, m) ∈ d.moves now) :
    Moved now d m (d.perform now m) := by
  rcases mem_moves.mp due with ⟨i, w, hw, hm⟩ | ⟨j, s, hs, ht, rfl⟩
  · obtain ⟨front, back, haround, rfl, hset⟩ := exists_around hw
    cases w with
    | idle =>
      cases hq : d.queue with
      | nil => simp [workerMove, hq] at hm
      | cons job rest =>
        simp only [workerMove, hq, hopen, List.isEmpty_cons, Bool.or_self, Bool.false_eq_true,
          if_false, Option.some.injEq, Prod.mk.injEq, true_and] at hm
        subst hm
        simp only [perform, hw, hq, setWorker, record, hset]
        exact .take hq haround
    | taken job =>
      simp only [workerMove, Option.some.injEq, Prod.mk.injEq, true_and] at hm
      subst hm
      rw [perform, hw]
      dsimp only
      rw [acquireSlot_eq]
      simp only [setWorker, record, hset]
      exact .acquire haround (acquireSlot_eq d now)
    | pacing job slot =>
      simp only [workerMove, Option.some.injEq, Prod.mk.injEq] at hm
      obtain ⟨ht, rfl⟩ := hm
      simp only [perform, hw, setWorker, record, hset]
      exact .begin haround (ht ▸ Nat.le_max_right ..)
    | calling job began call =>
      simp only [workerMove, Option.some.injEq, Prod.mk.injEq] at hm
      obtain ⟨ht, rfl⟩ := hm
      simp only [perform, hw, store, setWorker, record, hset]
      exact .finish haround (ht ▸ Nat.le_max_right ..) rfl
    | reporting job v =>
      simp only [workerMove, Option.some.injEq, Prod.mk.injEq, true_and] at hm
      subst hm
      rw [perform_report hopen hw, hset]
      exact .report haround
  · simp only [perform, hs]
    exact .tick _ _

/-- What a step makes of a detector that has not been shut down. What callers do besides asking is
beside the jobs and their journal: entries may get lost, and who listens once listens for ever. -/
inductive Stepped (now : Nat) (d : Detector) : Detector → Prop
  | beside {cache : List (String × Entry)} (fewer : cache.Sublist d.cache)
      (sweepers : List Sweeper) (reporting : Bool)
      (hlistens : d.reporting = true → reporting = true) :
      Stepped now d { d with cache, sweepers, reporting }
  | accept (text : String) (hroom : d.queue.length < d.capacity) :
      Stepped now d { d with
        queue := d.queue ++ [⟨d.accepts, text⟩]
        journal := .accepted ⟨d.accepts, text⟩ :: d.journal }
  | drop (text : String) (hfull : d.capacity ≤ d.queue.length) :
      Stepped now d { d with journal := .dropped text :: d.journal }
  | start (workers : Nat) :
      Stepped now d { d with workers := d.workers ++ List.replicate workers .idle }
  | moved {m : Move} {d' : Detector} (hm : Moved now d m d') : Stepped now d d'

theorem stepped_of_step {now' : Nat} {d' : Detector} (hopen : d.closed = false)
    (hs : Step (now, d) (now', d')) : Stepped now d d' := by
  cases hs with
  | lookup text =>
    obtain ⟨cache, fewer, he⟩ := d.lookup_frame now text
    rw [he]
    exact .beside fewer d.sweepers d.reporting id
  | enqueue text =>
    rcases Nat.lt_or_ge d.queue.length d.capacity with hlt | hle
    · rw [enqueue_of_lt hlt text]
      exact .accept text hlt
    · rw [enqueue_of_le hle text]
      exact .drop text hle
  | start workers =>
    rw [start_frame hopen workers]
    exact .start workers
  | startSweeper interval =>
    obtain ⟨sweepers, he⟩ := d.startSweeper_frame now interval
    rw [he]
    exact .beside (.refl _) sweepers d.reporting id
  | sweep => exact .beside List.filter_sublist d.sweepers d.reporting id
  | listen => exact .beside (.refl _) d.sweepers true fun _ => rfl
  | move due => exact .moved (perform_moved hopen due)
  | wait ticks => exact .beside (.refl _) d.sweepers d.reporting id

/-! ## The moves that `advance` makes -/

theorem foldl_earlier (best : Nat × Move) (ms : List (Nat × Move)) :
    ms.foldl earlier (some best) = some (ms.foldl (minOn Prod.fst) best) := by
  induction ms generalizing best with
  | nil => rfl
  | cons m rest ih =>
    have hmin : earlier (some best) m = some (minOn Prod.fst best m) := by
      rcases Nat.lt_or_ge m.1 best.1 with hlt | hle
      · simp [earlier, minOn, hlt, Nat.not_le.mpr hlt]
      · simp [earlier, minOn, hle, Nat.not_lt.mpr hle]
    rw [List.foldl_cons, hmin, ih, List.foldl_cons]

/-- The next move is the first of the earliest ones. -/
theorem next?_eq_minOn? (d : Detector) (now : Nat) :
    d.next? now = (d.moves now).minOn? Prod.fst := by
  unfold next?
  cases d.moves now with
  | nil => rfl
  | cons m rest => exact foldl_earlier m rest

theorem next?_mem {m : Nat × Move} (h : d.next? now = some m) : m ∈ d.moves now :=
  List.minOn?_mem (d.next?_eq_minOn? now ▸ h)

theorem next?_isSome_of_mem {m : Nat × Move} (h : m ∈ d.moves now) :
    ∃ first, d.next? now = some first ∧ first.1 ≤ m.1 := by
  have hsome := List.isSome_minOn?_of_mem (f := Prod.fst) h
  have hle := List.apply_get_minOn?_le_of_mem (f := Prod.fst) h
  exact ⟨_, (d.next?_eq_minOn? now).trans (Option.eq_some_of_isSome hsome), hle⟩

/-- A move may be made at its instant, if nothing has happened until then. -/
theorem due_of_mem_moves {t : Nat} {m : Move} (h : (t, m) ∈ d.moves now) :
    now ≤ t ∧ (t, m) ∈ d.moves t := by
  rcases mem_moves.mp h with ⟨i, w, hw, hm⟩ | ⟨j, s, hs, rfl, rfl⟩
  · have hmove : now ≤ t ∧ d.workerMove t i w = some (t, m) := by
      cases w with
      | idle =>
        simp only [workerMove] at hm ⊢
        split at hm
        · cases hm
        · rename_i hq
          cases hm
          exact ⟨Nat.le_refl _, if_neg hq⟩
      | taken _ => cases hm; exact ⟨Nat.le_refl _, rfl⟩
      | pacing _ _ =>
        cases hm
        exact ⟨Nat.le_max_left .., by simp [workerMove]⟩
      | calling _ _ _ =>
        cases hm
        exact ⟨Nat.le_max_left .., by simp [workerMove]⟩
      | reporting _ _ => cases hm; exact ⟨Nat.le_refl _, rfl⟩
    exact ⟨hmove.1, mem_moves.mpr (.inl ⟨i, w, hw, hmove.2⟩)⟩
  · exact ⟨Nat.le_max_left .., mem_moves.mpr (.inr ⟨j, s, hs, by simp, rfl⟩)⟩

theorem run_wait {target : Nat} (h : now ≤ target) : Run (now, d) (target, d) := by
  obtain ⟨ticks, rfl⟩ := Nat.exists_eq_add_of_le h
  exact .single (.wait ticks)

theorem run_perform {t : Nat} {m : Move} (h : (t, m) ∈ d.moves now) :
    Run (now, d) (t, d.perform t m) :=
  let ⟨hle, due⟩ := due_of_mem_moves h
  (run_wait hle).tail (.move due)

/-- **Letting time pass is a run**: what `advance` does is one of the orders in which things can
happen. -/
theorem run_advance {target : Nat} (h : now ≤ target) :
    Run (now, d) (target, d.advance now target) := by
  unfold advance
  generalize d.work target = bound
  induction bound generalizing now d with
  | zero => exact run_wait h
  | succ bound ih =>
    rw [advanceUpTo]
    split
    · rename_i t m hnext
      split
      · exact (run_perform (next?_mem hnext)).trans (ih ‹_›)
      · exact run_wait h
    · exact run_wait h

theorem run_check (text : String) : Run (now, d) (now, (d.check now text).2) := by
  have hl : Run (now, d) (now, (d.lookup now text).2) := .single (.lookup text)
  unfold check
  split
  · rename_i h
    rwa [h] at hl
  · rename_i h
    rw [h] at hl
    exact hl.tail (.enqueue text)

end Detector

/-! ## Invariants of all runs -/

section Reachable

variable {client : Client} {options : Options} {now : Nat} {d : Detector}

theorem Reachable.run {now' : Nat} {d' : Detector} (h : Reachable client options now d)
    (r : Run (now, d) (now', d')) : Reachable client options now' d' := by
  suffices ∀ s : Nat × Detector, Run (now, d) s → Reachable client options s.1 s.2 from this _ r
  intro s r
  induction r with
  | refl => exact h
  | tail _ hs ih => exact ih.step hs

/-- What no step changes. -/
structure Fixed (client : Client) (options : Options) (d : Detector) : Prop where
  client : d.client = client
  options : d.options = options
  not_closed : d.closed = false

theorem Fixed.moved {m : Detector.Move} {d' : Detector} (h : Fixed client options d)
    (hm : Detector.Moved now d m d') : Fixed client options d' := by
  cases hm <;> exact ⟨h.client, h.options, h.not_closed⟩

theorem Fixed.stepped {d' : Detector} (h : Fixed client options d)
    (hs : Detector.Stepped now d d') : Fixed client options d' := by
  cases hs with
  | moved hm => exact h.moved hm
  | beside | accept | drop | start => exact ⟨h.client, h.options, h.not_closed⟩

theorem Reachable.fixed (h : Reachable client options now d) : Fixed client options d := by
  induction h with
  | new => exact ⟨rfl, rfl, rfl⟩
  | step _ hs hf => exact hf.stepped (Detector.stepped_of_step hf.not_closed hs)

theorem Reachable.stepped {now' : Nat} {d' : Detector} (h : Reachable client options now d)
    (hs : Step (now, d) (now', d')) : Detector.Stepped now d d' :=
  Detector.stepped_of_step h.fixed.not_closed hs

theorem Reachable.moved {m : Detector.Move} (h : Reachable client options now d)
    (due : (now, m) ∈ d.moves now) : Detector.Moved now d m (d.perform now m) :=
  Detector.perform_moved h.fixed.not_closed due

end Reachable
end Guardrail.Moderation
