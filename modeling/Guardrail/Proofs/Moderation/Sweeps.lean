import Guardrail.Proofs.Moderation.Freshness
import Guardrail.Proofs.Moderation.Schedule

/-! # Sweeping does not show

Sweeps and sweepers drop entries that have expired, which a look-up would not answer from in any
case. So a history with them and the same history without them go through the same states, but for
the cache and the sweepers (`Swept`): nothing that happens depends on what else is in the cache
(`Blind`), and a look-up answers what was stored last, which is in the journal of both. When time
passes, a sweeper's tick comes between the other moves and moves none of them (`Swept.advanced`). -/

namespace Guardrail.Moderation.Detector

/-! ## Histories of a detector -/

/-- What can happen to a detector. -/
inductive Act where
  | check (text : String)
  /-- The two parts of a check, if something comes between them. -/
  | lookup (text : String)
  | enqueue (text : String)
  | start (workers : Nat)
  | listen
  /-- The move is made if it is due. -/
  | move (m : Move)
  /-- Time passes and nothing happens. -/
  | wait (ticks : Nat)
  /-- Time passes and what is due happens. -/
  | advance (ticks : Nat)
  | sweep
  | startSweeper (interval : Nat)

def act (s : Nat × Detector) : Act → Nat × Detector
  | .check text => (s.1, (s.2.check s.1 text).2)
  | .lookup text => (s.1, (s.2.lookup s.1 text).2)
  | .enqueue text => (s.1, s.2.enqueue text)
  | .start workers => (s.1, s.2.start workers)
  | .listen => (s.1, s.2.listen)
  | .move m => (s.1, if (s.2.moves s.1).contains (s.1, m) then s.2.perform s.1 m else s.2)
  | .wait ticks => (s.1 + ticks, s.2)
  | .advance ticks => (s.1 + ticks, s.2.advance s.1 (s.1 + ticks))
  | .sweep => (s.1, (s.2.sweepExpired s.1).2)
  | .startSweeper interval => (s.1, s.2.startSweeper s.1 interval)

def run (s : Nat × Detector) (acts : List Act) : Nat × Detector := acts.foldl act s

/-- What a check answers. Its look-up decides that. -/
def answer? (s : Nat × Detector) : Act → Option Verdict
  | .check text | .lookup text => some (s.2.check s.1 text).1
  | _ => none

/-- The answers in the course of a history. -/
def answers (s : Nat × Detector) : List Act → List Verdict
  | [] => []
  | a :: later => (answer? s a).toList ++ answers (act s a) later

/-- Sweeps, the start of a sweeper and its ticks. -/
def Act.sweeps : Act → Bool
  | .sweep | .startSweeper _ | .move (.tick _) => true
  | _ => false

variable {d plain swept : Detector} {now : Nat}

theorem run_act (s : Nat × Detector) (a : Act) : Run s (act s a) := by
  cases a with
  | check text => exact run_check text
  | lookup text => exact .single (.lookup text)
  | enqueue text => exact .single (.enqueue text)
  | start workers => exact .single (.start workers)
  | listen => exact .single .listen
  | move m =>
    rw [act]
    split
    · rename_i due
      exact .single (.move (List.contains_iff_mem.mp due))
    · exact .refl
  | wait ticks => exact .single (.wait ticks)
  | advance ticks => exact run_advance (Nat.le_add_right ..)
  | sweep => exact .single .sweep
  | startSweeper interval => exact .single (.startSweeper interval)

/-! ## What does not depend on the cache -/

/-- The cache is changed for itself, so that what is lost before is lost after, and the sweepers are
let alone. -/
def Blind (f : Detector → Detector) : Prop :=
  ∀ d, ∃ g : List (String × Entry) → List (String × Entry),
    (∀ cache sweepers, f { d with cache, sweepers } = { f d with cache := g cache, sweepers }) ∧
      ∀ fewer cache, fewer.Sublist cache → (g fewer).Sublist (g cache)

theorem blind_of_beside {f : Detector → Detector}
    (h : ∀ d cache sweepers, f { d with cache, sweepers } = { f d with cache, sweepers }) :
    Blind f :=
  fun d => ⟨id, h d, fun _ _ hfewer => hfewer⟩

theorem blind_enqueue (text : String) : Blind fun d => d.enqueue text := by
  refine blind_of_beside fun d cache sweepers => ?_
  rcases Nat.lt_or_ge d.queue.length d.capacity with hlt | hle
  · rw [enqueue_of_lt hlt]
    exact enqueue_of_lt (d := { d with cache, sweepers }) hlt text
  · rw [enqueue_of_le hle]
    exact enqueue_of_le (d := { d with cache, sweepers }) hle text

theorem blind_start (workers : Nat) : Blind fun d => d.start workers := by
  refine blind_of_beside fun d cache sweepers => ?_
  simp only [start]
  split <;> rfl

theorem blind_listen : Blind listen := blind_of_beside fun _ _ _ => rfl

theorem blind_perform (now : Nat) {m : Move} (hworker : ∀ j, m ≠ .tick j) :
    Blind fun d => d.perform now m := by
  cases m with
  | take i | begin i =>
    refine blind_of_beside fun d cache sweepers => ?_
    simp only [perform]
    split <;> rfl
  | acquire i =>
    refine blind_of_beside fun d cache sweepers => ?_
    simp only [perform, acquireSlot]
    split
    · split <;> rfl
    · rfl
  | finish i =>
    intro d
    simp only [perform]
    split
    · rename_i job began call hw
      exact ⟨fun cache => (job.text, ⟨settle d.options.callTimeout call,
          now + d.options.cacheTtl⟩) :: cache.filter (·.1 != job.text),
        fun _ _ => rfl, fun _ _ hfewer => (hfewer.filter _).cons_cons _⟩
    · exact ⟨id, fun _ _ => rfl, fun _ _ hfewer => hfewer⟩
  | report i =>
    refine blind_of_beside fun d cache sweepers => ?_
    simp only [perform, report, release, record, setWorker]
    split
    · split <;> split <;> rfl
    · rfl
  | tick j => exact absurd rfl (hworker j)

/-! ## With sweeps and without -/

/-- The two detectors differ in their sweepers, of which the first has none, and in entries of the
cache that the second does not have. -/
inductive Swept (plain : Detector) : Detector → Prop
  | intro {cache : List (String × Entry)} {sweepers : List Sweeper}
      (unswept : plain.sweepers = []) (fewer : cache.Sublist plain.cache) :
      Swept plain { plain with cache, sweepers }

theorem Swept.map {f : Detector → Detector} (h : Swept plain swept) (hf : Blind f) :
    Swept (f plain) (f swept) := by
  cases h with
  | @intro cache sweepers unswept fewer =>
    obtain ⟨g, hg, hmono⟩ := hf plain
    have hplain : f plain = { f plain with cache := g plain.cache, sweepers := plain.sweepers } :=
      hg plain.cache plain.sweepers
    have hsweepers : (f plain).sweepers = plain.sweepers :=
      (congrArg Detector.sweepers hplain).trans rfl
    have hcache : (f plain).cache = g plain.cache := (congrArg Detector.cache hplain).trans rfl
    rw [hg cache sweepers]
    exact .intro (hsweepers.trans unswept) (hcache ▸ hmono _ _ fewer)

theorem Swept.drop (h : Swept plain swept) (p : String × Entry → Bool) :
    Swept plain { swept with cache := swept.cache.filter p } := by
  obtain ⟨unswept, fewer⟩ := h
  exact .intro unswept (List.filter_sublist.trans fewer)

theorem Swept.withSweepers (h : Swept plain swept) (sweepers : List Sweeper) :
    Swept plain { swept with sweepers } := by
  obtain ⟨unswept, fewer⟩ := h
  exact .intro unswept fewer

/-- A look-up that misses leaves nothing of the text in the cache, and one that hits leaves all. -/
theorem lookup_snd (d : Detector) (now : Nat) (text : String) : (d.lookup now text).2 =
    if (d.lookup now text).1.isSome then d
    else { d with cache := d.cache.filter (·.1 != text) } := by
  unfold lookup
  split
  · rename_i hnone
    have hall : d.cache.filter (·.1 != text) = d.cache :=
      List.filter_eq_self.mpr fun x hx => by
        simpa [bne_comm] using List.lookup_eq_none_iff.mp hnone x hx
    simp [hall]
  · split <;> simp

theorem Swept.lookup (h : Swept plain swept) {text : String}
    (hsame : (swept.lookup now text).1 = (plain.lookup now text).1) :
    Swept (plain.lookup now text).2 (swept.lookup now text).2 := by
  rw [lookup_snd, lookup_snd, hsame]
  split
  · exact h
  · obtain ⟨unswept, fewer⟩ := h
    exact .intro unswept (fewer.filter _)

theorem Swept.check (h : Swept plain swept) {text : String}
    (hsame : (swept.lookup now text).1 = (plain.lookup now text).1) :
    Swept (plain.check now text).2 (swept.check now text).2 := by
  have hl := h.lookup hsame
  have hsnd (d : Detector) : (d.check now text).2 =
      if (d.lookup now text).1.isSome then (d.lookup now text).2
      else (d.lookup now text).2.enqueue text := by
    unfold Detector.check
    split <;> rename_i he <;> simp [he]
  rw [hsnd, hsnd, hsame]
  split
  · exact hl
  · exact hl.map (blind_enqueue text)

/-! ## Time passes -/

theorem Swept.moves (h : Swept plain swept) (now : Nat) : swept.moves now = plain.moves now ++
    swept.sweepers.mapIdx fun j s => (max now s.next, .tick j) := by
  obtain ⟨hunswept, -⟩ := h
  simp [Detector.moves, hunswept]
  rfl

/-- The next move is the one that comes next without sweepers, or a tick before it. -/
theorem Swept.next? (h : Swept plain swept) {t : Nat} {m : Move}
    (hnext : swept.next? now = some (t, m)) : plain.next? now = some (t, m) ∨
      (∃ j, m = .tick j) ∧ ∀ m' ∈ plain.moves now, t < m'.1 := by
  have htick {x : Nat × Move}
      (hx : x ∈ swept.sweepers.mapIdx fun j s => (max now s.next, .tick j)) :
      ∃ j, x.2 = .tick j := by
    obtain ⟨j, hj, rfl⟩ := List.mem_mapIdx.mp hx
    exact ⟨j, rfl⟩
  rw [next?_eq_minOn?, h.moves, List.minOn?_append, ← next?_eq_minOn?] at hnext
  cases hticks : (swept.sweepers.mapIdx fun j s =>
      (max now s.next, Move.tick j)).minOn? Prod.fst with
  | none =>
    rw [hticks, Option.merge_none_right] at hnext
    exact .inl hnext
  | some tick =>
    cases hplain : plain.next? now with
    | none =>
      rw [hplain, hticks, Option.merge_none_left] at hnext
      cases hnext
      refine .inr ⟨htick (List.minOn?_mem hticks), fun m' hm' => ?_⟩
      obtain ⟨first, hfirst, -⟩ := next?_isSome_of_mem hm'
      cases hplain.symm.trans hfirst
    | some first =>
      rw [hplain, hticks] at hnext
      by_cases hle : first.1 ≤ tick.1
      · left
        simpa [Option.merge, minOn, hle] using hnext
      · obtain rfl : tick = (t, m) := by simpa [Option.merge, minOn, hle] using hnext
        refine .inr ⟨htick (List.minOn?_mem hticks), fun m' hm' => ?_⟩
        obtain ⟨first', hfirst, hmin⟩ := next?_isSome_of_mem hm'
        cases hplain.symm.trans hfirst
        omega

variable {client : Client} {options : Options}

theorem Swept.perform (h : Swept plain swept) {t : Nat} {m : Move}
    (hnext : plain.next? now = some (t, m)) :
    Swept (plain.perform t m) (swept.perform t m) := by
  refine h.map (blind_perform t fun j he => ?_)
  rcases mem_moves.mp (next?_mem hnext) with ⟨i, w, -, hm⟩ | ⟨j, s, hs, -, -⟩
  · exact workerMove_ne_tick (he ▸ hm)
  · obtain ⟨unswept, -⟩ := h
    simp [unswept] at hs

theorem Swept.tick (h : Swept plain swept) (now j : Nat) :
    Swept plain (swept.perform now (.tick j)) := by
  rw [Detector.perform]
  split
  · exact (h.drop _).withSweepers _
  · exact h

/-- While time passes, the ticks of sweepers come between the moves that are made without them. -/
theorem Swept.advanced {target : Nat} {plain' swept' : Detector} (h : Swept plain swept)
    (hs : Advanced target now swept swept') (hp : Advanced target now plain plain') :
    Swept plain' swept' := by
  induction hs generalizing plain with
  | @rest now swept hrest =>
    cases hp with
    | rest => exact h
    | @move _ t _ _ m next due =>
      have hmem : (t, m) ∈ swept.moves now := h.moves now ▸ List.mem_append_left _ (next?_mem next)
      exact absurd (hrest _ hmem) (Nat.not_lt.mpr due)
  | @move now t swept swept' m next due _ ih =>
    rcases h.next? next with hsame | ⟨⟨j, rfl⟩, hquiet⟩
    · cases hp with
      | rest hrest => exact absurd (hrest _ (next?_mem hsame)) (Nat.not_lt.mpr due)
      | move next' _ hp =>
        cases hsame.symm.trans next'
        exact ih (h.perform hsame) hp
    · have hle := (due_of_mem_moves (next?_mem next)).1
      exact ih (h.tick t j) (hp.later hle hquiet)

/-! ## Whole histories -/

/-- The same instant in a history without sweeps and in one with them. -/
structure Parallel (client : Client) (options : Options) (s s' : Nat × Detector) : Prop where
  instant : s.1 = s'.1
  swept : Swept s.2 s'.2
  reachable : Reachable client options s.1 s.2
  reachable_swept : Reachable client options s'.1 s'.2

variable {s s' : Nat × Detector}

/-- A look-up is answered from the journal, and the journals are the same. -/
theorem Parallel.lookup_fst (h : Parallel client options s s') (text : String) :
    (s'.2.lookup s'.1 text).1 = (s.2.lookup s.1 text).1 := by
  obtain ⟨now, plain⟩ := s
  obtain ⟨_, swept⟩ := s'
  obtain ⟨hnow, hswept, hp, hs⟩ := h
  cases hnow
  rw [hs.faithful.lookup_fst, hp.faithful.lookup_fst]
  cases hswept
  rfl

theorem Parallel.answer? (h : Parallel client options s s') (a : Act) :
    Detector.answer? s' a = Detector.answer? s a := by
  cases a with
  | check text | lookup text =>
    simp only [Detector.answer?, check_fst]
    rw [h.lookup_fst]
  | _ => rfl

theorem Parallel.act (h : Parallel client options s s') {a : Act} (ha : a.sweeps = false) :
    Parallel client options (Detector.act s a) (Detector.act s' a) := by
  have hp := h.reachable.run (run_act s a)
  have hs := h.reachable_swept.run (run_act s' a)
  have hlookup := h.lookup_fst
  obtain ⟨now, plain⟩ := s
  obtain ⟨_, swept⟩ := s'
  obtain ⟨hnow, h, hplain, hswept⟩ := h
  cases hnow
  refine ⟨?_, ?_, hp, hs⟩
  · cases a <;> rfl
  · cases a with
    | check text => exact h.check (hlookup text)
    | lookup text => exact h.lookup (hlookup text)
    | enqueue text => exact h.map (blind_enqueue text)
    | start workers => exact h.map (blind_start workers)
    | listen => exact h.map blind_listen
    | move m =>
      have hworker : ∀ j, m ≠ .tick j := by
        rintro j rfl
        cases ha
      have hdue : (now, m) ∈ swept.moves now ↔ (now, m) ∈ plain.moves now := by
        rw [h.moves, List.mem_append, or_iff_left]
        intro hm
        obtain ⟨j, hj, he⟩ := List.mem_mapIdx.mp hm
        exact hworker j (congrArg Prod.snd he).symm
      simp only [Detector.act, List.contains_iff_mem, hdue]
      split
      · exact h.map (blind_perform now hworker)
      · exact h
    | wait ticks => exact h
    | advance ticks => exact h.advanced (hswept.advanced _) (hplain.advanced _)
    | sweep | startSweeper => cases ha

theorem Parallel.act_sweeps (h : Parallel client options s s') {a : Act} (ha : a.sweeps = true) :
    Parallel client options s (Detector.act s' a) := by
  have hs := h.reachable_swept.run (run_act s' a)
  obtain ⟨now, plain⟩ := s
  obtain ⟨_, swept⟩ := s'
  obtain ⟨hnow, h, hplain, -⟩ := h
  cases hnow
  cases a with
  | sweep => exact ⟨rfl, h.drop _, hplain, hs⟩
  | startSweeper interval =>
    obtain ⟨sweepers, he⟩ := swept.startSweeper_frame now interval
    refine ⟨rfl, ?_, hplain, hs⟩
    rw [Detector.act, he]
    exact h.withSweepers sweepers
  | move m =>
    refine ⟨rfl, ?_, hplain, hs⟩
    cases m with
    | tick j =>
      dsimp only [Detector.act]
      split
      · exact h.tick now j
      · exact h
    | take | acquire | begin | finish | report => cases ha
  | check | lookup | enqueue | start | listen | wait | advance => cases ha

theorem Parallel.history (h : Parallel client options s s') (acts : List Act) :
    answers s' acts = answers s (acts.filter (!·.sweeps)) ∧
      Parallel client options (run s (acts.filter (!·.sweeps))) (run s' acts) := by
  induction acts generalizing s s' with
  | nil => exact ⟨rfl, h⟩
  | cons a later ih =>
    cases ha : a.sweeps with
    | true =>
      have hsilent : Detector.answer? s' a = none := by
        cases a <;> first | rfl | cases ha
      obtain ⟨hanswers, hrun⟩ := ih (h.act_sweeps ha)
      rw [List.filter_cons_of_neg (by simp [ha]), answers, hsilent]
      exact ⟨hanswers, hrun⟩
    | false =>
      obtain ⟨hanswers, hrun⟩ := ih (h.act ha)
      rw [List.filter_cons_of_pos (by simp [ha]), answers, answers, h.answer?, hanswers]
      exact ⟨rfl, hrun⟩

/-! ## What a sweep does -/

/-- A sweep drops the entries whose time has come, those of this very instant included, and answers
how many they were. -/
theorem sweepExpired_eq (d : Detector) (now : Nat) : d.sweepExpired now =
    (d.cache.countP fun x => x.2.expiresAt ≤ now,
      { d with cache := d.cache.filter fun x => now < x.2.expiresAt }) := by
  have hsplit := List.length_eq_countP_add_countP (l := d.cache) fun x => x.2.expiresAt ≤ now
  have hsweep : d.sweep now = { d with cache := d.cache.filter fun x => now < x.2.expiresAt } := by
    simp [sweep, Entry.expired, ← decide_not]
  simp only [decide_eq_true_eq, Nat.not_le] at hsplit
  rw [sweepExpired, hsweep, hsplit, ← List.countP_eq_length_filter, Nat.add_sub_cancel]

theorem nodup_filter {cache : List (String × Entry)} (h : (cache.map Prod.fst).Nodup)
    (p : String × Entry → Bool) : ((cache.filter p).map Prod.fst).Nodup :=
  h.sublist (List.filter_sublist.map Prod.fst)

theorem Moved.cache_nodup {d d' : Detector} {m : Move} (hm : Moved now d m d')
    (h : (d.cache.map Prod.fst).Nodup) : (d'.cache.map Prod.fst).Nodup := by
  cases hm with
  | take | acquire | begin | report => exact h
  | finish => exact List.nodup_cons.mpr ⟨by simp, nodup_filter h _⟩
  | tick => exact nodup_filter h _

/-- A text is in the cache once or not at all. -/
theorem cache_nodup {d : Detector} (h : Reachable client options now d) :
    (d.cache.map Prod.fst).Nodup := by
  induction h with
  | new => exact List.nodup_nil
  | step hr hs ih =>
    cases hr.stepped hs with
    | beside fewer => exact ih.sublist (fewer.map Prod.fst)
    | accept | drop | start => exact ih
    | moved hm => exact hm.cache_nodup ih

/-- **Sweeping does not show.** Sweeps and sweepers may be set in anywhere in a history, and a
sweeper may tick at any instant from its time on: every check is answered as it is without them, and
the same jobs are queued, calls begun and verdicts stored and reported, each at the same instant.
The cache alone may have lost some entries, and a sweep drops just those that have expired. -/
theorem sweeps_transparent (client : Client) (options : Options) (start : Nat) (acts : List Act) :
    let first := (start, Detector.new client options)
    let plain := run first (acts.filter (!·.sweeps))
    let swept := run first acts
    answers first acts = answers first (acts.filter (!·.sweeps)) ∧
      swept.1 = plain.1 ∧ swept.2.journal = plain.2.journal ∧
      swept.2 = { plain.2 with cache := swept.2.cache, sweepers := swept.2.sweepers } ∧
      (plain.2.cache.map Prod.fst).Nodup ∧ swept.2.cache.Sublist plain.2.cache ∧
      swept.2.cache.length ≤ plain.2.cache.length ∧
      swept.2.sweepExpired swept.1 =
        (swept.2.cache.countP fun x => x.2.expiresAt ≤ swept.1,
          { swept.2 with cache := swept.2.cache.filter fun x => swept.1 < x.2.expiresAt }) ∧
      ∀ j sweeper, swept.2.sweepers[j]? = some sweeper →
        swept.2.perform swept.1 (.tick j) = { (swept.2.sweepExpired swept.1).2 with
          sweepers := swept.2.sweepers.set j
            { sweeper with next := sweeper.next + sweeper.interval } } := by
  intro first plain swept
  have hnew : Parallel client options first first :=
    ⟨rfl, .intro rfl (List.Sublist.refl _), .new start, .new start⟩
  obtain ⟨hanswers, hinstant, hswept, hr, -⟩ := hnew.history acts
  have hfewer : swept.2.cache.Sublist plain.2.cache ∧
      swept.2 = { plain.2 with cache := swept.2.cache, sweepers := swept.2.sweepers } := by
    generalize swept.2 = d at hswept ⊢
    obtain ⟨-, fewer⟩ := hswept
    exact ⟨fewer, rfl⟩
  refine ⟨hanswers, hinstant.symm, by rw [hfewer.2], hfewer.2, cache_nodup hr, hfewer.1,
    hfewer.1.length_le, sweepExpired_eq .., fun j sweeper hs => ?_⟩
  rw [perform, hs]
  rfl

end Guardrail.Moderation.Detector
