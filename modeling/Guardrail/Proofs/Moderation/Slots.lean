import Guardrail.Proofs.Moderation.Rate
import Guardrail.Proofs.Moderation.Shutdown

/-! # Calls wait for their slots

All workers of a detector ask one pacer and then wait on their own, so many may wait at a time. In
whatever order they ask, the slots are those of a pacer that is asked at these instants one after
the other (`Metered`), and these are a period apart (`paced_slots`). A call begins when the slot of
its job has come, and a job has one slot (`slots_paced`). -/

namespace Guardrail.Moderation

/-! ## The slots of a pacer -/

/-- Slots for callers at these instants: one that is asked for a period after the one before or
later is given at once, and no other is given sooner than that. -/
structure Paced (period : Nat) (instants slots : List Nat) : Prop where
  length_eq : slots.length = instants.length
  first : slots.head? = instants.head?
  next : ∀ k now slot, instants[k + 1]? = some now → slots[k]? = some slot →
    slots[k + 1]? = some (max now (slot + period))
  in_order : slots.Pairwise (· ≤ ·)
  apart : slots.Pairwise fun slot later => slot + period ≤ later
  at_once : ∀ k now slot, instants[k + 1]? = some now → slots[k]? = some slot →
    slot + period ≤ now → slots[k + 1]? = some now
  room : 0 < period → ∀ start length,
    slots.countP (fun t => start ≤ t ∧ t ≤ start + length) ≤ length / period + 1

namespace Pacer

/-- The earliest instant of the next slot after these. -/
def nextAfter (p : Pacer) (slots : List Nat) : Nat := slots.getLast?.elim p.next (· + p.period)

@[simp]
theorem nextAfter_concat (p : Pacer) (slots : List Nat) (slot : Nat) :
    p.nextAfter (slots ++ [slot]) = slot + p.period := by
  rw [nextAfter, List.getLast?_concat]
  rfl

theorem nextAfter_acquire (p : Pacer) (now : Nat) (slots : List Nat) :
    p.nextAfter ((p.acquire now).1 :: slots) = (p.acquire now).2.nextAfter slots := by
  rw [nextAfter, nextAfter, List.getLast?_cons]
  cases slots.getLast? <;> rfl

theorem slots_concat (p : Pacer) (times : List Nat) (now : Nat) :
    p.slots (times ++ [now]) = p.slots times ++ [max now (p.nextAfter (p.slots times))] := by
  induction times generalizing p with
  | nil => rfl
  | cons first rest ih =>
    rw [List.cons_append, slots, slots, ih, nextAfter_acquire, List.cons_append]

theorem length_slots (p : Pacer) (times : List Nat) : (p.slots times).length = times.length := by
  induction times generalizing p with
  | nil => rfl
  | cons _ _ ih => rw [slots, List.length_cons, ih, List.length_cons]

theorem slots_succ (p : Pacer) {times : List Nat} {k now slot : Nat}
    (hnow : times[k + 1]? = some now) (hslot : (p.slots times)[k]? = some slot) :
    (p.slots times)[k + 1]? = some (max now (slot + p.period)) := by
  induction times generalizing p k with
  | nil => cases hnow
  | cons first rest ih =>
    rw [List.getElem?_cons_succ] at hnow
    rw [slots, List.getElem?_cons_succ]
    cases k with
    | zero =>
      cases rest with
      | nil => cases hnow
      | cons second rest =>
        cases hnow
        cases hslot
        rfl
    | succ k => exact ih (p.acquire first).2 hnow hslot

/-- Between the slots in a closed interval there are gaps of a period. -/
theorem room_of_apart {period : Nat} {slots : List Nat}
    (h : slots.Pairwise fun slot later => slot + period ≤ later) (hperiod : 0 < period)
    (start length : Nat) :
    slots.countP (fun t => start ≤ t ∧ t ≤ start + length) ≤ length / period + 1 := by
  have hclosed : slots.countP (fun t => start ≤ t ∧ t ≤ start + length) =
      within start (length + 1) slots := by
    refine List.countP_congr fun t _ => ?_
    rw [decide_eq_true_eq, decide_eq_true_eq]
    omega
  have hgaps := within_spaced h start (Nat.add_one_pos length)
  have hle := (Nat.le_div_iff_mul_le hperiod).mpr (Nat.le_of_lt_add_one hgaps)
  omega

theorem paced_slots {p : Pacer} (hp : p.next = 0) (times : List Nat) :
    Paced p.period times (p.slots times) where
  length_eq := p.length_slots times
  first := by
    cases times with
    | nil => rfl
    | cons now later => simp [slots, acquire, hp]
  next _ _ _ hnow hslot := p.slots_succ hnow hslot
  in_order := (p.slots_spaced times).imp fun h => Nat.le_of_add_right_le h
  apart := p.slots_spaced times
  at_once _ _ _ hnow hslot hlate := by rw [p.slots_succ hnow hslot, Nat.max_eq_left hlate]
  room := room_of_apart (p.slots_spaced times)

theorem le_of_tickOf_le {slot tick : Nat} (h : tickOf slot ≤ tick) :
    slot ≤ tick * nanosPerMilli := by
  simp only [tickOf, nanosPerMilli] at h ⊢
  omega

theorem tickOf_mul (tick : Nat) : tickOf (tick * nanosPerMilli) = tick := by
  simp only [tickOf, nanosPerMilli]
  omega

end Pacer

/-! ## What the journal tells of slots -/

/-- A worker that had taken the job asked for a slot at this tick. -/
structure Acquisition where
  job : Job
  tick : Nat
  slot : Nat

def Event.acquired? : Event → Option Acquisition
  | .acquired job tick slot => some ⟨job, tick, slot⟩
  | _ => none

/-- The job of a worker that has not asked for its slot. -/
def Worker.slotless? : Worker → Option Job
  | .taken job => some job
  | _ => none

namespace Detector

def acquired (d : Detector) : List Acquisition := d.history Event.acquired?

/-- When slots were asked for, in nanoseconds. -/
def instants (d : Detector) : List Nat := d.acquired.map fun a => a.tick * nanosPerMilli

def slots (d : Detector) : List Nat := d.acquired.map Acquisition.slot

def slotless (d : Detector) : List Job := d.workers.filterMap Worker.slotless?

variable {d d' : Detector} {p : Pacer} {now i : Nat}

/-- A job that has been taken has a slot, or its worker has yet to ask for it. -/
def Slotted (d : Detector) : Prop :=
  d.taken.Perm (d.slotless ++ d.acquired.map Acquisition.job)

theorem Turn.slotted {w w' : Worker} {e : Option Event} (h : Turn w e w') :
    ((e.bind Event.taken?).toList ++ w.slotless?.toList).Perm
      (w'.slotless?.toList ++ (e.bind Event.acquired?).toList.map Acquisition.job) := by
  cases h <;> exact .refl _

theorem Slotted.change (h : d.Slotted) (hc : Change d d') : d'.Slotted := by
  rw [Slotted, slotless] at h ⊢
  cases hc with
  | turn turn hw hw' _ hj =>
    rw [hw, filterMap_around] at h
    rw [hw', filterMap_around, taken, acquired, history_of_journal hj, history_of_journal hj,
      List.map_append]
    exact perm_handOver h turn.slotted
  | ask asked hw _ hj =>
    have htaken : d'.taken = d.taken := history_of_asked asked.quiet.1 hj
    have hacquired : d'.acquired = d.acquired := history_of_asked (by cases asked <;> rfl) hj
    rw [htaken, hacquired, filterMap_of_asked rfl hw]
    exact h

/-- No job has two slots. -/
theorem Slotted.nodup (h : d.Slotted) (ha : d.Accounted) :
    (d.acquired.map Acquisition.job).Nodup :=
  (List.nodup_append.mp (h.nodup_iff.mp ha.taken_nodup)).2.1

/-- In the journal every call comes after the slot of its job, and not before its time. -/
def SlotsFirst (journal : List Event) : Prop :=
  ∀ later earlier job number tick, journal = later ++ .began job number tick :: earlier →
    ∃ asked slot, .acquired job asked slot ∈ earlier ∧ slot ≤ tick * nanosPerMilli

theorem SlotsFirst.cons {e : Event} {journal : List Event} (h : SlotsFirst journal)
    (hcall : ∀ job number tick, e = .began job number tick →
      ∃ asked slot, .acquired job asked slot ∈ journal ∧ slot ≤ tick * nanosPerMilli) :
    SlotsFirst (e :: journal) := by
  intro later earlier job number tick hj
  cases later with
  | nil =>
    obtain ⟨he, rfl⟩ := List.cons.inj hj
    exact hcall job number tick he
  | cons _ later => exact h _ _ _ _ _ (List.cons.inj hj).2

/-! ## Whoever asks gets the slot that is next -/

/-- The pacer is where its slots have brought it, and whoever waits for a slot got it from there. -/
structure Metered (p : Pacer) (d : Detector) : Prop where
  pacer : d.pacer = some { p with next := p.nextAfter d.slots }
  slots : d.slots = p.slots d.instants
  pacing : ∀ {job slot}, .pacing job slot ∈ d.workers →
    ∃ asked, .acquired job asked slot ∈ d.journal
  calls : SlotsFirst d.journal

/-- As long as nobody asks for a slot, all that has to be looked at is a call that begins. -/
theorem Metered.keep (h : d.Metered p) (e : Option Event) (hp : d'.pacer = d.pacer)
    (hj : d'.journal = e.toList ++ d.journal) (hacquired : e.bind Event.acquired? = none)
    (hw : ∀ {job slot}, .pacing job slot ∈ d'.workers → .pacing job slot ∈ d.workers)
    (hcall : ∀ job number tick, e = some (.began job number tick) →
      ∃ asked slot, .acquired job asked slot ∈ d.journal ∧ slot ≤ tick * nanosPerMilli) :
    d'.Metered p := by
  have hsame : d'.acquired = d.acquired := history_of_asked hacquired hj
  refine ⟨?_, ?_, fun hm => ?_, ?_⟩
  · rw [hp, Detector.slots, hsame]
    exact h.pacer
  · rw [Detector.slots, instants, hsame]
    exact h.slots
  · obtain ⟨asked, ha⟩ := h.pacing (hw hm)
    exact ⟨asked, hj ▸ List.mem_append_right _ ha⟩
  · rw [hj]
    cases e with
    | none => exact h.calls
    | some e => exact h.calls.cons fun job number tick he => hcall job number tick (he ▸ rfl)

/-- The slot that is next for a worker that asks now. -/
def nextSlot (p : Pacer) (d : Detector) (now : Nat) : Nat :=
  max (now * nanosPerMilli) (p.nextAfter d.slots)

/-- Nobody waits if the slot before is a period in the past, or if there is none. -/
theorem nextSlot_of_idle (hp : p.next = 0)
    (hidle : ∀ last ∈ d.slots.getLast?, last + p.period ≤ now * nanosPerMilli) :
    d.nextSlot p now = now * nanosPerMilli := by
  refine Nat.max_eq_left ?_
  rw [Pacer.nextAfter]
  cases hlast : d.slots.getLast? with
  | none => exact hp ▸ Nat.zero_le _
  | some last => exact hidle last hlast

theorem Metered.acquireSlot_eq (h : d.Metered p) (now : Nat) : d.acquireSlot now =
    (d.nextSlot p now, { d with pacer := some { p with next := d.nextSlot p now + p.period } }) := by
  rw [acquireSlot, h.pacer]
  rfl

/-- A worker that asks for a slot waits for the one that is next. -/
def pace (p : Pacer) (d : Detector) (now : Nat) (front : List Worker) (job : Job)
    (back : List Worker) : Detector :=
  { d with
    pacer := some { p with next := d.nextSlot p now + p.period }
    workers := front ++ .pacing job (d.nextSlot p now) :: back
    journal := .acquired job now (d.nextSlot p now) :: d.journal }

theorem Metered.eq_pace (h : d.Metered p) (hm : Moved now d (.acquire i) d') :
    ∃ front job back, d.workers = front ++ .taken job :: back ∧ front.length = i ∧
      d' = d.pace p now front job back := by
  cases hm with
  | @acquire front back job slot pacer hw hs =>
    rw [h.acquireSlot_eq] at hs
    obtain ⟨rfl, hpacer⟩ := Prod.mk.inj hs
    obtain rfl : some { p with next := d.nextSlot p now + p.period } = pacer :=
      congrArg Detector.pacer hpacer
    exact ⟨front, job, back, hw, rfl, rfl⟩

section Pace

variable {front back : List Worker} {job : Job}

theorem acquired_pace :
    (d.pace p now front job back).acquired = d.acquired ++ [⟨job, now, d.nextSlot p now⟩] := by
  have hj : (d.pace p now front job back).journal =
      (some (Event.acquired job now (d.nextSlot p now))).toList ++ d.journal := rfl
  exact history_of_journal hj _

theorem slots_pace : (d.pace p now front job back).slots = d.slots ++ [d.nextSlot p now] := by
  rw [slots, acquired_pace, List.map_append]
  rfl

theorem instants_pace :
    (d.pace p now front job back).instants = d.instants ++ [now * nanosPerMilli] := by
  rw [instants, acquired_pace, List.map_append]
  rfl

theorem Metered.pace (h : d.Metered p) (hw : d.workers = front ++ .taken job :: back) :
    (d.pace p now front job back).Metered p := by
  refine ⟨?_, ?_, fun {job' slot} hm => ?_, h.calls.cons nofun⟩
  · rw [slots_pace, Pacer.nextAfter_concat]
    rfl
  · rw [slots_pace, instants_pace, Pacer.slots_concat, ← h.slots]
    rfl
  · by_cases hnew : Worker.pacing job' slot = .pacing job (d.nextSlot p now)
    · cases hnew
      exact ⟨now, List.mem_cons_self ..⟩
    · obtain ⟨asked, ha⟩ := h.pacing (hw ▸ mem_of_mem_around hm hnew)
      exact ⟨asked, List.mem_cons_of_mem _ ha⟩

theorem begin_mem_moves_pace (p : Pacer) (d : Detector) (now : Nat) (front : List Worker)
    (job : Job) (back : List Worker) :
    (max now (Pacer.tickOf (d.nextSlot p now)), .begin front.length) ∈
      (d.pace p now front job back).moves now :=
  mem_moves.mpr (.inl ⟨front.length, .pacing job (d.nextSlot p now), by simp [Detector.pace], rfl⟩)

end Pace

theorem Metered.moved (h : d.Metered p) {m : Move} (hm : Moved now d m d') : d'.Metered p := by
  cases hm with
  | @take _ _ job _ _ hw =>
    exact h.keep (some (.taken job)) rfl rfl rfl (fun hm => hw ▸ mem_of_mem_around hm nofun) nofun
  | acquire hw hs =>
    obtain ⟨_, _, _, hw, -, he⟩ := h.eq_pace (.acquire hw hs)
    exact he ▸ h.pace hw
  | @begin _ _ job slot hw hslot =>
    refine h.keep (some (.began job d.calls now)) rfl rfl rfl
      (fun hm => hw ▸ mem_of_mem_around hm nofun) fun job number tick he => ?_
    cases he
    obtain ⟨asked, ha⟩ := h.pacing (hw ▸ by simp : .pacing job slot ∈ d.workers)
    exact ⟨asked, slot, ha, Pacer.le_of_tickOf_le hslot⟩
  | @finish _ _ job _ _ v hw =>
    exact h.keep (some (.stored job now v)) rfl rfl rfl
      (fun hm => hw ▸ mem_of_mem_around hm nofun) nofun
  | @report _ _ job v hw =>
    by_cases hr : d.reporting = true
    · exact h.keep (some (.reported job now v)) rfl (by rw [if_pos hr]; rfl) rfl
        (fun hm => hw ▸ mem_of_mem_around hm nofun) nofun
    · exact h.keep none rfl (by rw [if_neg hr]; rfl) rfl
        (fun hm => hw ▸ mem_of_mem_around hm nofun) nofun
  | tick => exact h.keep none rfl rfl rfl id nofun

theorem Metered.stepped (h : d.Metered p) (hs : Stepped now d d') : d'.Metered p := by
  cases hs with
  | beside => exact h.keep none rfl rfl rfl id nofun
  | accept text => exact h.keep (some (.accepted ⟨d.accepts, text⟩)) rfl rfl rfl id nofun
  | drop text => exact h.keep (some (.dropped text)) rfl rfl rfl id nofun
  | start workers =>
    refine h.keep none rfl rfl rfl (fun hm => ?_) nofun
    rcases List.mem_append.mp hm with hm | hm
    · exact hm
    · cases List.eq_of_mem_replicate hm
  | moved hm => exact h.moved hm

end Detector

/-! ## All workers together -/

section Ends

variable {client : Client} {options : Options} {starts : Prop} {s s' : Nat × Nat × Detector}
  {p : Pacer}

theorem Detector.Metered.ending (h : s.2.2.Metered p) (hsound : Sound client options s.2.1 s.2.2)
    (he : Ending starts s s') : s'.2.2.Metered p := by
  cases he with
  | step hs _ => exact h.stepped (Detector.stepped_of_step hsound.fixed.not_closed hs)
  | stop hw =>
    refine h.keep none rfl rfl rfl (fun hm => ?_) nofun
    rw [hw]
    exact List.mem_append.mpr ((List.mem_append.mp hm).imp_right (List.mem_cons_of_mem _))
  | stopSweeper => exact h.keep none rfl rfl rfl id nofun

theorem Detector.Slotted.ending (h : s.2.2.Slotted) (hsound : Sound client options s.2.1 s.2.2)
    (he : Ending starts s s') : s'.2.2.Slotted := by
  cases he with
  | step hs _ => exact h.change (Detector.stepped_of_step hsound.fixed.not_closed hs).change
  | stop hw =>
    rw [Detector.Slotted, Detector.slotless, Detector.filterMap_of_stopped rfl hw]
    exact h
  | stopSweeper => exact h

/-- What each single thing keeps that happens to a sound detector, many of them keep. -/
theorem Ends.keeps {holds : Detector → Prop}
    (hkeeps : ∀ {s s'}, holds s.2.2 → Sound client options s.2.1 s.2.2 → Ending starts s s' →
      holds s'.2.2)
    (h : holds s.2.2) (hsound : Sound client options s.2.1 s.2.2) (r : Ends starts s s') :
    holds s'.2.2 := by
  induction r with
  | refl => exact h
  | tail r he ih => exact hkeeps ih (hsound.ends r) he

theorem Detector.Metered.new (hp : Pacer.perSecond? options.rate = some p) :
    (Detector.new client options).Metered p :=
  ⟨hp, rfl, nofun, fun _ _ _ _ _ hj => by simp [Detector.new] at hj⟩

theorem Detector.Slotted.new : (Detector.new client options).Slotted := .refl _

/-- **However the workers take turns, slots are a period apart, and no call begins before the slot
of its job.** A worker that asks for a slot gets it at once if the one before is a period or more in
the past, and may then begin its call. Workers may come and go, also while a shutdown waits for
them. -/
theorem slots_paced {first awaited now : Nat} {d : Detector}
    (h : Ends True (0, first, .new client options) (awaited, now, d)) (hrate : 0 < options.rate) :
    ∃ p, Pacer.perSecond? options.rate = some p ∧ p.period = nanosPerSecond / options.rate ∧
      (∀ instants, Paced p.period instants (p.slots instants)) ∧
      Paced p.period d.instants d.slots ∧
      (∀ i, (now, .acquire i) ∈ d.moves now → ∃ job slot,
        let d' := d.perform now (.acquire i)
        d'.acquired = d.acquired ++ [⟨job, now, slot⟩] ∧
        (max now (Pacer.tickOf slot), .begin i) ∈ d'.moves now ∧
        ((∀ last ∈ d.slots.getLast?, last + p.period ≤ now * nanosPerMilli) →
          slot = now * nanosPerMilli ∧ (now, .begin i) ∈ d'.moves now)) ∧
      (d.acquired.map Acquisition.job).Nodup ∧
      ∀ later earlier job number tick, d.journal = later ++ .began job number tick :: earlier →
        ∃ asked slot, .acquired job asked slot ∈ earlier ∧ slot ≤ tick * nanosPerMilli := by
  have hp : Pacer.perSecond? options.rate = some ⟨nanosPerSecond / options.rate, 0⟩ :=
    if_neg (Nat.ne_of_gt hrate)
  have hnew : Sound client options first (.new client options) := .new client options first
  have hsound : Sound client options now d := hnew.ends h
  have hmetered : d.Metered ⟨nanosPerSecond / options.rate, 0⟩ :=
    Ends.keeps Detector.Metered.ending (.new hp) hnew h
  have hslotted : d.Slotted := Ends.keeps Detector.Slotted.ending .new hnew h
  refine ⟨_, hp, rfl, Pacer.paced_slots rfl, ?_, fun i due => ?_,
    hslotted.nodup hsound.accounted, hmetered.calls⟩
  · rw [hmetered.slots]
    exact Pacer.paced_slots rfl d.instants
  · obtain ⟨front, job, back, -, rfl, he⟩ :=
      hmetered.eq_pace (Detector.perform_moved hsound.fixed.not_closed due)
    have hbegin := Detector.begin_mem_moves_pace ⟨nanosPerSecond / options.rate, 0⟩ d now front
      job back
    rw [he]
    refine ⟨job, _, Detector.acquired_pace, hbegin, fun hidle => ?_⟩
    have hslot := Detector.nextSlot_of_idle rfl hidle
    rw [hslot, Pacer.tickOf_mul, Nat.max_self] at hbegin
    exact ⟨hslot, hbegin⟩

/-- Three texts come at once, for two workers with two slots a second. -/
def rushed : Detector :=
  ["hi", "ho", "hey"].foldl (fun d text => (d.check 0 text).2)
      (Detector.new slowClient { rate := 2 })
    |>.start 2 |>.advance 0 600

/-- Another text comes a second after the last slot, and a worker takes it. -/
def rested : Detector :=
  ((rushed.advance 600 2000).check 2000 "again").2.perform 2000 (.take 0)

theorem rested_reachable : Reachable slowClient { rate := 2 } 2000 rested := by
  have hrushed : Reachable slowClient { rate := 2 } 600 rushed :=
    (Reachable.new 0).run
      ((((Detector.run_check "hi").trans (Detector.run_check "ho")).trans
        (Detector.run_check "hey")).tail (.start 2) |>.trans (Detector.run_advance (by decide)))
  have hchecked := hrushed.run
    ((Detector.run_advance (by decide : 600 ≤ 2000)).trans (Detector.run_check "again"))
  exact hchecked.step (.move (by decide +kernel))

theorem rested_paced : 0 < 2 ∧
    (∃ first, Ends True (0, first, .new slowClient { rate := 2 }) (0, 2000, rested)) ∧
    rested.slots = [0, 500000000, 1000000000] ∧
    rested.slots.Pairwise (fun slot later => slot + 500000000 ≤ later) ∧
    (2000, .begin 0) ∈ (rested.perform 2000 (.acquire 0)).moves 2000 := by
  have hrate : 0 < ({ rate := 2 } : Options).rate := by decide
  obtain ⟨first, hends⟩ := rested_reachable.ends
  obtain ⟨p, -, hperiod, -, hpaced, hacquire, -, -⟩ := slots_paced hends hrate
  have hperiod : p.period = 500000000 := hperiod
  obtain ⟨_, _, -, -, hidle⟩ := hacquire 0 (by decide +kernel)
  refine ⟨hrate, ⟨first, hends⟩, by decide +kernel, hperiod ▸ hpaced.apart, ?_⟩
  rw [hperiod] at hidle
  exact (hidle (by decide +kernel)).2

end Ends
end Guardrail.Moderation
