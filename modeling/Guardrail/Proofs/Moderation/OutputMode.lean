import Guardrail.Firewall
import Guardrail.Proofs.Moderation.Freshness

/-! # What the output mode decides

The mode of a firewall is read once an output has been scanned and checked, and nothing comes back
from there: two firewalls that differ in their modes go through the same history (`run_withMode`).
Their answers differ where the check says that the verdict is pending (`judge_block`), so what
passes while pending outputs are held back has been judged and let through (`stored_of_passed`). -/

namespace Guardrail.Firewall

open Moderation

/-- What can happen to a firewall and its detector. Others may use the detector, too, and what
happens may come between the two parts of a check. -/
inductive Act where
  | filter (tenant output : String)
  /-- The policies change. -/
  | govern (store : Store)
  | lookup (text : String)
  | enqueue (text : String)
  | start (workers : Nat)
  | startSweeper (interval : Nat)
  | sweep
  | listen
  /-- The move is made if it is due. -/
  | move (m : Detector.Move)
  | wait (ticks : Nat)

def change (f : Firewall) (g : Detector → Detector) : Firewall :=
  { f with detector := f.detector.map g }

def act (s : Nat × Firewall) : Act → Nat × Firewall
  | .filter tenant output => (s.1, (s.2.filterOutput s.1 tenant output).2)
  | .govern store => (s.1, { s.2 with store })
  | .lookup text => (s.1, s.2.change fun d => (d.lookup s.1 text).2)
  | .enqueue text => (s.1, s.2.change fun d => d.enqueue text)
  | .start workers => (s.1, s.2.change fun d => d.start workers)
  | .startSweeper interval => (s.1, s.2.change fun d => d.startSweeper s.1 interval)
  | .sweep => (s.1, s.2.change fun d => d.sweep s.1)
  | .listen => (s.1, s.2.change Detector.listen)
  | .move m =>
    (s.1, s.2.change fun d => if (s.1, m) ∈ d.moves s.1 then d.perform s.1 m else d)
  | .wait ticks => (s.1 + ticks, s.2)

def run (s : Nat × Firewall) (acts : List Act) : Nat × Firewall := acts.foldl act s

def withMode (mode : OutputMode) (f : Firewall) : Firewall := { f with mode }

/-! ## The same history -/

theorem filterOutput_withMode (mode : OutputMode) (f : Firewall) (now : Nat)
    (tenant output : String) :
    ((f.withMode mode).filterOutput now tenant output).2 =
      (f.filterOutput now tenant output).2.withMode mode := by
  obtain ⟨store, detector, mode'⟩ := f
  by_cases hhit : (Filter.scanLeaks output (store.sensitiveTerms tenant)).hit = true
  · simp [filterOutput, withMode, hhit]
  · cases detector <;> simp [filterOutput, withMode, hhit]

theorem act_withMode (mode : OutputMode) (s : Nat × Firewall) (a : Act) :
    act (s.1, s.2.withMode mode) a = ((act s a).1, (act s a).2.withMode mode) := by
  cases a with
  | filter tenant output => rw [act, filterOutput_withMode, act]
  | govern | lookup | enqueue | start | startSweeper | sweep | listen | move | wait => rfl

theorem run_withMode (mode : OutputMode) (s : Nat × Firewall) (acts : List Act) :
    run (s.1, s.2.withMode mode) acts = ((run s acts).1, (run s acts).2.withMode mode) := by
  induction acts generalizing s with
  | nil => rfl
  | cons a rest ih =>
    rw [run, List.foldl_cons, ← run, act_withMode, ih]
    rfl

/-! ## Different answers -/

theorem filterOutput_fst {f : Firewall} {d : Detector} (h : f.detector = some d) (now : Nat)
    (tenant output : String) :
    (f.filterOutput now tenant output).1 =
      if (Filter.scanLeaks output (f.store.sensitiveTerms tenant)).hit then
        .block (Filter.scanLeaks output (f.store.sensitiveTerms tenant)).reason
          (Filter.scanLeaks output (f.store.sensitiveTerms tenant)).findings
      else judge f.mode (d.check now output).1 := by
  simp only [filterOutput, h]
  split <;> rfl

theorem judge_of_pending {v : Verdict} (h : v.allowed = true ∧ v.reason = pendingReason)
    (mode : OutputMode) : judge mode v = mode.pendingVerdict v.signals := by
  simp [judge, h.1, h.2]

theorem judge_of_not_pending {v : Verdict} (h : ¬ (v.allowed = true ∧ v.reason = pendingReason))
    (mode : OutputMode) : judge mode v = if v.allowed then .allow else v := by
  unfold judge
  cases hv : v.allowed with
  | false => rfl
  | true =>
    have hr : v.reason ≠ pendingReason := fun hr => h ⟨hv, hr⟩
    simp [hr]

/-- What passes while pending outputs are held back is allowed by a verdict that is not pending. -/
theorem judge_block {v : Verdict} (h : (judge .block v).allowed = true) :
    v.allowed = true ∧ v.reason ≠ pendingReason := by
  by_cases hp : v.allowed = true ∧ v.reason = pendingReason
  · rw [judge_of_pending hp] at h
    cases h
  · rw [judge_of_not_pending hp] at h
    cases hv : v.allowed with
    | false => simp [hv] at h
    | true => exact ⟨rfl, fun hr => hp ⟨hv, hr⟩⟩

/-! ## The detector behind a firewall -/

/-- The firewall has a detector that was new at some instant and has not been shut down. -/
def Moderated (client : Client) (options : Options) (s : Nat × Firewall) : Prop :=
  ∃ d, s.2.detector = some d ∧ Reachable client options s.1 d

variable {client : Client} {options : Options} {s : Nat × Firewall}

theorem Moderated.change {g : Detector → Detector} (h : Moderated client options s)
    (hg : ∀ d, Reachable client options s.1 d → Reachable client options s.1 (g d)) :
    Moderated client options (s.1, s.2.change g) := by
  obtain ⟨d, hd, hr⟩ := h
  refine ⟨g d, ?_, hg d hr⟩
  rw [Firewall.change, hd]
  rfl

theorem Moderated.act (h : Moderated client options s) (a : Act) :
    Moderated client options (act s a) := by
  cases a with
  | filter tenant output =>
    obtain ⟨d, hd, hr⟩ := h
    rw [Firewall.act, filterOutput]
    dsimp only
    split
    · exact ⟨d, hd, hr⟩
    · rw [hd]
      exact ⟨_, rfl, hr.run (d.run_check output)⟩
  | govern store => exact h
  | lookup text => exact h.change fun d hr => hr.step (.lookup text)
  | enqueue text => exact h.change fun d hr => hr.step (.enqueue text)
  | start workers => exact h.change fun d hr => hr.step (.start workers)
  | startSweeper interval => exact h.change fun d hr => hr.step (.startSweeper interval)
  | sweep => exact h.change fun d hr => hr.step .sweep
  | listen => exact h.change fun d hr => hr.step .listen
  | move m =>
    refine h.change fun d hr => ?_
    split
    · rename_i hdue
      exact hr.step (.move hdue)
    · exact hr
  | wait ticks =>
    obtain ⟨d, hd, hr⟩ := h
    exact ⟨d, hd, hr.step (.wait ticks)⟩

theorem Moderated.run (h : Moderated client options s) (acts : List Act) :
    Moderated client options (run s acts) := by
  induction acts generalizing s with
  | nil => exact h
  | cons a rest ih => exact ih (h.act a)

/-! ## What passes has been judged -/

theorem stored_of_stepped {d d' : Detector} {now tick : Nat} {job : Job} {v : Verdict}
    (hs : Detector.Stepped now d d') (h : .stored job tick v ∈ d'.journal) :
    .stored job tick v ∈ d.journal ∨ tick = now := by
  cases hs with
  | beside | start => exact .inl h
  | accept | drop => exact .inl ((List.mem_cons.mp h).resolve_left nofun)
  | moved hm =>
    cases hm with
    | take | acquire | begin => exact .inl ((List.mem_cons.mp h).resolve_left nofun)
    | finish =>
      rcases List.mem_cons.mp h with heq | h
      · cases heq
        exact .inr rfl
      · exact .inl h
    | report =>
      rcases List.mem_append.mp h with h | h
      · split at h <;> simp at h
      · exact .inl h
    | tick => exact .inl h

theorem now_le_of_step {d d' : Detector} {now now' : Nat} (hs : Step (now, d) (now', d')) :
    now ≤ now' := by
  cases hs with
  | wait ticks => exact Nat.le_add_right now ticks
  | lookup | enqueue | start | startSweeper | sweep | listen | move => exact Nat.le_refl now

/-- Nothing is stored before its time. -/
theorem stored_le_now {now tick : Nat} {d : Detector} {job : Job} {v : Verdict}
    (h : Reachable client options now d) (hm : .stored job tick v ∈ d.journal) : tick ≤ now := by
  induction h with
  | new => cases hm
  | step hr hs ih =>
    have hle := now_le_of_step hs
    rcases stored_of_stepped (hr.stepped hs) hm with hm | rfl
    · exact Nat.le_trans (ih hm) hle
    · exact hle

theorem stored_of_lastStored {d : Detector} {text : String} {tick : Nat} {v : Verdict}
    (h : d.lastStored text = some (tick, v)) :
    ∃ job : Job, job.text = text ∧ .stored job tick v ∈ d.journal := by
  obtain ⟨event, hevent, heq⟩ := List.exists_of_findSome?_eq_some h
  cases event with
  | stored job tick' v' =>
    simp only [Event.storedFor?, Option.ite_none_right_eq_some, Option.some.injEq,
      Prod.mk.injEq] at heq
    obtain ⟨htext, rfl, rfl⟩ := heq
    exact ⟨job, htext, hevent⟩
  | accepted | dropped | taken | acquired | began | reported => cases heq

/-- A verdict that is allowed and not pending is a fresh one of a job for exactly this text. -/
theorem stored_of_check {now : Nat} {d : Detector} (h : Reachable client options now d)
    {text : String} (hnot : (d.check now text).1.reason ≠ pendingReason) :
    ∃ job tick, .stored job tick (d.check now text).1 ∈ d.journal ∧ job.text = text ∧
      tick ≤ now ∧ now < tick + options.cacheTtl := by
  rw [Detector.check_fst, h.faithful.lookup_fst, h.fixed.options] at hnot ⊢
  cases hlast : d.lastStored text with
  | none =>
    rw [hlast] at hnot
    exact absurd rfl hnot
  | some stored =>
    obtain ⟨tick, v⟩ := stored
    obtain ⟨job, htext, hmem⟩ := stored_of_lastStored hlast
    rw [hlast] at hnot
    by_cases hfresh : now < tick + options.cacheTtl
    · refine ⟨job, tick, ?_, htext, stored_le_now h hmem, hfresh⟩
      simpa [hfresh] using hmem
    · simp [hfresh, Verdict.allowWith] at hnot

/-- **The output mode decides pending outputs and nothing else.** In both modes the same history
leads to the same detector, and every output is answered in the same way, unless it is clean and its
verdict is allowed as pending: then it passes, marked as such, or it is held back. What passes while
pending outputs are held back has been allowed by a job for exactly that text, less than the life
of a verdict ago. -/
theorem modes_differ_when_pending (store : Store) (client : Client) (options : Options)
    (start : Nat) (acts : List Act) :
    ∃ now governed d,
      run (start, .new store (some (.new client options)) .mark) acts =
        (now, ⟨governed, some d, .mark⟩) ∧
      run (start, .new store (some (.new client options)) .block) acts =
        (now, ⟨governed, some d, .block⟩) ∧
      ∀ tenant output,
        let verdict := (d.check now output).1
        let marked := (Firewall.filterOutput ⟨governed, some d, .mark⟩ now tenant output).1
        let blocked := (Firewall.filterOutput ⟨governed, some d, .block⟩ now tenant output).1
        (if (Filter.scanLeaks output (governed.sensitiveTerms tenant)).hit = false ∧
            verdict.allowed = true ∧ verdict.reason = "llm_pending" then
          marked = ⟨true, "llm_pending", verdict.signals⟩ ∧ blocked = ⟨false, "llm_pending", []⟩
        else marked = blocked) ∧
        (blocked.allowed = true → ∃ job tick v, .stored job tick v ∈ d.journal ∧
          job.text = output ∧ tick ≤ now ∧ now < tick + options.cacheTtl ∧ v.allowed = true) := by
  -- Both runs are the one in `mark`, seen with another mode.
  have hnew (mode : OutputMode) : Firewall.new store (some (.new client options)) mode =
      (Firewall.new store (some (.new client options)) .mark).withMode mode := rfl
  have hmoderated : Moderated client options
      (run (start, .new store (some (.new client options)) .mark) acts) :=
    Moderated.run ⟨_, rfl, .new start⟩ acts
  have hmark := run_withMode .mark (start, .new store (some (.new client options)) .mark) acts
  have hblock := run_withMode .block (start, .new store (some (.new client options)) .mark) acts
  rw [← hnew] at hmark hblock
  generalize run (start, .new store (some (.new client options)) .mark) acts = s at *
  obtain ⟨now, governed, detector, mode⟩ := s
  obtain ⟨d, rfl, hr⟩ := hmoderated
  refine ⟨now, governed, d, hmark, hblock, fun tenant output => ?_⟩
  dsimp only
  rw [filterOutput_fst rfl, filterOutput_fst rfl]
  by_cases hhit : (Filter.scanLeaks output (governed.sensitiveTerms tenant)).hit = true
  · simp [hhit, Verdict.block]
  · simp only [hhit, Bool.false_eq_true, if_false, true_and]
    constructor
    · split
      · rename_i hp
        rw [judge_of_pending hp, judge_of_pending hp]
        exact ⟨rfl, rfl⟩
      · rename_i hp
        rw [judge_of_not_pending hp, judge_of_not_pending hp]
    · intro hallowed
      obtain ⟨hv, hnot⟩ := judge_block hallowed
      obtain ⟨job, tick, hmem, htext, hle, hlt⟩ := stored_of_check hr hnot
      exact ⟨job, tick, _, hmem, htext, hle, hlt, hv⟩

/-- A client that takes a while and lets everything through. -/
def lenientClient : Client := fun _ _ => ⟨30, some (.allowWith "fine" [])⟩

/-- An output is held back, and then its verdict comes. -/
def judging : List Act :=
  [.filter "acme" "hi", .start 1, .move (.take 0), .move (.acquire 0), .move (.begin 0), .wait 30,
    .move (.finish 0)]

def holding : Nat × Firewall :=
  (0, .new {} (some (.new lenientClient { rate := 0 })) .block)

theorem judged_output_passes :
    (holding.2.filterOutput holding.1 "acme" "hi").1 = ⟨false, "llm_pending", []⟩ ∧
      ((run holding judging).2.filterOutput (run holding judging).1 "acme" "hi").1 = .allow ∧
      ∃ d job tick v, (run holding judging).2.detector = some d ∧
        .stored job tick v ∈ d.journal ∧ job.text = "hi" ∧ v.allowed = true := by
  have hpasses :
      ((run holding judging).2.filterOutput (run holding judging).1 "acme" "hi").1 = .allow := by
    decide +kernel
  obtain ⟨now, governed, d, -, hblock, hanswers⟩ :=
    modes_differ_when_pending {} lenientClient { rate := 0 } 0 judging
  refine ⟨by decide +kernel, hpasses, ?_⟩
  have hrun : run holding judging = (now, ⟨governed, some d, .block⟩) := hblock
  rw [hrun] at hpasses ⊢
  obtain ⟨job, tick, v, hmem, htext, -, -, hv⟩ :=
    (hanswers "acme" "hi").2 (congrArg Verdict.allowed hpasses)
  exact ⟨d, job, tick, v, rfl, hmem, htext, hv⟩

end Guardrail.Firewall
