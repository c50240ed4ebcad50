import Guardrail.Proofs.Moderation.Conservation
import Guardrail.Proofs.Moderation.OutputMode
import Mathlib.Data.List.Induction

/-! # What reaches the client has been scanned

A call of the client goes back through a worker and the queue to the one `filter` that put its job
there, whatever happened in between (`queuedBy_of_accepted`). That `filter` had scanned the text
before with the tenant's terms of the moment, and found nothing: if the scan finds something, the
detector is not even asked. -/

namespace Guardrail

namespace Moderation.Detector

variable {d d' : Detector} {now : Nat}

theorem mem_history {α : Type} {kind : Event → Option α} {e : Event} {a : α}
    (he : e ∈ d.journal) (hk : kind e = some a) : a ∈ d.history kind :=
  List.mem_filterMap.mpr ⟨e, List.mem_reverse.mpr he, hk⟩

theorem began_of_begun {job : Job} (hb : job ∈ d.begun) :
    ∃ number tick, .began job number tick ∈ d.journal := by
  obtain ⟨e, he, hk⟩ := List.mem_filterMap.mp hb
  cases e with
  | began job' number tick =>
    cases hk
    exact ⟨number, tick, List.mem_reverse.mp he⟩
  | _ => cases hk

/-- Only what is put on the queue is handed to the client. -/
theorem Accounted.accepted_of_begun (h : d.Accounted) {job : Job} (hb : job ∈ d.begun) :
    job ∈ d.accepted := by
  rw [h.in_order]
  exact List.mem_append_left _ (h.taken.mem_iff.mpr (List.mem_append_right _ hb))

theorem Moved.accepted {m : Move} (hm : Moved now d m d') : d'.accepted = d.accepted := by
  cases hm with
  | take | acquire | begin | finish => simp [Detector.accepted, history, Event.accepted?]
  | report =>
    dsimp only [Detector.accepted, history]
    split <;> simp [Event.accepted?]
  | tick => rfl

theorem accepted_lookup (d : Detector) (now : Nat) (text : String) :
    (d.lookup now text).2.accepted = d.accepted := by
  obtain ⟨cache, -, he⟩ := d.lookup_frame now text
  rw [he]
  rfl

theorem accepted_enqueue (d : Detector) (text : String) :
    (d.enqueue text).accepted = d.accepted ∨
      ∃ job : Job, job.text = text ∧ (d.enqueue text).accepted = d.accepted ++ [job] := by
  rcases Nat.lt_or_ge d.queue.length d.capacity with hlt | hle
  · rw [enqueue_of_lt hlt]
    exact .inr ⟨⟨d.accepts, text⟩, rfl, by simp [Detector.accepted, history, Event.accepted?]⟩
  · rw [enqueue_of_le hle]
    exact .inl (by simp [Detector.accepted, history, Event.accepted?])

theorem accepted_check (d : Detector) (now : Nat) (text : String) :
    (d.check now text).2.accepted = d.accepted ∨
      ∃ job : Job, job.text = text ∧ (d.check now text).2.accepted = d.accepted ++ [job] := by
  have hl := d.accepted_lookup now text
  unfold check
  split
  · rename_i h
    rw [h] at hl
    exact .inl hl
  · rename_i d' h
    rw [h] at hl
    rw [← hl]
    exact d'.accepted_enqueue text

end Moderation.Detector

namespace Firewall

open Moderation

variable {client : Client} {options : Options} {s : Nat × Firewall}

/-- The scan of the output with the tenant's terms finds nothing. -/
def Clean (f : Firewall) (tenant output : String) : Prop :=
  (Filter.scanLeaks output (f.store.sensitiveTerms tenant)).hit = false

theorem filterOutput_of_hit {f : Firewall} {tenant output : String}
    (h : ¬ f.Clean tenant output) (now : Nat) : (f.filterOutput now tenant output).2 = f := by
  rw [Clean, Bool.not_eq_false] at h
  simp [filterOutput, h]

theorem filterOutput_of_clean {f : Firewall} {d : Detector} {tenant output : String}
    (h : f.Clean tenant output) (hd : f.detector = some d) (now : Nat) :
    (f.filterOutput now tenant output).2 = { f with detector := some (d.check now output).2 } := by
  rw [Clean] at h
  simp [filterOutput, h, hd]

/-- The jobs that the firewall's detector has put on its queue. -/
def accepted (f : Firewall) : List Job := f.detector.elim [] Detector.accepted

/-- At this point of the history, a `filter` of the job's text puts the job on the queue, and the
scan with the terms of the moment finds nothing. -/
structure QueuedBy (s : Nat × Firewall) (tenant : String) (job : Job) : Prop where
  clean : s.2.Clean tenant job.text
  queued : (act s (.filter tenant job.text)).2.accepted = s.2.accepted ++ [job]

theorem accepted_change {g : Detector → Detector} (h : Moderated client options s)
    (hg : ∀ d, Reachable client options s.1 d → (g d).accepted = d.accepted) :
    (s.2.change g).accepted = s.2.accepted := by
  obtain ⟨d, hd, hr⟩ := h
  simp only [accepted, change, hd, Option.map_some, Option.elim_some]
  exact hg d hr

theorem accepted_act (h : Moderated client options s) {a : Act} (hfed : ∀ text, a ≠ .enqueue text) :
    (act s a).2.accepted = s.2.accepted ∨
      ∃ tenant job, a = .filter tenant job.text ∧ QueuedBy s tenant job := by
  cases a with
  | filter tenant output =>
    by_cases hclean : s.2.Clean tenant output
    · obtain ⟨d, hd, -⟩ := h
      have hact : (act s (.filter tenant output)).2.accepted =
          (d.check s.1 output).2.accepted := by
        rw [act, filterOutput_of_clean hclean hd]
        rfl
      have hold : s.2.accepted = d.accepted := by rw [accepted, hd]; rfl
      rcases d.accepted_check s.1 output with hsame | ⟨job, rfl, hnew⟩
      · exact .inl (by rw [hact, hsame, hold])
      · exact .inr ⟨tenant, job, rfl, hclean, by rw [hact, hnew, hold]⟩
    · rw [act, filterOutput_of_hit hclean]
      exact .inl rfl
  | govern | wait => exact .inl rfl
  | lookup text => exact .inl (accepted_change h fun d _ => d.accepted_lookup s.1 text)
  | enqueue text => exact absurd rfl (hfed text)
  | start workers =>
    refine .inl (accepted_change h fun d hr => ?_)
    rw [Detector.start_frame hr.fixed.not_closed]
    rfl
  | startSweeper interval =>
    refine .inl (accepted_change h fun d _ => ?_)
    obtain ⟨sweepers, he⟩ := d.startSweeper_frame s.1 interval
    rw [he]
    rfl
  | sweep | listen => exact .inl (accepted_change h fun d _ => rfl)
  | move m =>
    refine .inl (accepted_change h fun d hr => ?_)
    split
    · rename_i hdue
      exact (hr.moved hdue).accepted
    · rfl

theorem run_append (s : Nat × Firewall) (acts later : List Act) :
    run s (acts ++ later) = run (run s acts) later := List.foldl_append ..

/-- Every job on the queue, or that ever was there, was put there by a clean `filter`. -/
theorem queuedBy_of_accepted (h : Moderated client options s) (hempty : s.2.accepted = [])
    {acts : List Act} (hfed : ∀ text, .enqueue text ∉ acts) {job : Job}
    (hj : job ∈ (run s acts).2.accepted) :
    ∃ before tenant after, acts = before ++ .filter tenant job.text :: after ∧
      QueuedBy (run s before) tenant job := by
  induction acts using List.reverseRecOn with
  | nil =>
    rw [run, List.foldl_nil, hempty] at hj
    cases hj
  | append_singleton acts a ih =>
    have hbefore := ih fun text hm => hfed text (List.mem_append_left _ hm)
    have hlast : ∀ text, a ≠ .enqueue text := fun text he => hfed text (by simp [he])
    rw [run_append] at hj
    rcases accepted_act (h.run acts) hlast with hsame | ⟨tenant, last, rfl, hq⟩
    · obtain ⟨before, tenant, after, rfl, hq⟩ := hbefore (hsame ▸ hj)
      exact ⟨before, tenant, after ++ [a], by simp, hq⟩
    · have hj : job ∈ (act (run s acts) (.filter tenant last.text)).2.accepted := hj
      rw [hq.queued, List.mem_append, List.mem_singleton] at hj
      rcases hj with hj | rfl
      · obtain ⟨before, tenant', after, rfl, hq'⟩ := hbefore hj
        exact ⟨before, tenant', after ++ [.filter tenant last.text], by simp, hq'⟩
      · exact ⟨acts, tenant, [], rfl, hq⟩

/-- **Nothing that the scan would find is sent to moderation.** If the detector gets its texts from
the firewall alone, then every text the client is called with was put on the queue by a `filter` for
some tenant with whose terms, at that moment, the scan found nothing in it. A `filter` whose scan
finds something leaves the detector, and all else, as it was. -/
theorem moderated_outputs_clean (store : Store) (client : Client) (options : Options)
    (mode : OutputMode) (start : Nat) {acts : List Act} (hfed : ∀ text, .enqueue text ∉ acts) :
    let s := (start, .new store (some (.new client options)) mode)
    ∃ now governed d, run s acts = (now, ⟨governed, some d, mode⟩) ∧
      (∀ job number tick, .began job number tick ∈ d.journal →
        ∃ before tenant after, acts = before ++ .filter tenant job.text :: after ∧
          (Filter.scanLeaks job.text ((run s before).2.store.sensitiveTerms tenant)).hit = false ∧
          (run s (before ++ [.filter tenant job.text])).2.accepted =
            (run s before).2.accepted ++ [job]) ∧
      ∀ tenant output, (Filter.scanLeaks output (governed.sensitiveTerms tenant)).hit = true →
        (Firewall.filterOutput ⟨governed, some d, mode⟩ now tenant output).2 =
          ⟨governed, some d, mode⟩ := by
  intro s
  have hnew : Moderated client options s := ⟨_, rfl, .new start⟩
  have hmode : (run s acts).2.mode = mode :=
    congrArg (fun f => f.2.mode) (run_withMode mode s acts)
  obtain ⟨d, hd, hr⟩ := hnew.run acts
  have hrun : run s acts = ((run s acts).1, ⟨(run s acts).2.store, some d, mode⟩) := by
    rw [← hd, ← hmode]
  refine ⟨_, _, d, hrun, fun job number tick hb => ?_, fun tenant output hhit => ?_⟩
  · have hbegun : job ∈ d.begun := Detector.mem_history hb rfl
    have hj : job ∈ (run s acts).2.accepted := by
      rw [accepted, hd]
      exact hr.accounted.accepted_of_begun hbegun
    obtain ⟨before, tenant, after, hacts, hq⟩ := queuedBy_of_accepted hnew rfl hfed hj
    refine ⟨before, tenant, after, hacts, hq.clean, ?_⟩
    rw [run_append]
    exact hq.queued
  · refine filterOutput_of_hit ?_ _
    rw [Clean, hhit]
    nofun

/-- One output is held back by the scan and another one goes to the client. -/
def mixedOutputs : List Act :=
  [.filter "acme" "the password is hunter2", .filter "acme" "hi", .start 1, .move (.take 0),
    .move (.acquire 0), .move (.begin 0)]

theorem clean_output_moderated : (∀ text, .enqueue text ∉ mixedOutputs) ∧
    ∃ d number tick, (run holding mixedOutputs).2.detector = some d ∧
      .began ⟨0, "hi"⟩ number tick ∈ d.journal ∧
      ∃ before tenant after, mixedOutputs = before ++ .filter tenant "hi" :: after ∧
        (Filter.scanLeaks "hi"
          ((run holding before).2.store.sensitiveTerms tenant)).hit = false := by
  have hfed : ∀ text, .enqueue text ∉ mixedOutputs := by simp [mixedOutputs]
  have hbegun : (run holding mixedOutputs).2.detector.elim [] Detector.begun = [⟨0, "hi"⟩] := by
    decide +kernel
  obtain ⟨now, governed, d, hrun, hclean, -⟩ :=
    moderated_outputs_clean {} lenientClient { rate := 0 } .block 0 hfed
  have hrun : run holding mixedOutputs = (now, ⟨governed, some d, .block⟩) := hrun
  rw [hrun] at hbegun
  obtain ⟨number, tick, hbegan⟩ := Detector.began_of_begun (hbegun ▸ List.mem_singleton_self _)
  obtain ⟨before, tenant, after, hacts, hscan, -⟩ := hclean _ number tick hbegan
  exact ⟨hfed, d, number, tick, by rw [hrun], hbegan, before, tenant, after, hacts, hscan⟩

end Firewall
end Guardrail
