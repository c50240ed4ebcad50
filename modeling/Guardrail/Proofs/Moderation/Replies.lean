import Guardrail.Proofs.Moderation.Freshness

/-! # Where cached verdicts come from

A verdict gets into the cache at the end of a call, and what is stored is the client's reply or, if
there was none in time, a verdict that allows. So a check blocks only with a reply of the client to
exactly the text that is checked (`Visited.replied`). The detector may have been shut down
meanwhile: the workers that were busy then have brought their calls to an end. -/

namespace Guardrail.Moderation

/-- The client replies with the verdict to one of its calls for the text, in time. -/
def Replied (client : Client) (options : Options) (text : String) (v : Verdict) : Prop :=
  ∃ number, (client number text).outcome = some v ∧
    (client number text).duration ≤ options.callTimeout

/-- The states of a detector that was new at some instant. It may have been shut down. -/
inductive Visited (client : Client) (options : Options) : Nat → Detector → Prop
  | new (now : Nat) : Visited client options now (.new client options)
  | step {now now' : Nat} {d d' : Detector} (h : Visited client options now d)
      (hs : Step (now, d) (now', d')) : Visited client options now' d'
  | shutdown {now : Nat} {d : Detector} (h : Visited client options now d) :
      Visited client options (d.shutdown now).1 (d.shutdown now).2

/-- Calls in progress are the client's, and a cached verdict that blocks is one of its replies. -/
structure Sourced (client : Client) (options : Options) (d : Detector) : Prop where
  client_eq : d.client = client
  options_eq : d.options = options
  calling : ∀ {job began call}, .calling job began call ∈ d.workers →
    ∃ number, call = client number job.text
  cached : ∀ {text e}, (text, e) ∈ d.cache →
    e.verdict.allowed = true ∨ Replied client options text e.verdict

section Sourced

variable {client : Client} {options : Options} {now : Nat} {d d' : Detector}

theorem Sourced.transfer (h : Sourced client options d) (hclient : d'.client = d.client)
    (hoptions : d'.options = d.options)
    (hworkers : ∀ {job began call}, .calling job began call ∈ d'.workers →
      .calling job began call ∈ d.workers)
    (hcache : ∀ x ∈ d'.cache, x ∈ d.cache) : Sourced client options d' where
  client_eq := hclient.trans h.client_eq
  options_eq := hoptions.trans h.options_eq
  calling hw := h.calling (hworkers hw)
  cached he := h.cached (hcache _ he)

theorem Sourced.setWorker (h : Sourced client options d) (i : Nat) {w : Worker}
    (hw : ∀ job began call, w = .calling job began call →
      ∃ number, call = client number job.text) :
    Sourced client options (d.setWorker i w) where
  client_eq := h.client_eq
  options_eq := h.options_eq
  calling hm := by
    rcases List.mem_or_eq_of_mem_set hm with hm | heq
    · exact h.calling hm
    · exact hw _ _ _ heq.symm
  cached := h.cached

theorem Sourced.settle (h : Sourced client options d) {job : Job} {began : Nat} {call : Call}
    (hw : .calling job began call ∈ d.workers) :
    (Detector.settle d.options.callTimeout call).allowed = true ∨
      Replied client options job.text (Detector.settle d.options.callTimeout call) := by
  obtain ⟨number, rfl⟩ := h.calling hw
  unfold Detector.settle
  rw [h.options_eq]
  cases hreply : (client number job.text).outcome with
  | none => exact .inl rfl
  | some v =>
    dsimp only
    split
    · rename_i hin
      exact .inr ⟨number, hreply, hin⟩
    · exact .inl rfl

theorem Sourced.store (h : Sourced client options d) (now : Nat) {job : Job} {v : Verdict}
    (hv : v.allowed = true ∨ Replied client options job.text v) :
    Sourced client options (d.store now job v) where
  client_eq := h.client_eq
  options_eq := h.options_eq
  calling := h.calling
  cached he := by
    rcases List.mem_cons.mp he with he | he
    · cases he
      exact hv
    · exact h.cached (List.mem_filter.mp he).1

theorem Sourced.release (h : Sourced client options d) (i : Nat) :
    Sourced client options (d.release i) := by
  unfold Detector.release
  split
  · exact h.transfer rfl rfl (fun hm => List.mem_of_mem_eraseIdx hm) fun _ hx => hx
  · exact h.setWorker i (by simp)

theorem Sourced.perform (h : Sourced client options d) (now : Nat) (m : Detector.Move) :
    Sourced client options (d.perform now m) := by
  cases m with
  | take i =>
    simp only [Detector.perform]
    split
    · rename_i job _ _ _
      exact (h.setWorker (w := .taken job) i (by simp)).transfer rfl rfl id fun _ hx => hx
    · exact h
  | acquire i =>
    simp only [Detector.perform]
    split
    · rename_i job _
      rw [Detector.acquireSlot_eq]
      exact (h.setWorker (w := .pacing job _) i (by simp)).transfer rfl rfl id fun _ hx => hx
    · exact h
  | begin i =>
    simp only [Detector.perform]
    split
    · rename_i job _ _
      refine (h.setWorker i ?_).transfer rfl rfl id fun _ hx => hx
      rintro _ _ _ ⟨⟩
      exact ⟨d.calls, by rw [h.client_eq]⟩
    · exact h
  | finish i =>
    simp only [Detector.perform]
    split
    · rename_i hw
      exact (h.store now (h.settle (List.mem_of_getElem? hw))).setWorker i (by simp)
    · exact h
  | report i =>
    simp only [Detector.perform]
    split
    · unfold Detector.report
      split
      · exact (h.transfer rfl rfl id fun _ hx => hx : Sourced client options (d.record _)).release i
      · exact h.release i
    · exact h
  | tick j =>
    simp only [Detector.perform]
    split
    · exact h.transfer rfl rfl id fun _ hx => (List.mem_filter.mp hx).1
    · exact h

theorem Sourced.step {now' : Nat} (h : Sourced client options d)
    (hs : Step (now, d) (now', d')) : Sourced client options d' := by
  cases hs with
  | lookup text =>
    unfold Detector.lookup
    split
    · exact h
    · split
      · exact h.transfer rfl rfl id fun _ hx => (List.mem_filter.mp hx).1
      · exact h
  | enqueue text =>
    unfold Detector.enqueue
    dsimp only
    split <;> exact h.transfer rfl rfl id fun _ hx => hx
  | start workers =>
    unfold Detector.start
    split
    · exact h
    · refine h.transfer rfl rfl (fun hm => ?_) fun _ hx => hx
      rcases List.mem_append.mp hm with hm | hm
      · exact hm
      · cases List.eq_of_mem_replicate hm
  | startSweeper interval =>
    obtain ⟨sweepers, he⟩ := d.startSweeper_frame now interval
    rw [he]
    exact h.transfer rfl rfl id fun _ hx => hx
  | sweep => exact h.transfer rfl rfl id fun _ hx => (List.mem_filter.mp hx).1
  | listen => exact h.transfer rfl rfl id fun _ hx => hx
  | move _ => exact h.perform now _
  | wait ticks => exact h

theorem Sourced.drainUpTo (bound : Nat) : ∀ {now : Nat} {d : Detector},
    Sourced client options d → Sourced client options (Detector.drainUpTo bound now d).2 := by
  induction bound with
  | zero => exact fun h => h
  | succ bound ih =>
    intro now d h
    rw [Detector.drainUpTo]
    split
    · exact ih (h.perform _ _)
    · exact h

theorem Sourced.shutdown (h : Sourced client options d) (now : Nat) :
    Sourced client options (d.shutdown now).2 :=
  Sourced.drainUpTo _ (h.transfer rfl rfl (fun hm => (List.mem_filter.mp hm).1) fun _ hx => hx)

end Sourced

/-! ## States of a detector -/

section Visited

variable {client : Client} {options : Options} {now now' : Nat} {d d' : Detector}

theorem Visited.sourced (h : Visited client options now d) : Sourced client options d := by
  induction h with
  | new => exact ⟨rfl, rfl, nofun, nofun⟩
  | step _ hs ih => exact ih.step hs
  | shutdown _ ih => exact ih.shutdown _

theorem Reachable.visited (h : Reachable client options now d) : Visited client options now d := by
  induction h with
  | new => exact .new _
  | step _ hs ih => exact ih.step hs

theorem Visited.run (h : Visited client options now d) (r : Run (now, d) (now', d')) :
    Visited client options now' d' := by
  suffices ∀ s : Nat × Detector, Run (now, d) s → Visited client options s.1 s.2 from this _ r
  intro s r
  induction r with
  | refl => exact h
  | tail _ hs ih => exact ih.step hs

/-- What a look-up finds and what blocks is a reply of the client to the text. -/
theorem Visited.replied (h : Visited client options now d) {text : String} {v : Verdict}
    (hv : (d.lookup now text).1 = some v) (hblocked : v.allowed = false) :
    Replied client options text v := by
  unfold Detector.lookup at hv
  split at hv
  · cases hv
  · rename_i e he
    split at hv
    · cases hv
    · cases hv
      rcases h.sourced.cached (Detector.mem_of_lookup_eq_some he) with hallowed | hreplied
      · rw [hblocked] at hallowed
        cases hallowed
      · exact hreplied

end Visited
end Guardrail.Moderation
