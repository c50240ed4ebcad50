import Guardrail.Proofs.Moderation.Interleaving
import Mathlib.Tactic.Tauto

/-! # What a check answers

The journal decides: a check answers the verdict that was stored last for its text for as long as
that is fresh. The cache is filled by workers in any order and emptied by look-ups and sweeps, but
every entry is the last one stored for its text, and a fresh one is never lost (`Faithful`). -/

namespace Guardrail.Moderation

def Event.storedFor? (text : String) : Event → Option (Nat × Verdict)
  | .stored job tick v => if job.text = text then some (tick, v) else none
  | _ => none

namespace Detector

variable {d d' : Detector} {now now' : Nat}

/-- When a verdict was last stored for exactly this text, and which. -/
def lastStored (d : Detector) (text : String) : Option (Nat × Verdict) :=
  d.journal.findSome? (Event.storedFor? text)

/-- The cache holds what was stored last, and all of it that is fresh. -/
structure Faithful (now : Nat) (d : Detector) : Prop where
  last : ∀ text e, (text, e) ∈ d.cache →
    ∃ s v, d.lastStored text = some (s, v) ∧ e = ⟨v, s + d.options.cacheTtl⟩
  kept : ∀ text s v, d.lastStored text = some (s, v) → now < s + d.options.cacheTtl →
    (text, ⟨v, s + d.options.cacheTtl⟩) ∈ d.cache

/-- Only entries that have expired may get lost, as long as nothing is stored. -/
theorem Faithful.transfer (h : Faithful now d) (hn : now ≤ now') (ho : d'.options = d.options)
    (hl : ∀ text, d'.lastStored text = d.lastStored text)
    (hsub : ∀ x ∈ d'.cache, x ∈ d.cache)
    (hkeep : ∀ x ∈ d.cache, x ∈ d'.cache ∨ x.2.expired now' = true) : Faithful now' d' := by
  constructor
  · intro text e he
    rw [hl, ho]
    exact h.last text e (hsub _ he)
  · intro text s v hs hfresh
    rw [hl] at hs
    rw [ho] at hfresh ⊢
    rcases hkeep _ (h.kept text s v hs (Nat.lt_of_le_of_lt hn hfresh)) with hm | he
    · exact hm
    · have : s + d.options.cacheTtl ≤ now' := by simpa [Entry.expired] using he
      omega

theorem Faithful.same (h : Faithful now d) (ho : d'.options = d.options) (hc : d'.cache = d.cache)
    (hl : ∀ text, d'.lastStored text = d.lastStored text) : Faithful now d' :=
  h.transfer (Nat.le_refl _) ho hl (fun _ hx => hc ▸ hx) (fun _ hx => .inl (hc ▸ hx))

theorem Faithful.eq_of_mem (h : Faithful now d) {text : String} {e e' : Entry}
    (he : (text, e) ∈ d.cache) (he' : (text, e') ∈ d.cache) : e = e' := by
  obtain ⟨s, v, hs, rfl⟩ := h.last text e he
  obtain ⟨s', v', hs', rfl⟩ := h.last text e' he'
  cases hs.symm.trans hs'
  rfl

theorem mem_of_lookup_eq_some {cache : List (String × Entry)} {text : String} {e : Entry}
    (h : cache.lookup text = some e) : (text, e) ∈ cache := by
  obtain ⟨before, after, rfl, -⟩ := List.lookup_eq_some_iff.mp h
  simp

theorem lookup_faithful (h : Faithful now d) (text : String) :
    Faithful now (d.lookup now text).2 := by
  unfold lookup
  split
  · exact h
  · rename_i e he
    split
    · rename_i hx
      refine h.transfer (Nat.le_refl _) rfl (fun _ => rfl)
        (fun x hm => (List.mem_filter.mp hm).1) ?_
      intro ⟨text', e'⟩ hm
      by_cases ht : text' = text
      · subst ht
        exact .inr (h.eq_of_mem (mem_of_lookup_eq_some he) hm ▸ hx)
      · exact .inl (List.mem_filter.mpr ⟨hm, by simpa using ht⟩)
    · exact h

theorem sweep_faithful (h : Faithful now d) : Faithful now (d.sweep now) := by
  refine h.transfer (Nat.le_refl _) rfl (fun _ => rfl) (fun x hm => (List.mem_filter.mp hm).1) ?_
  intro x hm
  by_cases hx : x.2.expired now = true
  · exact .inr hx
  · exact .inl (List.mem_filter.mpr ⟨hm, by simpa using hx⟩)

theorem store_faithful (h : Faithful now d) (job : Job) (v : Verdict) :
    Faithful now (d.store now job v) := by
  have hsame : (d.store now job v).lastStored job.text = some (now, v) := by
    simp [lastStored, store, record, Event.storedFor?]
  have hother {text : String} (ht : text ≠ job.text) :
      (d.store now job v).lastStored text = d.lastStored text := by
    simp [lastStored, store, record, Event.storedFor?, Ne.symm ht]
  constructor
  · intro text e he
    rcases List.mem_cons.mp he with he | he
    · obtain ⟨rfl, rfl⟩ := Prod.mk.inj he
      exact ⟨now, v, hsame, rfl⟩
    · obtain ⟨hm, ht⟩ := List.mem_filter.mp he
      rw [hother (by simpa using ht)]
      exact h.last text e hm
  · intro text s w hs hfresh
    by_cases ht : text = job.text
    · subst ht
      cases hsame.symm.trans hs
      exact List.mem_cons_self ..
    · rw [hother ht] at hs
      exact List.mem_cons_of_mem _
        (List.mem_filter.mpr ⟨h.kept text s w hs hfresh, by simpa using ht⟩)

theorem Moved.faithful {m : Move} (hm : Moved now d m d') (h : Faithful now d) :
    Faithful now d' := by
  cases hm with
  | take | acquire | begin => exact h.same rfl rfl fun _ => rfl
  | @finish _ _ job _ _ v => exact (store_faithful h job v).same rfl rfl fun _ => rfl
  | report =>
    refine h.same rfl rfl fun text => ?_
    dsimp only [lastStored]
    split <;> rfl
  | tick => exact (sweep_faithful h).same rfl rfl fun _ => rfl

/-- What callers do and the passing of time keep it in any case. -/
theorem Faithful.step (h : Faithful now d) (hs : Step (now, d) (now', d'))
    (hmove : ∀ {m}, (now, m) ∈ d.moves now → Faithful now (d.perform now m)) :
    Faithful now' d' := by
  cases hs with
  | lookup text => exact lookup_faithful h text
  | enqueue text =>
    rcases Nat.lt_or_ge d.queue.length d.capacity with hlt | hle
    · rw [enqueue_of_lt hlt text]
      exact h.same rfl rfl fun _ => rfl
    · rw [enqueue_of_le hle text]
      exact h.same rfl rfl fun _ => rfl
  | start workers =>
    unfold start
    split
    · exact h
    · exact h.same rfl rfl fun _ => rfl
  | startSweeper interval =>
    obtain ⟨sweepers, he⟩ := d.startSweeper_frame now interval
    rw [he]
    exact h.same rfl rfl fun _ => rfl
  | sweep => exact sweep_faithful h
  | listen => exact h.same rfl rfl fun _ => rfl
  | move due => exact hmove due
  | wait ticks =>
    exact h.transfer (Nat.le_add_right ..) rfl (fun _ => rfl) (fun _ hx => hx)
      (fun _ hx => .inl hx)

/-- A look-up finds what was stored last, if that is fresh. -/
theorem Faithful.lookup_fst (h : Faithful now d) (text : String) :
    (d.lookup now text).1 = (d.lastStored text).bind fun (s, v) =>
      if now < s + d.options.cacheTtl then some v else none := by
  unfold lookup
  cases hc : d.cache.lookup text with
  | none =>
    cases hs : d.lastStored text with
    | none => rfl
    | some p =>
      obtain ⟨s, v⟩ := p
      have hstale : ¬ now < s + d.options.cacheTtl := fun hfresh => by
        have := List.lookup_eq_none_iff.mp hc _ (h.kept text s v hs hfresh)
        simp at this
      simp [hstale]
  | some e =>
    obtain ⟨s, v, hs, rfl⟩ := h.last text e (mem_of_lookup_eq_some hc)
    by_cases hfresh : now < s + d.options.cacheTtl
    · have : ¬ s + d.options.cacheTtl ≤ now := by omega
      simp [hs, hfresh, Entry.expired, this]
    · have : s + d.options.cacheTtl ≤ now := by omega
      simp [hs, hfresh, Entry.expired, this]

theorem check_fst (d : Detector) (now : Nat) (text : String) :
    (d.check now text).1 = (d.lookup now text).1.getD (.allowWith pendingReason []) := by
  unfold check
  split <;> rename_i h <;> rw [h] <;> rfl

theorem Faithful.check_fst (h : Faithful now d) (text : String) :
    (d.check now text).1 = match d.lastStored text with
      | some (s, v) =>
        if now < s + d.options.cacheTtl then v else .allowWith "llm_pending" []
      | none => .allowWith "llm_pending" [] := by
  rw [Detector.check_fst, h.lookup_fst]
  cases d.lastStored text with
  | none => rfl
  | some p =>
    obtain ⟨s, v⟩ := p
    by_cases hfresh : now < s + d.options.cacheTtl <;> simp [hfresh, pendingReason]

end Detector

section Reachable

variable {client : Client} {options : Options} {now : Nat} {d : Detector}

theorem Reachable.faithful (h : Reachable client options now d) : d.Faithful now := by
  induction h with
  | new => exact ⟨by simp [Detector.new], by simp [Detector.new, Detector.lastStored]⟩
  | step hr hs hf => exact hf.step hs fun due => (hr.moved due).faithful hf

/-! ## Where stored verdicts come from -/

/-- Calls in progress and stored verdicts go back to a call of the client that began for their job;
a verdict is stored when the call has ended or its time is over. -/
structure Backed (client : Client) (options : Options) (d : Detector) : Prop where
  calling : ∀ {job began call}, .calling job began call ∈ d.workers →
    ∃ number, .began job number began ∈ d.journal ∧ call = client number job.text
  stored : ∀ {job s v}, .stored job s v ∈ d.journal →
    ∃ number began, .began job number began ∈ d.journal ∧
      began + min (client number job.text).duration options.callTimeout ≤ s ∧
      v = Detector.settle options.callTimeout (client number job.text)

/-- Calls and events that are new are all that has to be looked at. -/
theorem Backed.grow {d' : Detector} (h : Backed client options d) (es : List Event)
    (hj : d'.journal = es ++ d.journal)
    (hcalling : ∀ {job began call}, .calling job began call ∈ d'.workers →
      .calling job began call ∈ d.workers ∨
        ∃ number, .began job number began ∈ d'.journal ∧ call = client number job.text)
    (hstored : ∀ {job s v}, .stored job s v ∈ es →
      ∃ number began, .began job number began ∈ d'.journal ∧
        began + min (client number job.text).duration options.callTimeout ≤ s ∧
        v = Detector.settle options.callTimeout (client number job.text)) :
    Backed client options d' := by
  have hold {e : Event} (he : e ∈ d.journal) : e ∈ d'.journal := hj ▸ List.mem_append_right _ he
  constructor
  · intro job began call hm
    rcases hcalling hm with hm | hnew
    · obtain ⟨number, hb, hc⟩ := h.calling hm
      exact ⟨number, hold hb, hc⟩
    · exact hnew
  · intro job s v hm
    rcases List.mem_append.mp (hj ▸ hm) with he | hm
    · exact hstored he
    · obtain ⟨number, began, hb, hc⟩ := h.stored hm
      exact ⟨number, began, hold hb, hc⟩

theorem mem_of_mem_around {α : Type} {front back : List α} {a b x : α}
    (h : x ∈ front ++ b :: back) (hne : x ≠ b) : x ∈ front ++ a :: back := by
  simp only [List.mem_append, List.mem_cons] at h ⊢
  tauto

theorem Backed.moved {m : Detector.Move} {d' : Detector} (h : Backed client options d)
    (hf : Fixed client options d) (hm : Detector.Moved now d m d') : Backed client options d' := by
  obtain ⟨rfl, rfl, -⟩ := hf
  cases hm with
  | @take _ _ job _ _ hw =>
    exact h.grow [.taken job] rfl (fun hm => .inl (hw ▸ mem_of_mem_around hm nofun)) nofun
  | @acquire _ _ job slot _ hw _ =>
    exact h.grow [.acquired job now slot] rfl
      (fun hm => .inl (hw ▸ mem_of_mem_around hm nofun)) nofun
  | @begin front back job _ hw _ =>
    refine h.grow [.began job d.calls now] rfl (fun {job' began call} hm => ?_) nofun
    by_cases he : Worker.calling job' began call = .calling job now (d.client d.calls job.text)
    · cases he
      exact .inr ⟨_, List.mem_cons_self .., rfl⟩
    · exact .inl (hw ▸ mem_of_mem_around hm he)
  | @finish _ _ job began call v hw hend hv =>
    refine h.grow [.stored job now v] rfl
      (fun hm => .inl (hw ▸ mem_of_mem_around hm nofun)) fun he => ?_
    have hcall : .calling job began call ∈ d.workers := hw ▸ by simp
    obtain ⟨number, hb, hc⟩ := h.calling hcall
    cases List.mem_singleton.mp he
    exact ⟨number, began, List.mem_cons_of_mem _ hb, hc ▸ hend, hc ▸ hv⟩
  | report hw =>
    refine h.grow _ rfl (fun hm => .inl (hw ▸ mem_of_mem_around hm nofun)) fun he => ?_
    split at he <;> simp at he
  | tick => exact ⟨h.calling, h.stored⟩

theorem Backed.stepped {d' : Detector} (h : Backed client options d)
    (hf : Fixed client options d) (hs : Detector.Stepped now d d') : Backed client options d' := by
  cases hs with
  | beside => exact ⟨h.calling, h.stored⟩
  | accept | drop => exact h.grow [_] rfl .inl nofun
  | start workers =>
    refine h.grow [] rfl (fun hm => .inl ?_) nofun
    rcases List.mem_append.mp hm with hm | hm
    · exact hm
    · cases List.eq_of_mem_replicate hm
  | moved hm => exact h.moved hf hm

theorem Reachable.backed (h : Reachable client options now d) : Backed client options d := by
  induction h with
  | new => exact ⟨nofun, nofun⟩
  | step hr hs hb => exact hb.stepped hr.fixed (hr.stepped hs)

/-- **A check answers what was stored last for its text, as long as that is fresh.** And what was
stored for a job is the reply of the client's call for it, if that came in time. -/
theorem check_answers_last_stored (h : Reachable client options now d) (text : String) :
    (d.check now text).1 = (match d.lastStored text with
      | some (s, v) =>
        if now < s + options.cacheTtl then v else .allowWith "llm_pending" []
      | none => .allowWith "llm_pending" []) ∧
    ∀ job s v, .stored job s v ∈ d.journal → ∃ number began,
      .began job number began ∈ d.journal ∧
      began + min (client number job.text).duration options.callTimeout ≤ s ∧
      v = match (client number job.text).outcome with
        | some reply =>
          if (client number job.text).duration ≤ options.callTimeout then reply
          else .allowWith "llm_error" []
        | none => .allowWith "llm_error" [] := by
  refine ⟨?_, fun job s v hm => h.backed.stored hm⟩
  rw [h.faithful.check_fst, h.fixed.options]

/-- A client that takes a while and lets nothing through. -/
def strictClient : Client := fun _ text => ⟨30, some (.block "harmful" [text])⟩

/-- A text has been checked, and a worker has had the time to judge it. -/
def judged : Detector :=
  ((Detector.new strictClient { rate := 0 }).check 0 "hi").2.start 1 |>.advance 0 50

theorem judged_reachable : Reachable strictClient { rate := 0 } 50 judged :=
  (Reachable.new 0).run
    (((Detector.run_check "hi").tail (.start 1)).trans (Detector.run_advance (by decide)))

theorem judged_check : Reachable strictClient { rate := 0 } 50 judged ∧
    (judged.check 50 "hi").1 = .block "harmful" ["hi"] ∧
    (judged.check 50 "ho").1 = .allowWith "llm_pending" [] := by
  refine ⟨judged_reachable, ?_, ?_⟩
  · rw [(check_answers_last_stored judged_reachable "hi").1]
    decide +kernel
  · rw [(check_answers_last_stored judged_reachable "ho").1]
    decide +kernel

end Reachable
end Guardrail.Moderation
