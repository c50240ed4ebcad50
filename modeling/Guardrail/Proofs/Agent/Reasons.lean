import Guardrail.Proofs.Agent.Course
import Guardrail.Proofs.Moderation.OutputMode
import Guardrail.Proofs.Moderation.Replies

/-! # Reasons of blocked results

A result that is blocked carries a reason if it is made by `Verdict.block`, and all checks make
theirs so but one: the output filter hands on what the client of its detector has replied, and the
report of a run that it stops takes the reason from there. -/

namespace Guardrail

open Moderation

/-- Blocked without a reason. -/
def Verdict.Mute (v : Verdict) : Prop := v.allowed = false ∧ v.reason = ""

theorem Verdict.not_mute_block (reason : String) (signals : List String) :
    ¬ (Verdict.block reason signals).Mute := fun h => Verdict.reason_block_ne reason signals h.2

theorem Verdict.not_mute_of_allowed {v : Verdict} (h : v.allowed = true) : ¬ v.Mute := by
  rintro ⟨hblocked, -⟩
  rw [h] at hblocked
  cases hblocked

theorem Verdict.eq_of_blocked {v : Verdict} (h : v.allowed = false) :
    v = ⟨false, v.reason, v.signals⟩ := by rw [← h]

/-! ## Prompts -/

theorem Filter.checkPrompt_not_mute (prompt : String) (keywords : List String) :
    ¬ (Filter.checkPrompt prompt keywords).Mute := by
  unfold Filter.checkPrompt
  split
  · exact Verdict.not_mute_block _ _
  · split
    · exact Verdict.not_mute_block _ _
    · exact Verdict.not_mute_of_allowed rfl

theorem Store.evaluatePrompt_not_mute (s : Store) (tenant prompt : String) :
    ¬ (s.evaluatePrompt tenant prompt).Mute := by
  unfold Store.evaluatePrompt
  split
  · exact Verdict.not_mute_block _ _
  · exact Verdict.not_mute_of_allowed rfl

/-! ## Outputs -/

namespace Firewall

variable {client : Client} {options : Options} {now now' : Nat} {f : Firewall}

/-- The detector of the firewall, if it has one, asks this client. -/
def Supplied (client : Client) (options : Options) (now : Nat) (f : Firewall) : Prop :=
  ∀ d, f.detector = some d → Visited client options now d

theorem Supplied.run (h : Supplied client options now f) {g : Detector → Detector}
    (hg : ∀ d, Run (now, d) (now', g d)) : Supplied client options now' (f.change g) := by
  intro d hd
  obtain ⟨d', hd', rfl⟩ := Option.map_eq_some_iff.mp hd
  exact (h d' hd').run (hg d')

theorem Moderated.supplied {s : Nat × Firewall} (h : Moderated client options s) :
    s.2.Supplied client options s.1 := by
  obtain ⟨d, hd, hr⟩ := h
  intro d' hd'
  cases hd.symm.trans hd'
  exact hr.visited

theorem Supplied.advance (h : Supplied client options now f) {target : Nat}
    (hle : now ≤ target) : Supplied client options target (f.advance now target) :=
  h.run fun _ => Detector.run_advance hle

theorem Supplied.later (h : Supplied client options now f) (hle : now ≤ now') :
    Supplied client options now' f :=
  fun d hd => (h d hd).run (Detector.run_wait hle)

theorem Supplied.filterOutput (h : Supplied client options now f) (tenant output : String) :
    Supplied client options now (f.filterOutput now tenant output).2 := by
  unfold Firewall.filterOutput
  dsimp only
  split
  · exact h
  · cases hf : f.detector with
    | none => exact h
    | some d =>
      rintro _ ⟨⟩
      exact (h d hf).run (Detector.run_check output)

theorem judge_of_mute {v : Verdict} (h : v.Mute) (mode : OutputMode) : judge mode v = v := by
  simp [judge, h.1]

theorem mute_of_judge {mode : OutputMode} {v : Verdict} (h : (judge mode v).Mute) :
    judge mode v = v := by
  by_cases hp : v.allowed = true ∧ v.reason = pendingReason
  · rw [judge_of_pending hp] at h
    cases mode with
    | mark => exact absurd h (Verdict.not_mute_of_allowed rfl)
    | block => exact absurd h (Verdict.not_mute_block _ _)
  · rw [judge_of_not_pending hp] at h ⊢
    cases hv : v.allowed with
    | false => simp
    | true => simp [hv, Verdict.Mute, Verdict.allow] at h

theorem check_eq_of_mute {d : Detector} {text : String} {v : Verdict} (hv : v.Mute) :
    (d.check now text).1 = v ↔ (d.lookup now text).1 = some v := by
  rw [Detector.check_fst]
  cases (d.lookup now text).1 with
  | none =>
    simp only [Option.getD_none, reduceCtorEq, iff_false]
    rintro rfl
    exact Verdict.not_mute_of_allowed rfl hv
  | some w => simp

/-- The output filter answers a block without a reason exactly if it finds that in the cache. -/
theorem filterOutput_eq_of_mute {tenant output : String} {v : Verdict} (hv : v.Mute) :
    (f.filterOutput now tenant output).1 = v ↔
      (Filter.scanLeaks output (f.store.sensitiveTerms tenant)).hit = false ∧
        ∃ d, f.detector = some d ∧ (d.lookup now output).1 = some v := by
  cases hhit : (Filter.scanLeaks output (f.store.sensitiveTerms tenant)).hit with
  | true =>
    simp only [Firewall.filterOutput, hhit, if_true, reduceCtorEq, false_and, iff_false]
    rintro rfl
    exact Verdict.not_mute_block _ _ hv
  | false =>
    cases hf : f.detector with
    | none =>
      simp only [Firewall.filterOutput, hhit, hf, Bool.false_eq_true, if_false, reduceCtorEq,
        false_and, exists_false, and_false, iff_false]
      rintro rfl
      exact Verdict.not_mute_of_allowed rfl hv
    | some d =>
      rw [filterOutput_fst hf, if_neg (by simp [hhit])]
      simp only [true_and, Option.some.injEq, exists_eq_left', ← check_eq_of_mute hv]
      constructor
      · intro h
        have hjudge := mute_of_judge (h ▸ hv)
        exact hjudge.symm.trans h
      · rintro rfl
        exact judge_of_mute hv f.mode

/-- And then it is a reply of the client to the output. -/
theorem Supplied.replied (h : Supplied client options now f) {tenant output : String}
    (hmute : (f.filterOutput now tenant output).1.Mute) :
    Replied client options output (f.filterOutput now tenant output).1 := by
  obtain ⟨-, d, hd, hlookup⟩ := (filterOutput_eq_of_mute hmute).mp rfl
  exact (h d hd).replied hlookup hmute.1

end Firewall

/-! ## Runs -/

namespace Agent

theorem Fault.message_ne (f : Fault) : f.message ≠ "" := by
  have happend (a b : String) (ha : a ≠ "") : a ++ b ≠ "" := by
    simp [ha]
  cases f with
  | executorNotFound tool => exact happend _ _ (by decide)
  | toolFailed text => exact happend _ _ (by decide)
  | _ => decide

namespace Gateway

variable {client : Client} {options : Options} {g g' : Gateway} {ctx : RunContext}
  {req : PlanRequest}

/-- The reason of a stopped run is that of the last screening, if the output filter stopped it, and
else it is not empty. -/
structure Explained (client : Client) (options : Options) (screenings : List Screening)
    (steps : List Step) (stop : Cause) : Prop where
  filtered : stop.fault = .outputFiltered → ∃ s rest before last,
    screenings = s :: rest ∧ steps = before ++ [last] ∧ s.output = last.observation ∧
      s.verdict = ⟨false, stop.reason, stop.signals⟩ ∧
      (stop.reason = "" → Replied client options s.output s.verdict)
  stated : stop.fault ≠ .outputFiltered → stop.reason ≠ ""

/-- The detector of the gateway's firewall, if it has one, asks this client. -/
def Supplied (client : Client) (options : Options) (g : Gateway) : Prop :=
  g.firewall.Supplied client options g.now

theorem Supplied.called {tool : String} {args : Json} {result : Except Fault Json}
    (h : Supplied client options g) (hc : Called g ctx tool args g' result) :
    Supplied client options g' := by
  cases hc with
  | refused => exact h
  | ended => exact Firewall.Supplied.advance h (Nat.le_add_right ..)
  | givenUp => exact Firewall.Supplied.advance h (Nat.le_max_left ..)

theorem Supplied.occupy (h : Supplied client options g) (ticks : Nat) :
    Supplied client options (g.occupy ticks) :=
  Firewall.Supplied.later h (Nat.le_add_right ..)

theorem Supplied.filterOutput (h : Supplied client options g) (tenant output : String) :
    Supplied client options (g.filterOutput tenant output).2 :=
  Firewall.Supplied.filterOutput (h.occupy g.termsDelay) tenant output

theorem Called.fault_ne {tool : String} {args : Json} {f : Fault}
    (h : Called g ctx tool args g' (.error f)) : f ≠ .outputFiltered := by
  rcases h.error with hadm | ⟨text, rfl⟩ | rfl
  · cases hc : g.sandbox.check tool with
    | error f' =>
      simp only [admission, hc] at hadm
      cases hadm
      simp [sandbox_fault hc]
    | ok u => rcases admission_error hadm hc with ⟨rfl, -⟩ | ⟨rfl, -⟩ <;> simp
  · simp
  · simp

theorem refusal?_explained {gate : Gate} {stop : Stop} (h : Gate.refusal? g req gate = some stop)
    (screenings : List Screening) : Explained client options screenings [] stop.toCause := by
  suffices stop.fault ≠ .outputFiltered ∧ stop.reason ≠ "" from
    ⟨fun he => absurd he this.1, fun _ => this.2⟩
  cases gate with
  | prompt =>
    simp only [Gate.refusal?] at h
    split at h
    · cases h
    · rename_i hblocked
      cases h
      refine ⟨by simp, fun hempty => ?_⟩
      exact Filter.checkPrompt_not_mute req.prompt [] ⟨eq_false_of_ne_true hblocked, hempty⟩
  | policy tool =>
    simp only [Gate.refusal?] at h
    split at h
    · cases h
    · cases h
      simp
  | sandbox tool =>
    simp only [Gate.refusal?] at h
    split at h
    · cases h
    · rename_i hf
      cases h
      cases sandbox_fault hf
      simp

theorem Course.explained {limit index : Nat} {tools : List String} {steps : List Step}
    {stop : Option Stop} (h : Course ctx req limit index tools g g' steps stop)
    (hs : Supplied client options g) :
    ∀ st, stop = some st → Explained client options g'.screenings steps st.toCause := by
  induction h with
  | limited | finished | named => exact nofun
  | late =>
    rintro _ ⟨⟩
    have hstated : "timeout" ≠ "" := by decide
    exact ⟨nofun, fun _ => hstated⟩
  | @failed _ _ _ _ _ f _ hcall =>
    rintro _ ⟨⟩
    exact ⟨fun he => absurd he hcall.fault_ne, fun _ => f.message_ne⟩
  | @filtered _ _ _ _ g₁ v _ _ hcall hblocked =>
    rintro _ ⟨⟩
    have hsupplied := (hs.called hcall).occupy g₁.termsDelay
    have hscreenings : (g₁.filterOutput req.tenant (observed v)).2.screenings =
      ⟨req.tenant, observed v, (g₁.filterOutput req.tenant (observed v)).1⟩ :: g₁.screenings := rfl
    have hverdict := Verdict.eq_of_blocked hblocked
    refine ⟨fun _ => ⟨_, _, [], _, hscreenings, rfl, rfl, hverdict, fun hempty => ?_⟩, nofun⟩
    exact hsupplied.replied ⟨hblocked, hempty⟩
  | passed _ _ hcall _ _ ih =>
    intro st hst
    obtain ⟨hfiltered, hstated⟩ := ih ((hs.called hcall).filterOutput _ _) st hst
    refine ⟨fun he => ?_, hstated⟩
    obtain ⟨s, rest, before, last, hscreenings, rfl, houtput, hverdict, hreplied⟩ := hfiltered he
    exact ⟨s, rest, _ :: before, last, hscreenings, rfl, houtput, hverdict, hreplied⟩

theorem Ran.explained {steps : List Step} {stop : Option Stop} (h : Ran g req g' steps stop)
    (hs : Supplied client options g) :
    ∀ st, stop = some st → Explained client options g'.screenings steps st.toCause := by
  cases h with
  | refused ticks hstop =>
    rintro _ ⟨⟩
    obtain ⟨gate, -, hgate⟩ := List.exists_of_findSome?_eq_some hstop
    exact refusal?_explained hgate _
  | stepped ticks _ hcourse => exact hcourse.explained (hs.occupy ticks)

theorem plan_explained (hs : Supplied client options g) {e : PlanError}
    (h : (g.plan req).2 = .error e) :
    Explained client options (g.plan req).1.screenings e.report.steps
      ⟨e.fault, e.report.reason, e.report.signals⟩ := by
  obtain ⟨g', steps, stop, hran, hplan⟩ := plan_ran g req
  rw [hplan] at h ⊢
  cases stop with
  | none => cases h
  | some st =>
    cases h
    exact hran.explained hs st rfl

theorem decide_not_mute (g : Gateway) (tenant prompt : String) (tools : List String) :
    ¬ (g.decide tenant prompt tools).2.1.Mute := by
  unfold decide
  split
  · exact Verdict.not_mute_of_allowed rfl
  · exact Verdict.not_mute_block _ _

/-- With a client that gives a reason whenever it blocks, every blocked result carries one. -/
theorem reasoned_of_client (hclient : ∀ text v, Replied client options text v → ¬ v.Mute) :
    (∀ (f : Firewall) now, f.Supplied client options now → ∀ tenant output,
      ¬ (f.filterOutput now tenant output).1.Mute) ∧
    (∀ (g : Gateway), Supplied client options g → ∀ req e, (g.plan req).2 = .error e →
      e.report.reason ≠ "") := by
  refine ⟨fun f now hs tenant output hmute => hclient _ _ (hs.replied hmute) hmute, ?_⟩
  intro g hs req e h hempty
  obtain ⟨hfiltered, hstated⟩ := plan_explained hs h
  obtain ⟨s, -, -, -, -, -, -, hverdict, hreplied⟩ :=
    hfiltered (by_contra fun hne => hstated hne hempty)
  refine hclient _ _ (hreplied hempty) ?_
  rw [hverdict]
  exact ⟨rfl, hempty⟩

/-- **Only a client can block without a reason.** Blocked results of prompt checks and of single
decisions carry one. An output is blocked without a reason exactly if it is clean and that is the
verdict cached for it, and then the client has replied so to this output. Runs that the output
filter stops report what it answered, and all others report a reason. -/
theorem mute_only_from_client (client : Client) (options : Options) :
    (∀ prompt keywords, ¬ (Filter.checkPrompt prompt keywords).Mute) ∧
    (∀ (s : Store) tenant prompt, ¬ (s.evaluatePrompt tenant prompt).Mute) ∧
    (∀ (g : Gateway) tenant prompt tools, ¬ (g.decide tenant prompt tools).2.1.Mute) ∧
    (∀ (f : Firewall) now, f.Supplied client options now → ∀ tenant output v, v.Mute →
      ((f.filterOutput now tenant output).1 = v ↔
        (Filter.scanLeaks output (f.store.sensitiveTerms tenant)).hit = false ∧
          ∃ d, f.detector = some d ∧ (d.lookup now output).1 = some v) ∧
      ((f.filterOutput now tenant output).1 = v → Replied client options output v)) ∧
    (∀ (g : Gateway), Supplied client options g → ∀ req e, (g.plan req).2 = .error e →
      Explained client options (g.plan req).1.screenings e.report.steps
        ⟨e.fault, e.report.reason, e.report.signals⟩) := by
  refine ⟨Filter.checkPrompt_not_mute, Store.evaluatePrompt_not_mute, decide_not_mute,
    fun f now hs tenant output v hv => ⟨Firewall.filterOutput_eq_of_mute hv, ?_⟩,
    fun g hs req e h => plan_explained hs h⟩
  rintro rfl
  exact hs.replied hv

/-- A client that lets nothing through and does not say why. -/
def curtClient : Client := fun _ _ => ⟨0, some ⟨false, "", []⟩⟩

/-- An observation is put to the output filter and judged. -/
def hearing : List Firewall.Act :=
  [.filter "acme" "Result: null", .start 1, .move (.take 0), .move (.acquire 0), .move (.begin 0),
    .move (.finish 0)]

/-- A gateway whose only tool answers what the client has judged before. -/
def curt : Gateway where
  firewall := (Firewall.run (0, .new {} (some (.new curtClient { rate := 0 })) .mark) hearing).2
  registry := ({} : Registry).register
    { name := "search", behave := fun _ => ⟨0, .value .null, none⟩ }

def curtRequest : PlanRequest where
  tenant := "acme"
  prompt := "look it up"
  tools := ["search"]

theorem curt_supplied : Supplied curtClient { rate := 0 } curt :=
  Firewall.Moderated.supplied (Firewall.Moderated.run ⟨_, rfl, .new 0⟩ hearing)

theorem curt_reply_handed_on :
    Supplied curtClient { rate := 0 } curt ∧
      (curt.firewall.filterOutput 0 "acme" "Result: null").1 = ⟨false, "", []⟩ ∧
      Replied curtClient { rate := 0 } "Result: null" ⟨false, "", []⟩ := by
  obtain ⟨-, -, -, hfilter, -⟩ := mute_only_from_client curtClient { rate := 0 }
  have hblocked : (curt.firewall.filterOutput 0 "acme" "Result: null").1 = ⟨false, "", []⟩ := by
    decide +kernel
  obtain ⟨-, hreplied⟩ := hfilter curt.firewall 0 curt_supplied "acme" "Result: null"
    ⟨false, "", []⟩ ⟨rfl, rfl⟩
  exact ⟨curt_supplied, hblocked, hreplied hblocked⟩

/-- What stopped a run, and the verdict of its answer. -/
def stoppedBy? : Except PlanError PlanReport → Option (Fault × Bool × String)
  | .ok _ => none
  | .error e => some (e.fault, e.report.allowed, e.report.reason)

/-- The output filter and the run that it stops block without a reason. -/
theorem curt_blocks_without_reason :
    (curt.firewall.filterOutput 0 "acme" "Result: null").1.Mute ∧
      ∃ e, (curt.plan curtRequest).2 = .error e ∧ e.fault = .outputFiltered ∧
        e.report.allowed = false ∧ e.report.reason = "" := by
  have hstopped : stoppedBy? (curt.plan curtRequest).2 = some (.outputFiltered, false, "") := by
    decide +kernel
  refine ⟨⟨by decide +kernel, by decide +kernel⟩, ?_⟩
  cases h : (curt.plan curtRequest).2 with
  | ok report =>
    rw [h] at hstopped
    cases hstopped
  | error e =>
    rw [h] at hstopped
    obtain ⟨hfault, hallowed, hreason⟩ : e.fault = .outputFiltered ∧ e.report.allowed = false ∧
        e.report.reason = "" := by simpa [stoppedBy?] using hstopped
    exact ⟨e, rfl, hfault, hallowed, hreason⟩

end Gateway
end Agent
end Guardrail
