import Guardrail.Proofs.Agent.PromptRules
import Guardrail.Proofs.Agent.Trace
import Guardrail.Proofs.Json.Escaped
import Guardrail.Proofs.Terms

/-! # Sensitive terms in what tools answer

The output filter does not see what a tool answers but the text of it. So it stops every run in
which a tool answers with a sensitive term only as long as the term survives its escaping there; for
any other ASCII term there is an answer in which it is missed. -/

namespace Guardrail.Agent.Gateway

variable {g g' : Gateway} {ctx : RunContext} {req : PlanRequest} {limit index : Nat}
  {tools : List String} {steps : List Step} {stop : Option Stop}

/-! ## Runs that complete -/

theorem clean_of_allowed {tenant output : String}
    (h : (g.filterOutput tenant output).1.allowed = true) :
    (Filter.scanLeaks output (g.firewall.store.sensitiveTerms tenant)).hit = false := by
  by_contra hhit
  have hblocked : (g.filterOutput tenant output).1.allowed = false := by
    simp only [filterOutput, Firewall.filterOutput, occupy, eq_true_of_ne_false hhit, if_true]
    rfl
  rw [h] at hblocked
  cases hblocked

/-- The tool of the start has answered, with a value in whose text no sensitive data is found. -/
def CleanAnswer (g : Gateway) (tenant : String) (s : Start) : Prop :=
  ∃ v, s.Answers g.registry v ∧
    (Filter.scanLeaks (observed v) (g.firewall.store.sensitiveTerms tenant)).hit = false

/-- All tools of steps that come to their end have given clean answers. -/
theorem Course.clean (h : Course ctx req limit index tools g g' steps stop) (hstop : stop = none)
    (hfin : finishAction ∉ tools) :
    ∃ starts, g'.starts = g.starts ++ starts ∧ ∀ s ∈ starts, CleanAnswer g req.tenant s := by
  induction h with
  | limited | finished => exact ⟨[], by simp, by simp⟩
  | late | failed | filtered => cases hstop
  | named => simp at hfin
  | @passed index tool rest g g₁ g' v _ _ _ _ hcall hallowed _ ih =>
    obtain ⟨hregistry, -, -, -, hstore, -⟩ := hcall.frame
    obtain ⟨starts, hstarts, hclean⟩ := ih hstop fun hmem => hfin (List.mem_cons_of_mem _ hmem)
    obtain ⟨hanswers, hfirst, -⟩ := hcall.ok
    refine ⟨⟨ctx.run, tool, toolArguments req index⟩ :: starts, ?_, ?_⟩
    · rw [hstarts, starts_filterOutput, hfirst, List.append_assoc]
      rfl
    · intro s hs
      rcases List.mem_cons.mp hs with rfl | hs
      · exact ⟨v, hanswers, hstore ▸ clean_of_allowed hallowed⟩
      · obtain ⟨w, hlater, hhit⟩ := hclean s hs
        rw [filterOutput_store, hstore] at hhit
        exact ⟨w, hregistry ▸ hlater, hhit⟩

theorem plan_error_or_clean (g : Gateway) (req : PlanRequest) (hfin : finishAction ∉ req.tools) :
    ∃ starts, (g.plan req).1.starts = g.starts ++ starts ∧
      ((∃ e, (g.plan req).2 = .error e) ∨ ∀ s ∈ starts, CleanAnswer g req.tenant s) := by
  obtain ⟨g', steps, stop, hran, hplan⟩ := plan_ran g req
  have hrecord : (g.plan req).1.starts = g'.starts := by
    rw [hplan]
    exact starts_cancelRun ..
  cases stop with
  | some st => exact ⟨_, hrecord.trans (hran.traced hfin).starts_eq, .inl ⟨_, by rw [hplan]; rfl⟩⟩
  | none =>
    generalize hnone : (none : Option Stop) = stop at hran
    cases hran with
    | refused => cases hnone
    | stepped _ _ hcourse =>
      obtain ⟨starts, hstarts, hclean⟩ := hcourse.clean hnone.symm hfin
      exact ⟨starts, hrecord.trans hstarts, .inr hclean⟩

/-! ## Terms in an answer -/

variable {term : String}

theorem observed_mentions {v : Json} (h : Text.IsAscii term.toList) (hs : Json.Survives term)
    (hv : v.Holds term) : Text.mentions (observed v) term = true := by
  apply Json.mentions_of_holds h hs hv
  rw [observed, String.toList_append]
  exact (List.suffix_append _ _).isInfix

/-- The string with the term between two letters that are not ASCII. -/
def wrapped (term : String) : String := String.ofList ('é' :: (term.toList ++ ['é']))

theorem holds_wrapped {v : Json} (h : wrapped term ∈ v.texts) : v.Holds term := by
  refine ⟨_, h, List.IsInfix.map _ ?_⟩
  exact ⟨['é'], ['é'], by simp [wrapped]⟩

theorem quoted_wrapped (term : String) : (Json.quoted (wrapped term)).toList =
    '"' :: 'é' :: (term.toList.flatMap Json.escaped ++ ['é', '"']) := by
  have hletter : Json.escaped 'é' = ['é'] := by decide
  simp [Json.quoted, wrapped, hletter]

/-- A term that does not survive is not mentioned if it stands between such letters, in a string by
itself or in the string of an array. -/
theorem exists_not_observed (h : Text.IsAscii term.toList) (hs : ¬ Json.Survives term) :
    ∃ v : Json, v.Holds term ∧ Text.mentions (observed v) term = false := by
  -- Without a bracket, all that stands before or after the string in an array survives.
  have hsurvives {part : List Char} (hin : term.toList.map Char.toLower <:+: part)
      (hall : ∀ cs ∈ part.tails.flatMap List.inits, '[' ∉ cs → cs <:+: cs.flatMap Json.escaped) :
      '[' ∈ term.toList.map Char.toLower := by
    by_contra hbracket
    obtain ⟨t, hprefix, hsuffix⟩ := List.infix_iff_prefix_suffix.mp hin
    have hmem := List.mem_flatMap.mpr
      ⟨t, (List.mem_tails _ _).mpr hsuffix, (List.mem_inits _ _).mpr hprefix⟩
    exact hs (hall _ hmem hbracket)
  by_cases hbracket : '[' ∈ term.toList.map Char.toLower
  · refine ⟨.string (wrapped term), holds_wrapped (List.mem_singleton_self _), ?_⟩
    apply Json.not_mentions_between h hs (a := "Result: \"".toList) (c := ['"'])
    · decide
    · decide
    · simp [observed, Json.compact, quoted_wrapped]
    · intro hin
      have := hin.mem hbracket
      revert this
      decide
    · intro hin
      have := hin.mem hbracket
      revert this
      decide
  · refine ⟨.array [.string (wrapped term)], holds_wrapped ?_, ?_⟩
    · simp [Json.texts, Json.itemTexts]
    apply Json.not_mentions_between h hs (a := "Result: [\"".toList) (c := ['"', ']'])
    · decide
    · decide
    · simp [observed, Json.compact, Json.compactItems, quoted_wrapped]
    · intro hin
      exact hbracket (hsurvives hin (by decide +kernel))
    · intro hin
      exact hbracket (hsurvives hin (by decide +kernel))

/-- **A sensitive term is found in all answers of tools exactly if it survives escaping**, as every
term without quotes, backslashes and control characters does. Then no run completes in which a tool
has answered with the term; otherwise there is an answer with the term that is treated as if the
term were on no list. -/
theorem term_found_iff_survives (hne : term ≠ "") (h : Text.IsAscii term.toList) :
    (Json.Survives term ↔ ∀ v : Json, v.Holds term → Caught term (observed v)) ∧
      (Json.Survives term → ∀ (g : Gateway) (req : PlanRequest),
        term ∈ g.firewall.store.sensitiveTerms req.tenant → finishAction ∉ req.tools →
          ∃ starts, (g.plan req).1.starts = g.starts ++ starts ∧ ∀ s ∈ starts, ∀ v,
            s.Answers g.registry v → v.Holds term → ∃ e, (g.plan req).2 = .error e) ∧
      (¬ Json.Survives term → ∃ v : Json, v.Holds term ∧ Missed term (observed v)) ∧
      ((∀ c ∈ term.toList, c ≠ '"' ∧ c ≠ '\\' ∧ 32 ≤ c.toNat) → Json.Survives term) := by
  refine ⟨⟨fun hs v hv => caught_of_mentions hne (observed_mentions h hs hv), fun hall => ?_⟩,
    fun hs g req hterm hfin => ?_, fun hs => ?_, Json.survives_of_plain⟩
  · by_contra hs
    obtain ⟨v, hv, hm⟩ := exists_not_observed h hs
    rw [mentions_of_caught (hall v hv)] at hm
    cases hm
  · obtain ⟨starts, hstarts, hend⟩ := plan_error_or_clean g req hfin
    refine ⟨starts, hstarts, fun s hmem v hanswers hv => ?_⟩
    rcases hend with herror | hclean
    · exact herror
    · obtain ⟨w, hanswers', hhit⟩ := hclean s hmem
      cases hanswers.unique hanswers'
      rw [Filter.scanLeaks_hit_of_mem hne (observed_mentions h hs hv) hterm] at hhit
      cases hhit
  · obtain ⟨v, hv, hm⟩ := exists_not_observed h hs
    exact ⟨v, hv, missed_of_not_mentions hm⟩

/-- A term with a blank is found in every answer, one with a quote at its end is missed in some. -/
theorem plain_found_quoted_missed :
    ("project falcon" ≠ "" ∧ Text.IsAscii "project falcon".toList ∧
      ∀ v : Json, v.Holds "project falcon" → Caught "project falcon" (observed v)) ∧
    ("falcon\"" ≠ "" ∧ Text.IsAscii "falcon\"".toList ∧
      ∃ v : Json, v.Holds "falcon\"" ∧ Missed "falcon\"" (observed v)) := by
  have hplain : Text.IsAscii "project falcon".toList := by decide
  have hquoted : Text.IsAscii "falcon\"".toList := by decide
  obtain ⟨hfound, -⟩ := term_found_iff_survives (by decide) hplain
  obtain ⟨-, -, hmissed, -⟩ := term_found_iff_survives (by decide) hquoted
  exact ⟨⟨by decide, hplain, hfound.mp (by decide)⟩, by decide, hquoted, hmissed (by decide)⟩

/-- A gateway of a tenant with a quoted name as its sensitive term, and a tool that answers with
that name. -/
def quoting : Gateway where
  firewall := .new ⟨[{ tenant := "acme", sensitiveTerms := ["project \"falcon\""] }]⟩ none .mark
  registry := ({} : Registry).register
    { name := "search", behave := fun _ =>
        ⟨0, .value (.object [("note", .string "ask about Project \"Falcon\" first")]), none⟩ }

def quotingRequest : PlanRequest where
  tenant := "acme"
  prompt := "find the notes"
  tools := ["search"]

/-- The run completes although the answer of its tool has the sensitive term. -/
theorem quoted_term_passes :
    "project \"falcon\"" ∈ quoting.firewall.store.sensitiveTerms quotingRequest.tenant ∧
      finishAction ∉ quotingRequest.tools ∧
      (∃ report, (quoting.plan quotingRequest).2 = .ok report) ∧
      ∃ s ∈ (quoting.plan quotingRequest).1.starts, ∃ v, s.Answers quoting.registry v ∧
        v.Holds "project \"falcon\"" := by
  have hok : (quoting.plan quotingRequest).2.toOption.isSome = true := by decide +kernel
  cases h : (quoting.plan quotingRequest).2 with
  | error e => rw [h] at hok; cases hok
  | ok report =>
    obtain ⟨hstarts, -⟩ := plan_executes h
    have hmem : ⟨0, "search", toolArguments quotingRequest 0⟩ ∈
        (quoting.plan quotingRequest).1.starts := by
      rw [hstarts]
      exact .head _
    refine ⟨by decide +kernel, by decide, ⟨report, rfl⟩, _, hmem, _, ⟨_, rfl, rfl⟩, ?_⟩
    exact ⟨_, .tail _ (.head _), by decide⟩

end Guardrail.Agent.Gateway
