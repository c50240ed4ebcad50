import Guardrail.Agent.Plan
import Guardrail.Agent.Tool
import Guardrail.Decision.Input
import Guardrail.Firewall
import Guardrail.Proofs.Json.Lossless
import Guardrail.Proofs.Timestamp.Texts
import Guardrail.Retrieval.Document
import Guardrail.Tenant.Policy
import Guardrail.Verdict

/-! # Records that are read as they were written

Each record's fields are listed as they are written: with the value, or with the condition on which
it is left out. -/

namespace Guardrail

open Json

theorem Verdict.lossless : Lossless reader toJson := by
  refine lossless_record ["allowed", "reason", "signals"] (fun v => [
    ("allowed", some (.bool v.allowed)),
    ("reason", omitIf v.reason.isEmpty (.string v.reason)),
    ("signals", omitIf v.signals.isEmpty (.strings v.signals))])
    (by decide) (fun _ => rfl) (fun v => by simp [toJson]) ?_
  intro depth fields fields' v _ hstands
  simp only [List.forall_mem_cons] at hstands
  obtain ⟨hallowed, hreason, hsignals, -⟩ := hstands
  have hallowed := (rereads_bool _ _).required hallowed
  have hreason := (rereads_string _ _).optional_omitIf "" (by simp) hreason
  have hsignals := (rereads_strings _ _).optional_omitIf [] (by simp) hsignals
  simp only [hallowed, hreason, hsignals, Option.bind_eq_bind, Option.bind_some]
  rfl

theorem LeakReport.lossless : Lossless reader toJson := by
  refine lossless_record ["hit", "reason", "matches"] (fun r => [
    ("hit", some (.bool r.hit)),
    ("reason", omitIf r.reason.isEmpty (.string r.reason)),
    ("matches", some (.strings r.findings))])
    (by decide) (fun _ => rfl) (fun r => by simp [toJson]) ?_
  intro depth fields fields' r _ hstands
  simp only [List.forall_mem_cons] at hstands
  obtain ⟨hhit, hreason, hfindings, -⟩ := hstands
  have hhit := (rereads_bool _ _).required hhit
  have hreason := (rereads_string _ _).optional_omitIf "" (by simp) hreason
  have hfindings := (rereads_strings _ _).optional [] hfindings
  simp only [hhit, hreason, hfindings, Option.bind_eq_bind, Option.bind_some]
  rfl

/-! ## Labels -/

/-- A label is known, so it stands for the level that it was written for. -/
theorem Sensitivity.rereads (depth : Nat) (s : Sensitivity) :
    Rereads reader (fun s => .string s.label) depth s :=
  rereads_of_string (congrArg some (ofLabel_label s))

theorem OutputMode.rereads (depth : Nat) (m : OutputMode) :
    Rereads reader (fun m => .string m.label) depth m :=
  rereads_label (by cases m <;> rfl)

theorem Decision.Mode.rereads (depth : Nat) (m : Decision.Mode) :
    Rereads reader (fun m => .string m.label) depth m :=
  rereads_label (by cases m <;> rfl)

/-! ## Documents -/

theorem Document.lossless : Lossless reader toJson := by
  refine lossless_record fieldNames (fun d => [
    ("id", some (.string d.id)),
    ("namespace", some (.string d.namespace_)),
    ("content", some (.string d.content)),
    ("score", some (.float d.score)),
    ("metadata", omitIf d.metadata.isEmpty (.stringMap d.metadata)),
    ("sensitivity", some (.string d.sensitivity.label))])
    (by decide) (fun _ => rfl) (fun d => by simp [toJson]) ?_
  intro depth fields fields' d hread hstands
  simp only [Option.bind_eq_bind, Option.bind_eq_some_iff, Option.pure_def,
    Option.some.injEq] at hread
  obtain ⟨_, -, _, -, _, -, _, -, metadata, hmetadata, _, -, rfl⟩ := hread
  simp only [List.forall_mem_cons] at hstands
  obtain ⟨hid, hnamespace, hcontent, hscore, hentries, hsensitivity, -⟩ := hstands
  have hid := (rereads_string _ _).required hid
  have hnamespace := (rereads_string _ _).optional "" hnamespace
  have hcontent := (rereads_string _ _).optional "" hcontent
  have hscore := (rereads_double _ _).optional ⟨0⟩ hscore
  have hmetadata := (lossless_stringMap.of_optional hmetadata (rereads_noEntries _)).optional_omitIf
    [] (by simp) hentries
  have hsensitivity := (Sensitivity.rereads _ _).optional .public_ hsensitivity
  simp only [hid, hnamespace, hcontent, hscore, hmetadata, hsensitivity, Option.bind_eq_bind,
    Option.bind_some]
  rfl

theorem Decision.Input.lossless : Lossless reader toJson := by
  refine lossless_record fieldNames (fun i => [
    ("tenantId", some (.string i.tenant)),
    ("appId", some (.string i.app)),
    ("mode", some (.string i.mode.label)),
    ("prompt", omitIf i.prompt.isEmpty (.string i.prompt)),
    ("output", omitIf i.output.isEmpty (.string i.output)),
    ("tool", omitIf i.tool.isEmpty (.string i.tool)),
    ("simulation", omitIf (!i.simulation) (.bool i.simulation)),
    ("namespaces", omitIf i.namespaces.isEmpty (.strings i.namespaces)),
    ("rules", omitIf i.rules.isEmpty (.strings i.rules)),
    ("signals", omitIf i.signals.isNone (i.signals.getD .null))])
    (by decide) (fun _ => rfl) (fun i => by simp [toJson]) ?_
  intro depth fields fields' i hread hstands
  simp only [Option.bind_eq_bind, Option.bind_eq_some_iff, Option.pure_def,
    Option.some.injEq] at hread
  obtain ⟨_, -, _, -, _, -, _, -, _, -, _, -, _, -, _, -, _, -, signals, hsignals, rfl⟩ := hread
  simp only [List.forall_mem_cons] at hstands
  obtain ⟨htenant, happ, hmode, hprompt, houtput, htool, hsimulation, hnamespaces, hrules, hvalue,
    -⟩ := hstands
  have htenant := (rereads_string _ _).required htenant
  have happ := (rereads_string _ _).required happ
  have hmode := (Mode.rereads _ _).required hmode
  have hprompt := (rereads_string _ _).optional_omitIf "" (by simp) hprompt
  have houtput := (rereads_string _ _).optional_omitIf "" (by simp) houtput
  have htool := (rereads_string _ _).optional_omitIf "" (by simp) htool
  have hsimulation := (rereads_bool _ _).optional_omitIf false (by simp) hsimulation
  have hnamespaces := (rereads_strings _ _).optional_omitIf [] (by simp) hnamespaces
  have hrules := (rereads_strings _ _).optional_omitIf [] (by simp) hrules
  have hsignals := (lossless_optionValue.of_optional hsignals (rereads_none rfl)).optional_omitIf
    none (by simp) hvalue
  simp only [htenant, happ, hmode, hprompt, houtput, htool, hsimulation, hnamespaces, hrules,
    hsignals, Option.bind_eq_bind, Option.bind_some]
  rfl

theorem TenantPolicy.lossless_timestamp : Lossless timestamp (fun t => .string t.render) := by
  intro depth t time hread
  obtain ⟨text, -, htext⟩ := Option.bind_eq_some_iff.mp hread
  refine rereads_of_string ?_
  have hstring : Reader.string depth (.string (some time.render)) = some time.render := rfl
  rw [timestamp, hstring, Option.bind_some,
    Timestamp.parse_render (Timestamp.inRange_of_parse htext)]

theorem TenantPolicy.lossless : Lossless reader toJson := by
  refine lossless_record fieldNames (fun p => [
    ("id", some (.string p.id)),
    ("tenant_id", some (.string p.tenant)),
    ("name", some (.string p.name)),
    ("prompt_rules", some (.strings p.promptRules)),
    ("tool_allow_list", some (.strings p.tools)),
    ("rag_namespaces", some (.strings p.namespaces)),
    ("output_filters", some (.strings p.outputFilters)),
    ("sensitive_terms", some (.strings p.sensitiveTerms)),
    ("last_modified_at", some (.ofOption (fun t => .string t.render) p.modifiedAt)),
    ("version", some (.integer p.version))])
    (by decide) (fun _ => rfl) (fun _ => rfl) ?_
  intro depth fields fields' p hread hstands
  simp only [Option.bind_eq_bind, Option.bind_eq_some_iff, Option.pure_def,
    Option.some.injEq] at hread
  obtain ⟨_, -, _, -, _, -, _, -, _, -, _, -, _, -, _, -, time, htime, version, hversion, rfl⟩ :=
    hread
  simp only [List.forall_mem_cons] at hstands
  obtain ⟨hid, htenant, hname, hrules, htools, hnamespaces, hfilters, hterms, hstamp, hnumber,
    -⟩ := hstands
  have hid := (rereads_string _ _).optional "" hid
  have htenant := (rereads_string _ _).required htenant
  have hname := (rereads_string _ _).optional "" hname
  have hrules := (rereads_strings _ _).optional [] hrules
  have htools := (rereads_strings _ _).optional [] htools
  have hnamespaces := (rereads_strings _ _).optional [] hnamespaces
  have hfilters := (rereads_strings _ _).optional [] hfilters
  have hterms := (rereads_strings _ _).optional [] hterms
  have hoption := lossless_option (fun _ => rfl) lossless_timestamp
  have htime := (hoption.of_optional htime (rereads_none rfl)).optional none hstamp
  have hversion := (lossless_word.of_optional hversion (rereads_word (by decide) _)).optional 0
    hnumber
  simp only [hid, htenant, hname, hrules, htools, hnamespaces, hfilters, hterms, htime, hversion,
    Option.bind_eq_bind, Option.bind_some]
  rfl

/-! ## Runs of an agent -/

namespace Agent

theorem PlanRequest.lossless : Lossless reader toJson := by
  refine lossless_record
    ["tenant_id", "prompt", "tools", "max_iterations", "timeout_ms", "context"] (fun r => [
    ("tenant_id", some (.string r.tenant)),
    ("prompt", some (.string r.prompt)),
    ("tools", some (.strings r.tools)),
    ("max_iterations", some (.integer r.maxIterations)),
    ("timeout_ms", some (.integer r.timeout)),
    ("context", omitIf r.context.isEmpty (.stringMap r.context))])
    (by decide) (fun _ => rfl) (fun r => by simp [toJson]) ?_
  intro depth fields fields' r hread hstands
  simp only [Option.bind_eq_bind, Option.bind_eq_some_iff, Option.pure_def,
    Option.some.injEq] at hread
  obtain ⟨_, -, _, -, _, -, iterations, hiterations, timeout, htimeout, context, hcontext, rfl⟩ :=
    hread
  simp only [List.forall_mem_cons] at hstands
  obtain ⟨htenant, hprompt, htools, hnumber, hnumber', hentries, -⟩ := hstands
  have hzero := rereads_word (n := 0) (by decide) depth
  have htenant := (rereads_string _ _).required htenant
  have hprompt := (rereads_string _ _).required hprompt
  have htools := (rereads_strings _ _).optional [] htools
  have hiterations := (lossless_word.of_optional hiterations hzero).optional 0 hnumber
  have htimeout := (lossless_word.of_optional htimeout hzero).optional 0 hnumber'
  have hcontext := (lossless_stringMap.of_optional hcontext (rereads_noEntries _)).optional_omitIf
    [] (by simp) hentries
  simp only [htenant, hprompt, htools, hiterations, htimeout, hcontext, Option.bind_eq_bind,
    Option.bind_some]
  rfl

theorem Step.lossless : Lossless reader toJson := by
  refine lossless_record fieldNames (fun s => [
    ("iteration", some (.integer s.iteration)),
    ("thought", some (.string s.thought)),
    ("action", some (.string s.action)),
    ("action_input", omitIf s.actionInput.isNone (s.actionInput.getD .null)),
    ("observation", some (.string s.observation)),
    ("duration_ms", some (.integer s.duration)),
    ("blocked", omitIf (!s.blocked) (.bool s.blocked)),
    ("block_reason", omitIf s.blockReason.isEmpty (.string s.blockReason))])
    (by decide) (fun _ => rfl) (fun s => by simp [toJson]) ?_
  intro depth fields fields' s hread hstands
  simp only [Option.bind_eq_bind, Option.bind_eq_some_iff, Option.pure_def,
    Option.some.injEq] at hread
  obtain ⟨iteration, hiteration, _, -, _, -, input, hinput, _, -, duration, hduration, _, -, _, -,
    rfl⟩ := hread
  simp only [List.forall_mem_cons] at hstands
  obtain ⟨hnumber, hthought, haction, hvalue, hobservation, hnumber', hblocked, hreason, -⟩ :=
    hstands
  have hiteration := (lossless_word.of_required hiteration).required hnumber
  have hthought := (rereads_string _ _).required hthought
  have haction := (rereads_string _ _).required haction
  have hinput := (lossless_optionValue.of_optional hinput (rereads_none rfl)).optional_omitIf none
    (by simp) hvalue
  have hobservation := (rereads_string _ _).required hobservation
  have hduration := (lossless_word.of_required hduration).required hnumber'
  have hblocked := (rereads_bool _ _).optional_omitIf false (by simp) hblocked
  have hreason := (rereads_string _ _).optional_omitIf "" (by simp) hreason
  simp only [hiteration, hthought, haction, hinput, hobservation, hduration, hblocked, hreason,
    Option.bind_eq_bind, Option.bind_some]
  rfl

theorem PlanReport.lossless : Lossless reader toJson := by
  refine lossless_record fieldNames (fun p => [
    ("allowed", some (.bool p.allowed)),
    ("reason", omitIf p.reason.isEmpty (.string p.reason)),
    ("steps", some (.array (p.steps.map Step.toJson))),
    ("final_result", omitIf p.finalResult.isNone (p.finalResult.getD .null)),
    ("total_time_ms", some (.integer p.totalTime)),
    ("signals", omitIf p.signals.isEmpty (.strings p.signals))])
    (by decide) (fun _ => rfl) (fun p => by simp [toJson]) ?_
  intro depth fields fields' p hread hstands
  simp only [Option.bind_eq_bind, Option.bind_eq_some_iff, Option.pure_def,
    Option.some.injEq] at hread
  obtain ⟨_, -, _, -, steps, hsteps, result, hresult, time, htime, _, -, rfl⟩ := hread
  simp only [List.forall_mem_cons] at hstands
  obtain ⟨hallowed, hreason, hitems, hvalue, hnumber, hsignals, -⟩ := hstands
  have hallowed := (rereads_bool _ _).required hallowed
  have hreason := (rereads_string _ _).optional_omitIf "" (by simp) hreason
  have hsteps := ((lossless_list Step.lossless).of_required hsteps).required hitems
  have hresult := (lossless_optionValue.of_optional hresult (rereads_none rfl)).optional_omitIf none
    (by simp) hvalue
  have htime := (lossless_word.of_required htime).required hnumber
  have hsignals := (rereads_strings _ _).optional_omitIf [] (by simp) hsignals
  simp only [hallowed, hreason, hsteps, hresult, htime, hsignals, Option.bind_eq_bind,
    Option.bind_some]
  rfl

theorem ToolDescription.eq_null_of_isNull {v : Json} (h : isNull v = true) : v = .null := by
  cases v with
  | null => rfl
  | bool | integer | float | string | array | object => cases h

theorem ToolDescription.lossless : Lossless reader toJson := by
  refine lossless_record ["name", "description", "schema"] (fun d => [
    ("name", some (.string d.name)),
    ("description", some (.string d.description)),
    ("schema", omitIf (isNull d.schema) d.schema)])
    (by decide) (fun _ => rfl) (fun d => by simp [toJson]) ?_
  intro depth fields fields' d hread hstands
  simp only [Option.bind_eq_bind, Option.bind_eq_some_iff, Option.pure_def,
    Option.some.injEq] at hread
  obtain ⟨_, -, _, -, schema, hschema, rfl⟩ := hread
  simp only [List.forall_mem_cons] at hstands
  obtain ⟨hname, hdescription, hvalue, -⟩ := hstands
  have hname := (rereads_string _ _).required hname
  have hdescription := (rereads_string _ _).required hdescription
  have hschema := (lossless_value.of_optional hschema (rereads_value .null)).optional_omitIf .null
    eq_null_of_isNull hvalue
  simp only [hname, hdescription, hschema, Option.bind_eq_bind, Option.bind_some]
  rfl

end Agent

end Guardrail
