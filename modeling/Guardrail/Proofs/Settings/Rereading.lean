import Guardrail.Proofs.Json.Lossless
import Guardrail.Settings.Source

/-! # Settings that are read as they were written

Sections are read from a JSON tree as records are, at no particular depth, so what is known of
records carries over to them. -/

namespace Guardrail.Settings

open Json

/-! ## JSON as a source -/

section Source

variable {α : Type}

theorem flag_json : Source.json.flag = Reader.bool 0 := rfl

theorem text_json : Source.json.text = Reader.string 0 := rfl

theorem word_json : Source.json.word = Reader.word 0 := rfl

theorem halfWord_json : Source.json.halfWord = Reader.natBelow (twoTo 32) 0 := rfl

theorem string_depth (depth depth' : Nat) : Reader.string depth = Reader.string depth' := by
  funext t
  cases t <;> rfl

theorem texts_json : Source.json.texts = Reader.list .string 0 := by
  funext t
  cases t with
  | array items => exact congrArg items.mapM (string_depth 0 1)
  | null | bool | numeral | string | object => rfl

theorem optionalText_json : Source.json.optionalText = Reader.option .string 0 := by
  funext t
  cases t with
  | null | bool | numeral | array | object => rfl
  | string s => cases s <;> rfl

theorem bind_mapM {β γ : Type} (f : α → Option β) (g : β → Option γ) (l : List α) :
    (l.mapM f).bind (·.mapM g) = l.mapM fun a => (f a).bind g := by
  induction l with
  | nil => rfl
  | cons a l ih =>
    rw [List.mapM_cons, List.mapM_cons, ← ih]
    cases f a with
    | none => rfl
    | some b => cases l.mapM f <;> cases h : g b <;> simp [List.mapM_cons, h]

theorem map_json (read : Tree → Option α) :
    Source.json.map read = Reader.map (fun _ => read) 0 := by
  funext t
  cases t with
  | object fields =>
    have hread (f : Option String × Tree) :
        (f.1.map (·, f.2)).bind (fun e => (read e.2).map (e.1, ·)) =
          f.1.bind fun k => (read f.2).bind fun a => some (k, a) := by
      cases f.1 with
      | none => rfl
      | some k => exact Option.map_eq_bind
    have hentries := bind_mapM (fun f : Option String × Tree => f.1.map (·, f.2))
      (fun e => (read e.2).map (e.1, ·)) fields
    simp only [hread] at hentries
    refine Eq.trans ?_ (congrArg (Option.map sortFields) hentries)
    rw [Option.map_bind]
    exact congrArg (Option.bind _) (funext fun es => Option.map_eq_bind.symm)
  | null | bool | numeral | string | array => rfl

theorem fields_json (names : List String) (depth : Nat) (t : Tree) :
    Source.json.fields names t = (Record.ofTree? names depth t).map (·.fields) := by
  cases t with
  | object fields =>
    show ((Record.known names fields).map _).map _ = ((Record.known names fields).map _).map _
    rw [Option.map_map, Option.map_map]
    rfl
  | array items =>
    show (Record.ofTree? names 0 (.array items)).map _ = _
    rw [Record.ofTree?, Record.ofTree?]
    split <;> rfl
  | null | bool | numeral | string => rfl

variable {r : Reader α} {write : α → Json} {a : α} {name : String}
  {fields : List (String × Tree)}

theorem fieldOr_eq_optional (absent : α) :
    fieldOr fields name absent (r 0) = Record.optional ⟨0, fields⟩ name absent r := by
  rw [fieldOr, Record.optional]
  cases fields.lookup name <;> rfl

theorem fieldOr_of_stands (hr : Rereads r write 0 a) (absent : α)
    (h : Stands ⟨0, fields⟩ name (some (write a))) : fieldOr fields name absent (r 0) = some a :=
  (fieldOr_eq_optional absent).trans (hr.optional absent h)

theorem rereads_of_fieldOr {absent : α} (h : Lossless r write)
    (hread : fieldOr fields name absent (r 0) = some a) (habsent : Rereads r write 0 absent) :
    Rereads r write 0 a :=
  h.of_optional ((fieldOr_eq_optional absent).symm.trans hread) habsent

/-- A value for absence that is read from something is read again too. -/
theorem fieldOr_lossless {absent : α} {t : Tree} {fields' : List (String × Tree)}
    (h : Lossless r write) (hread : fieldOr fields name absent (r 0) = some a)
    (habsent : r 0 t = some absent) (hstands : Stands ⟨0, fields'⟩ name (some (write a))) :
    fieldOr fields' name absent (r 0) = some a :=
  fieldOr_of_stands (rereads_of_fieldOr h hread (h 0 t absent habsent)) absent hstands

theorem fieldOr_number {limit absent n : Nat} {fields' : List (String × Tree)}
    (hread : fieldOr fields name absent (Reader.natBelow limit 0) = some n)
    (hlimit : limit ≤ twoTo 64) (habsent : absent < limit)
    (h : Stands ⟨0, fields'⟩ name (some (.integer n))) :
    fieldOr fields' name absent (Reader.natBelow limit 0) = some n :=
  fieldOr_of_stands (rereads_of_fieldOr (lossless_natBelow hlimit) hread
    (rereads_natBelow habsent hlimit)) absent h

theorem fieldOr_optionalText {text : Option String} {fields' : List (String × Tree)}
    (hread : fieldOr fields name none (Reader.option .string 0) = some text)
    (h : Stands ⟨0, fields'⟩ name (some (.ofOption .string text))) :
    fieldOr fields' name none (Reader.option .string 0) = some text :=
  fieldOr_of_stands (rereads_of_fieldOr (lossless_option (fun _ => rfl) lossless_string) hread
    (rereads_none rfl)) none h

theorem fieldOr_string {text : String} (absent : String)
    (h : Stands ⟨0, fields⟩ name (some (.string text))) :
    fieldOr fields name absent (Reader.string 0) = some text :=
  fieldOr_of_stands (rereads_string 0 text) absent h

theorem fieldOr_strings {texts : List String} (absent : List String)
    (h : Stands ⟨0, fields⟩ name (some (.strings texts))) :
    fieldOr fields name absent (Reader.list .string 0) = some texts :=
  fieldOr_of_stands (rereads_strings 0 texts) absent h

/-- A section is read again if it is read from all fields in which its own stand. -/
theorem lossless_section {write : α → Json} (names : List String)
    (entries : α → List (String × Option Json)) {body : List (String × Tree) → Option α}
    (hnodup : names.Nodup) (hnames : ∀ a, (entries a).map (·.1) = names)
    (hwrite : ∀ a, write a = .object (present (entries a)))
    (hbody : ∀ fields fields' a, body fields = some a →
      (∀ e ∈ entries a, Stands ⟨0, fields'⟩ e.1 e.2) → body fields' = some a) :
    Lossless (fun _ t => Source.json.fields names t >>= body) write := by
  have hread : (fun depth t => Record.ofTree? names depth t >>= fun rec => body rec.fields) =
      fun _ t => Source.json.fields names t >>= body := by
    funext depth t
    rw [fields_json names depth t]
    cases Record.ofTree? names depth t <;> rfl
  rw [← hread]
  exact lossless_record names entries hnodup hnames hwrite fun _ => hbody

end Source

/-! ## Sections -/

theorem lossless_moderation :
    Lossless (fun _ t => readModeration .json t) ModerationSettings.toJson := by
  refine lossless_section moderationNames (fun m => [
    ("api_base", some (.string m.apiBase)),
    ("api_token", some (.string m.apiToken)),
    ("model", some (.string m.model)),
    ("timeout_secs", some (.integer m.timeoutSecs)),
    ("workers", some (.integer m.workers)),
    ("queue_size", some (.integer m.queueSize)),
    ("rps", some (.integer m.rate)),
    ("retries", some (.integer m.retries)),
    ("cache_ttl_mins", some (.integer m.cacheMinutes)),
    ("output_mode", some (.string m.outputMode)),
    ("sweep_interval_secs", some (.integer m.sweepSecs))])
    (by decide) (fun _ => rfl) (fun _ => rfl) ?_
  intro fields fields' m hread hstands
  simp only [text_json, word_json, halfWord_json, Option.bind_eq_bind, Option.bind_eq_some_iff,
    Option.pure_def, Option.some.injEq] at hread ⊢
  obtain ⟨_, -, _, -, _, -, timeout, htimeout, workers, hworkers, queue, hqueue, rate, hrate,
    retries, hretries, cache, hcache, _, -, sweep, hsweep, rfl⟩ := hread
  simp only [List.forall_mem_cons] at hstands
  obtain ⟨hbase, htoken, hmodel, htimeout', hworkers', hqueue', hrate', hretries', hcache', hmode,
    hsweep', -⟩ := hstands
  exact ⟨_, fieldOr_string _ hbase, _, fieldOr_string _ htoken, _, fieldOr_string _ hmodel,
    _, fieldOr_number htimeout le_rfl (by decide) htimeout',
    _, fieldOr_number hworkers le_rfl (by decide) hworkers',
    _, fieldOr_number hqueue le_rfl (by decide) hqueue',
    _, fieldOr_number hrate (by decide) (by decide) hrate',
    _, fieldOr_number hretries (by decide) (by decide) hretries',
    _, fieldOr_number hcache le_rfl (by decide) hcache', _, fieldOr_string _ hmode,
    _, fieldOr_number hsweep le_rfl (by decide) hsweep', rfl⟩

theorem lossless_policy :
    Lossless (fun _ t => readPolicy .json t) PolicySettings.toJson := by
  refine lossless_section policyNames (fun p => [
    ("policy_dir", some (.ofOption .string p.directory)),
    ("decision_query", some (.string p.query)),
    ("timeout_ms", some (.integer p.timeoutMillis))])
    (by decide) (fun _ => rfl) (fun _ => rfl) ?_
  intro fields fields' p hread hstands
  simp only [text_json, word_json, optionalText_json, Option.bind_eq_bind,
    Option.bind_eq_some_iff, Option.pure_def, Option.some.injEq] at hread ⊢
  obtain ⟨directory, hdirectory, _, -, timeout, htimeout, rfl⟩ := hread
  simp only [List.forall_mem_cons] at hstands
  obtain ⟨hdirectory', hquery, htimeout', -⟩ := hstands
  exact ⟨_, fieldOr_optionalText hdirectory hdirectory', _, fieldOr_string _ hquery,
    _, fieldOr_number htimeout le_rfl (by decide) htimeout', rfl⟩

theorem lossless_agent :
    Lossless (fun _ t => readAgent .json t) AgentSettings.toJson := by
  refine lossless_section agentNames (fun a => [
    ("max_iterations", some (.integer a.maxIterations)),
    ("timeout_secs", some (.integer a.timeoutSecs)),
    ("sandbox_timeout_secs", some (.integer a.sandboxTimeoutSecs)),
    ("memory_limit_bytes", some (.integer a.memoryLimit)),
    ("allowed_tools", some (.strings a.allowedTools)),
    ("extra_denied_tools", some (.strings a.deniedTools))])
    (by decide) (fun _ => rfl) (fun _ => rfl) ?_
  intro fields fields' a hread hstands
  simp only [word_json, texts_json, Option.bind_eq_bind, Option.bind_eq_some_iff, Option.pure_def,
    Option.some.injEq] at hread ⊢
  obtain ⟨iterations, hiterations, timeout, htimeout, sandbox, hsandbox, memory, hmemory, _, -,
    _, -, rfl⟩ := hread
  simp only [List.forall_mem_cons] at hstands
  obtain ⟨hiterations', htimeout', hsandbox', hmemory', hallowed, hdenied, -⟩ := hstands
  exact ⟨_, fieldOr_number hiterations le_rfl (by decide) hiterations',
    _, fieldOr_number htimeout le_rfl (by decide) htimeout',
    _, fieldOr_number hsandbox le_rfl (by decide) hsandbox',
    _, fieldOr_number hmemory le_rfl (by decide) hmemory', _, fieldOr_strings _ hallowed,
    _, fieldOr_strings _ hdenied, rfl⟩

theorem lossless_tenant :
    Lossless (fun _ t => readTenant .json t) TenantSettings.toJson := by
  refine lossless_section tenantNames (fun t => [
    ("name", some (.string t.name)),
    ("prompt_rules", some (.strings t.promptRules)),
    ("tool_allow_list", some (.strings t.tools)),
    ("rag_namespaces", some (.strings t.namespaces)),
    ("sensitive_terms", some (.strings t.sensitiveTerms))])
    (by decide) (fun _ => rfl) (fun _ => rfl) ?_
  intro fields fields' t _ hstands
  simp only [text_json, texts_json, Option.bind_eq_bind, Option.bind_eq_some_iff, Option.pure_def,
    Option.some.injEq]
  simp only [List.forall_mem_cons] at hstands
  obtain ⟨hname, hrules, htools, hnamespaces, hterms, -⟩ := hstands
  exact ⟨_, fieldOr_string _ hname, _, fieldOr_strings _ hrules, _, fieldOr_strings _ htools,
    _, fieldOr_strings _ hnamespaces, _, fieldOr_strings _ hterms, rfl⟩

theorem lossless_logging :
    Lossless (fun _ t => readLogging .json t) LoggingSettings.toJson := by
  refine lossless_section loggingNames (fun l => [
    ("json", some (.bool l.json)),
    ("filter", some (.ofOption .string l.filter))])
    (by decide) (fun _ => rfl) (fun _ => rfl) ?_
  intro fields fields' l hread hstands
  simp only [flag_json, optionalText_json, Option.bind_eq_bind, Option.bind_eq_some_iff,
    Option.pure_def, Option.some.injEq] at hread ⊢
  obtain ⟨_, -, filter, hfilter, rfl⟩ := hread
  simp only [List.forall_mem_cons] at hstands
  obtain ⟨hjson, hfilter', -⟩ := hstands
  exact ⟨_, fieldOr_of_stands (rereads_bool 0 _) _ hjson,
    _, fieldOr_optionalText hfilter hfilter', rfl⟩

/-- Sections that are missing have the settings to begin with, and these are read again. -/
theorem lossless : Lossless (fun _ t => read .json t) Settings.toJson := by
  refine lossless_section sectionNames (fun s => [
    ("moderation", some s.moderation.toJson),
    ("policy", some s.policy.toJson),
    ("agent", some s.agent.toJson),
    ("tenants", some (.object (s.tenants.map fun e => (e.1, e.2.toJson)))),
    ("logging", some s.logging.toJson)])
    (by decide) (fun _ => rfl) (fun _ => rfl) ?_
  intro fields fields' s hread hstands
  simp only [map_json, Option.bind_eq_bind, Option.bind_eq_some_iff, Option.pure_def,
    Option.some.injEq] at hread ⊢
  obtain ⟨moderation, hmoderation, policy, hpolicy, agent, hagent, tenants, htenants, logging,
    hlogging, rfl⟩ := hread
  simp only [List.forall_mem_cons] at hstands
  obtain ⟨hmoderation', hpolicy', hagent', htenants', hlogging', -⟩ := hstands
  have htenant := lossless_map lossless_tenant
  have hnone (names : List String) : Source.json.fields names (.object []) = some [] := rfl
  have hnobody : Reader.map (fun _ => readTenant .json) 0 (.object []) = some [] := rfl
  exact ⟨_, fieldOr_lossless lossless_moderation hmoderation (readModeration_nothing (hnone _))
      hmoderation',
    _, fieldOr_lossless lossless_policy hpolicy (readPolicy_nothing (hnone _)) hpolicy',
    _, fieldOr_lossless lossless_agent hagent (readAgent_nothing (hnone _)) hagent',
    _, fieldOr_lossless htenant htenants hnobody htenants',
    _, fieldOr_lossless lossless_logging hlogging (readLogging_nothing (hnone _)) hlogging', rfl⟩

end Guardrail.Settings
