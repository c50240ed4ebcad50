import Guardrail.Proofs.Json.Fields
import Guardrail.Proofs.Text.Numerals
import Guardrail.Settings.Load

/-! # Settings in layers

A document that sets any of the known keys can be read, and no other can (`read_eq_some_iff`). Each
field is then what its variable says, else what the document says, else what it is to begin with
(`load_layered`). -/

namespace Guardrail.Settings

variable {τ α β : Type} (s : Source τ)

/-! ## Documents that can be read -/

/-- What a key may hold. -/
inductive Kind where
  | flag
  | word
  | halfWord
  | text
  | optionalText
  | texts

/-- Whether something of the kind stands in a place. -/
@[simp]
def Kind.IsAt (t : τ) : Kind → Prop
  | flag => (s.flag t).isSome
  | word => (s.word t).isSome
  | halfWord => (s.halfWord t).isSome
  | text => (s.text t).isSome
  | optionalText => (s.optionalText t).isSome
  | texts => (s.texts t).isSome

def moderationKeys : List (String × Kind) := [
  ("api_base", .text), ("api_token", .text), ("model", .text), ("timeout_secs", .word),
  ("workers", .word), ("queue_size", .word), ("rps", .halfWord), ("retries", .halfWord),
  ("cache_ttl_mins", .word), ("output_mode", .text), ("sweep_interval_secs", .word)]

def policyKeys : List (String × Kind) := [
  ("policy_dir", .optionalText), ("decision_query", .text), ("timeout_ms", .word)]

def agentKeys : List (String × Kind) := [
  ("max_iterations", .word), ("timeout_secs", .word), ("sandbox_timeout_secs", .word),
  ("memory_limit_bytes", .word), ("allowed_tools", .texts), ("extra_denied_tools", .texts)]

def tenantKeys : List (String × Kind) := [
  ("name", .text), ("prompt_rules", .texts), ("tool_allow_list", .texts),
  ("rag_namespaces", .texts), ("sensitive_terms", .texts)]

def loggingKeys : List (String × Kind) := [("json", .flag), ("filter", .optionalText)]

/-- What stands under the keys that are there is of their kinds. -/
def Holds (keys : List (String × Kind)) (fs : List (String × τ)) : Prop :=
  ∀ k ∈ keys, ∀ t, fs.lookup k.1 = some t → k.2.IsAt s t

/-- A record that sets any of the keys, each of them once. -/
def IsRecord (keys : List (String × Kind)) (t : τ) : Prop :=
  ∃ fs, s.fields (keys.map (·.1)) t = some fs ∧ Holds s keys fs

/-- The sections that are there are records of their keys. -/
@[mk_iff]
structure HoldsSections (fs : List (String × τ)) : Prop where
  moderation : ∀ t, fs.lookup "moderation" = some t → IsRecord s moderationKeys t
  policy : ∀ t, fs.lookup "policy" = some t → IsRecord s policyKeys t
  agent : ∀ t, fs.lookup "agent" = some t → IsRecord s agentKeys t
  tenants : ∀ t, fs.lookup "tenants" = some t →
    ∃ es, s.entries t = some es ∧ ∀ e ∈ es, IsRecord s tenantKeys e.2
  logging : ∀ t, fs.lookup "logging" = some t → IsRecord s loggingKeys t

/-- A document that sets any of the known keys in any of the sections. -/
def IsDocument (t : τ) : Prop :=
  ∃ fs, s.fields sectionNames t = some fs ∧ HoldsSections s fs

/-! ## The layers -/

/-- What is read under a key, if the key is there. -/
def said (fs : List (String × τ)) (key : String) (read : τ → Option α) : Option α :=
  (fs.lookup key).bind read

/-- The known fields of a record. -/
def fieldsOf (keys : List (String × Kind)) (t : τ) : List (String × τ) :=
  (s.fields (keys.map (·.1)) t).getD []

/-- The known fields of a section, none if the section is not there. -/
def sectionOf (fs : List (String × τ)) (name : String) (keys : List (String × Kind)) :
    List (String × τ) :=
  ((fs.lookup name).map (fieldsOf s keys)).getD []

namespace Environment

variable (env : Environment)

/-- The value of a variable that is set and not empty. -/
def value (name : String) : Option String := (env name).filter (!·.isEmpty)

/-- The number below the limit that a variable denotes. -/
def numeral (name : String) (limit : Nat) : Option Nat :=
  (env name).bind fun v => Text.natural? limit (Text.trim v)

end Environment

/-- What the variable says, else what the document says, else what there is without them. -/
def layer (set written : Option α) (absent : α) : α := (set.or written).getD absent

def moderationOf (env : Environment) (fs : List (String × τ)) : ModerationSettings :=
  let absent : ModerationSettings := {}
  { apiBase := layer (env.value "QWEN_API_BASE") (said fs "api_base" s.text) absent.apiBase
    apiToken := layer (env.value "QWEN_API_TOKEN") (said fs "api_token" s.text) absent.apiToken
    model := layer (env.value "QWEN_MODEL") (said fs "model" s.text) absent.model
    timeoutSecs := layer (env.numeral "QWEN_TIMEOUT_SEC" (twoTo 64))
      (said fs "timeout_secs" s.word) absent.timeoutSecs
    workers := layer (env.numeral "LLM_WORKERS" (twoTo 64)) (said fs "workers" s.word)
      absent.workers
    queueSize := layer (env.numeral "LLM_QUEUE_SIZE" (twoTo 64)) (said fs "queue_size" s.word)
      absent.queueSize
    rate := layer (env.numeral "QWEN_RPS" (twoTo 32)) (said fs "rps" s.halfWord) absent.rate
    retries := layer (env.numeral "QWEN_RETRIES" (twoTo 32)) (said fs "retries" s.halfWord)
      absent.retries
    cacheMinutes := layer (env.numeral "LLM_CACHE_TTL_MIN" (twoTo 64))
      (said fs "cache_ttl_mins" s.word) absent.cacheMinutes
    outputMode := layer (env.value "OUTPUT_MODE") (said fs "output_mode" s.text) absent.outputMode
    sweepSecs := layer none (said fs "sweep_interval_secs" s.word) absent.sweepSecs }

def policyOf (env : Environment) (fs : List (String × τ)) : PolicySettings :=
  let absent : PolicySettings := {}
  { directory := layer ((env.value "OPA_POLICY_DIR").map some)
      (said fs "policy_dir" s.optionalText) absent.directory
    query := layer (env.value "OPA_DECISION") (said fs "decision_query" s.text) absent.query
    timeoutMillis := layer none (said fs "timeout_ms" s.word) absent.timeoutMillis }

def agentOf (fs : List (String × τ)) : AgentSettings :=
  let absent : AgentSettings := {}
  { maxIterations := layer none (said fs "max_iterations" s.word) absent.maxIterations
    timeoutSecs := layer none (said fs "timeout_secs" s.word) absent.timeoutSecs
    sandboxTimeoutSecs := layer none (said fs "sandbox_timeout_secs" s.word)
      absent.sandboxTimeoutSecs
    memoryLimit := layer none (said fs "memory_limit_bytes" s.word) absent.memoryLimit
    allowedTools := layer none (said fs "allowed_tools" s.texts) absent.allowedTools
    deniedTools := layer none (said fs "extra_denied_tools" s.texts) absent.deniedTools }

def tenantOf (fs : List (String × τ)) : TenantSettings :=
  let absent : TenantSettings := {}
  { name := layer none (said fs "name" s.text) absent.name
    promptRules := layer none (said fs "prompt_rules" s.texts) absent.promptRules
    tools := layer none (said fs "tool_allow_list" s.texts) absent.tools
    namespaces := layer none (said fs "rag_namespaces" s.texts) absent.namespaces
    sensitiveTerms := layer none (said fs "sensitive_terms" s.texts) absent.sensitiveTerms }

def loggingOf (fs : List (String × τ)) : LoggingSettings :=
  let absent : LoggingSettings := {}
  { json := layer none (said fs "json" s.flag) absent.json
    filter := layer none (said fs "filter" s.optionalText) absent.filter }

def settingsOf (env : Environment) (fs : List (String × τ)) : Settings where
  moderation := moderationOf s env (sectionOf s fs "moderation" moderationKeys)
  policy := policyOf s env (sectionOf s fs "policy" policyKeys)
  agent := agentOf s (sectionOf s fs "agent" agentKeys)
  tenants := Json.sortFields (((said fs "tenants" s.entries).getD []).map fun e =>
    (e.1, tenantOf s (fieldsOf s tenantKeys e.2)))
  logging := loggingOf s (sectionOf s fs "logging" loggingKeys)

/-- The settings of a document under an environment, every field in its layers. -/
def layered (env : Environment) (t : τ) : Settings :=
  settingsOf s env ((s.fields sectionNames t).getD [])

/-! ## Reading a document -/

variable {s} {fs : List (String × τ)} {name : String} {keys : List (String × Kind)}
  {reader : τ → Option α} {of : List (String × τ) → α} {absent a : α} {t : τ}

@[simp] theorem fieldOr_eq_some_iff :
    fieldOr fs name absent reader = some a ↔
      (∀ t, fs.lookup name = some t → (reader t).isSome) ∧
        layer none (said fs name reader) absent = a := by
  rw [fieldOr, said]
  cases fs.lookup name with
  | none => simp [layer]
  | some t =>
    cases h : reader t with
    | none => simp [h]
    | some b => simp [h, layer]

/-- The reader takes records of the keys and nothing else, and from them only their fields. -/
def ReadsRecords (s : Source τ) (keys : List (String × Kind)) (reader : τ → Option α)
    (of : List (String × τ) → α) : Prop :=
  ∀ t a, reader t = some a ↔ IsRecord s keys t ∧ of (fieldsOf s keys t) = a

theorem bind_eq_some_iff_of_body {o : Option β} {body : β → Option α} {P : β → Prop} {f : β → α}
    (h : ∀ b a, body b = some a ↔ P b ∧ f b = a) (a : α) (absent : β) :
    o.bind body = some a ↔ (∃ b, o = some b ∧ P b) ∧ f (o.getD absent) = a := by
  cases o with
  | none => simp
  | some b => simp [h]

theorem readsRecords_of_body {body : List (String × τ) → Option α}
    (h : ∀ fs a, body fs = some a ↔ Holds s keys fs ∧ of fs = a) :
    ReadsRecords s keys (fun t => (s.fields (keys.map (·.1)) t).bind body) of :=
  fun _ a => bind_eq_some_iff_of_body h a []

theorem ReadsRecords.fieldOr_eq_some_iff (h : ReadsRecords s keys reader of)
    (habsent : of [] = absent) :
    fieldOr fs name absent reader = some a ↔
      (∀ t, fs.lookup name = some t → IsRecord s keys t) ∧ of (sectionOf s fs name keys) = a := by
  rw [fieldOr, sectionOf]
  cases fs.lookup name with
  | none => simp [habsent]
  | some t => simpa using h t a

theorem mapM_eq_some_iff {R : α → Prop} {f : α → β} {g : α → Option β}
    (h : ∀ a b, g a = some b ↔ R a ∧ f a = b) {l : List α} : ∀ {bs : List β},
    l.mapM g = some bs ↔ (∀ a ∈ l, R a) ∧ l.map f = bs := by
  induction l with
  | nil => simp
  | cons a l ih =>
    intro bs
    rw [List.mapM_cons]
    simp only [Option.bind_eq_bind, Option.bind_eq_some_iff, h, ih, Option.pure_def,
      Option.some.injEq, List.forall_mem_cons, List.map_cons]
    constructor
    · rintro ⟨_, ⟨ha, rfl⟩, _, ⟨hl, rfl⟩, rfl⟩
      exact ⟨⟨ha, hl⟩, rfl⟩
    · rintro ⟨⟨ha, hl⟩, rfl⟩
      exact ⟨_, ⟨ha, rfl⟩, _, ⟨hl, rfl⟩, rfl⟩

theorem ReadsRecords.map_eq_some_iff (h : ReadsRecords s keys reader of)
    {m : List (String × α)} :
    s.map reader t = some m ↔
      ∃ es, s.entries t = some es ∧ (∀ e ∈ es, IsRecord s keys e.2) ∧
        Json.sortFields (es.map fun e => (e.1, of (fieldsOf s keys e.2))) = m := by
  have hentry (e : String × τ) (b : String × α) :
      (reader e.2).map (e.1, ·) = some b ↔
        IsRecord s keys e.2 ∧ (e.1, of (fieldsOf s keys e.2)) = b := by
    rw [Option.map_eq_some_iff]
    constructor
    · rintro ⟨a, ha, rfl⟩
      obtain ⟨hrecord, rfl⟩ := (h e.2 a).mp ha
      exact ⟨hrecord, rfl⟩
    · rintro ⟨hrecord, rfl⟩
      exact ⟨_, (h e.2 _).mpr ⟨hrecord, rfl⟩, rfl⟩
  simp only [Source.map, Option.bind_eq_bind, Option.bind_eq_some_iff, mapM_eq_some_iff hentry,
    Option.pure_def, Option.some.injEq, exists_and_left, and_assoc, exists_eq_left']

theorem ReadsRecords.fieldOr_map_eq_some_iff (h : ReadsRecords s keys reader of)
    {m : List (String × α)} :
    fieldOr fs name [] (s.map reader) = some m ↔
      (∀ t, fs.lookup name = some t →
        ∃ es, s.entries t = some es ∧ ∀ e ∈ es, IsRecord s keys e.2) ∧
      Json.sortFields (((said fs name s.entries).getD []).map fun e =>
        (e.1, of (fieldsOf s keys e.2))) = m := by
  rw [fieldOr, said]
  cases fs.lookup name with
  | none => simp [Json.sortFields]
  | some t =>
    rw [Option.bind_some]
    cases hes : s.entries t with
    | none => simp [h.map_eq_some_iff, hes]
    | some es => simp [h.map_eq_some_iff, hes]

/-! ## The sections -/

/-- No variable is set. -/
def noVariables : Environment := fun _ => none

@[simp] theorem value_noVariables (name : String) : noVariables.value name = none := rfl

@[simp] theorem numeral_noVariables (name : String) (limit : Nat) :
    noVariables.numeral name limit = none := rfl

@[simp] theorem holds_nil : Holds s [] fs := fun _ h => absurd h List.not_mem_nil

@[simp] theorem holds_cons {kind : Kind} :
    Holds s ((name, kind) :: keys) fs ↔
      (∀ t, fs.lookup name = some t → kind.IsAt s t) ∧ Holds s keys fs :=
  List.forall_mem_cons

theorem readsRecords_moderation :
    ReadsRecords s moderationKeys (readModeration s) (moderationOf s noVariables) := by
  refine readsRecords_of_body fun fs m => ?_
  simp [moderationKeys, moderationOf, Option.bind_eq_some_iff, and_assoc]

theorem readsRecords_policy :
    ReadsRecords s policyKeys (readPolicy s) (policyOf s noVariables) := by
  refine readsRecords_of_body fun fs p => ?_
  simp [policyKeys, policyOf, Option.bind_eq_some_iff, and_assoc]

theorem readsRecords_agent : ReadsRecords s agentKeys (readAgent s) (agentOf s) := by
  refine readsRecords_of_body fun fs a => ?_
  simp [agentKeys, agentOf, Option.bind_eq_some_iff, and_assoc]

theorem readsRecords_tenant : ReadsRecords s tenantKeys (readTenant s) (tenantOf s) := by
  refine readsRecords_of_body fun fs t => ?_
  simp [tenantKeys, tenantOf, Option.bind_eq_some_iff, and_assoc]

theorem readsRecords_logging : ReadsRecords s loggingKeys (readLogging s) (loggingOf s) := by
  refine readsRecords_of_body fun fs l => ?_
  simp [loggingKeys, loggingOf, Option.bind_eq_some_iff, and_assoc]

@[simp] theorem said_nil (key : String) (reader : τ → Option α) : said [] key reader = none := rfl

@[simp] theorem layer_none_none (absent : α) : layer none none absent = absent := by
  rw [layer, Option.none_or, Option.getD_none]

/-- A tenant has the settings of the last entry with its name. -/
theorem lookup_tenants_settingsOf (env : Environment) (fs : List (String × τ)) (name : String) :
    (settingsOf s env fs).tenants.lookup name =
      (((said fs "tenants" s.entries).getD []).reverse.lookup name).map fun t =>
        tenantOf s (fieldsOf s tenantKeys t) := by
  rw [settingsOf, Json.lookup_sortFields, ← List.map_reverse]
  exact Json.lookup_map_snd (fun t => tenantOf s (fieldsOf s tenantKeys t)) _ name

theorem moderationOf_nil : moderationOf s noVariables [] = {} := by simp [moderationOf]

theorem policyOf_nil : policyOf s noVariables [] = {} := by simp [policyOf]

theorem agentOf_nil : agentOf s [] = {} := by simp [agentOf]

theorem loggingOf_nil : loggingOf s [] = {} := by simp [loggingOf]

theorem read_eq_some_iff {x : Settings} :
    read s t = some x ↔ IsDocument s t ∧ layered s noVariables t = x := by
  refine bind_eq_some_iff_of_body (fun fs x => ?_) x []
  simp only [Option.bind_eq_bind, Option.bind_eq_some_iff,
    readsRecords_moderation.fieldOr_eq_some_iff moderationOf_nil,
    readsRecords_policy.fieldOr_eq_some_iff policyOf_nil,
    readsRecords_agent.fieldOr_eq_some_iff agentOf_nil,
    readsRecords_tenant.fieldOr_map_eq_some_iff,
    readsRecords_logging.fieldOr_eq_some_iff loggingOf_nil,
    and_assoc, exists_and_left, exists_eq_left', Option.pure_def, Option.some.injEq,
    holdsSections_iff, settingsOf]

/-! ## The environment over it -/

variable {env : Environment}

theorem text_layer (name absent : String) (written : Option String) :
    env.text name (layer none written absent) = layer (env.value name) written absent :=
  Option.getD_or.symm

theorem number_layer (name : String) (limit absent : Nat) (written : Option Nat) :
    env.number name limit (layer none written absent) =
      layer (env.numeral name limit) written absent :=
  Option.getD_or.symm

theorem overlayModeration_moderationOf (fs : List (String × τ)) :
    overlayModeration env (moderationOf s noVariables fs) = moderationOf s env fs := by
  simp [overlayModeration, moderationOf, Environment.word, Environment.halfWord, text_layer,
    number_layer]

theorem or_layer (name : String) (written : Option (Option String)) :
    ((env name).filter (!·.isEmpty)).or (layer none written none) =
      layer ((env.value name).map some) written none := by
  rw [← Environment.value]
  cases env.value name <;> rfl

theorem overlayPolicy_policyOf (fs : List (String × τ)) :
    overlayPolicy env (policyOf s noVariables fs) = policyOf s env fs := by
  simp [overlayPolicy, policyOf, text_layer, or_layer]

theorem overlay_layered (t : τ) : overlay env (layered s noVariables t) = layered s env t := by
  rw [layered, layered, overlay, settingsOf, overlayModeration_moderationOf,
    overlayPolicy_policyOf]
  rfl

theorem text_text (name current : String) :
    env.text name (env.text name current) = env.text name current := by
  rw [Environment.text, Environment.text, ← Option.getD_or, Option.or_self]

theorem number_number (name : String) (limit current : Nat) :
    env.number name limit (env.number name limit current) = env.number name limit current := by
  rw [Environment.number, Environment.number, ← Option.getD_or, Option.or_self]

theorem overlay_overlay (x : Settings) : overlay env (overlay env x) = overlay env x := by
  simp [overlay, overlayModeration, overlayPolicy, Environment.word, Environment.halfWord,
    text_text, number_number, ← Option.or_assoc]

/-- The fields that no variable overrides. -/
def unvaried (x : Settings) :
    Nat × Nat × AgentSettings × List (String × TenantSettings) × LoggingSettings :=
  (x.moderation.sweepSecs, x.policy.timeoutMillis, x.agent, x.tenants, x.logging)

theorem numeral_eq_some_iff {limit n : Nat} {name : String} :
    env.numeral name limit = some n ↔
      ∃ v, env name = some v ∧ Text.Denotes v n ∧ n < limit := by
  simp only [Environment.numeral, Option.bind_eq_some_iff, Text.natural?_trim_eq_some_iff]

theorem number_of_unfit {limit : Nat} {name : String}
    (h : ∀ v n, env name = some v → Text.Denotes v n → limit ≤ n) (current : Nat) :
    env.number name limit current = current := by
  have hnone : env.numeral name limit = none := by
    rw [Option.eq_none_iff_forall_ne_some]
    intro n hn
    obtain ⟨v, hv, hdenotes, hlt⟩ := numeral_eq_some_iff.mp hn
    exact Nat.not_le.mpr hlt (h v n hv hdenotes)
  exact congrArg (·.getD current) hnone

/-! ## Loading -/

/-- A document that is left empty. -/
def emptyDocument : Yaml.Document := { root := .empty }

/-- The document in a file: that of its text, or an empty one if there is no such file or if there
are only blanks in it. -/
inductive FileHolds (files : Files) (path : String) : Yaml.Document → Prop where
  | missing (h : files.read path = .error .notFound ∨ files.read path = .error .notDirectory) :
    FileHolds files path emptyDocument
  | blank {text : String} (h : files.readText path = .ok text)
    (hblank : ∀ c ∈ text.toList, Text.isBlank c = true) : FileHolds files path emptyDocument
  | document {text : String} {d : Yaml.Document} (h : files.readText path = .ok text)
    (hink : ∃ c ∈ text.toList, Text.isBlank c = false)
    (hd : Yaml.Document.ofText? text = some d) : FileHolds files path d

theorem read_emptyDocument : read (.yaml emptyDocument) emptyDocument.root = some {} :=
  read_nothing rfl

theorem ofFile_eq_of_readText {files : Files} {path text : String}
    (h : files.readText path = .ok text) :
    ofFile files path = (ofText text).mapError (unparsable path) := by
  have hread : ∃ bytes, files.read path = .ok bytes := by
    rw [Files.readText] at h
    cases hr : files.read path with
    | ok bytes => exact ⟨bytes, rfl⟩
    | error e => rw [hr] at h; cases h
  obtain ⟨bytes, hread⟩ := hread
  rw [ofFile, hread, h]

theorem ofFile_eq_ok_iff {files : Files} {path : String} {d : Yaml.Document}
    (h : FileHolds files path d) {x : Settings} :
    ofFile files path = .ok x ↔ read (.yaml d) d.root = some x := by
  cases h with
  | missing h =>
    have hof : ofFile files path = .ok {} := by
      rcases h with h | h <;> rw [ofFile, h]
    rw [hof, read_emptyDocument]
    simp
  | blank h hblank =>
    rw [ofFile_eq_of_readText h, ofText, if_pos (Text.isEmpty_trim_iff.mpr hblank),
      read_emptyDocument]
    simp [Except.mapError]
  | document h hink hd =>
    rename_i text
    have hkept : ¬ (Text.trim text).isEmpty = true := by
      obtain ⟨c, hc, hink⟩ := hink
      exact fun he => Bool.false_ne_true (hink.symm.trans (Text.isEmpty_trim_iff.mp he c hc))
    rw [ofFile_eq_of_readText h, ofText, if_neg hkept, hd, Option.bind_some]
    cases read (.yaml d) d.root <;> simp [Except.mapError]

section Load

variable {files : Files} {home : String} {path : Option String} {d : Yaml.Document}

theorem load_eq_ok_iff {x : Settings} :
    load files home env path = .ok x ↔
      ∃ y, ofFile files (path.getD (file home env)) = .ok y ∧ overlay env y = x := by
  rw [load]
  cases ofFile files (path.getD (file home env)) <;> simp [Except.map]

theorem load_eq_ok_iff_layered (h : FileHolds files (path.getD (file home env)) d) {x : Settings} :
    load files home env path = .ok x ↔
      IsDocument (.yaml d) d.root ∧ layered (.yaml d) env d.root = x := by
  rw [load_eq_ok_iff]
  constructor
  · rintro ⟨y, hy, rfl⟩
    obtain ⟨hd, rfl⟩ := read_eq_some_iff.mp ((ofFile_eq_ok_iff h).mp hy)
    exact ⟨hd, (overlay_layered d.root).symm⟩
  · rintro ⟨hd, rfl⟩
    exact ⟨_, (ofFile_eq_ok_iff h).mpr (read_eq_some_iff.mpr ⟨hd, rfl⟩), overlay_layered d.root⟩

/-- **Settings come in layers.** A document that sets any of the known keys can be loaded, and no
other can: every field is then what its variable says, else what the document says, else what it is
to begin with. The environment changes nothing when it is put over the settings once more, and it
has no say in any but twelve of the fields. A variable says a number exactly if it denotes one that
fits, and otherwise leaves the field as it is. -/
theorem load_layered (h : FileHolds files (path.getD (file home env)) d) :
    (∀ x, load files home env path = .ok x ↔
        IsDocument (.yaml d) d.root ∧ layered (.yaml d) env d.root = x) ∧
      (∀ x, load files home env path = .ok x → overlay env x = x) ∧
      (∀ env', (load files home env' (some (path.getD (file home env)))).map unvaried =
        (load files home env path).map unvaried) ∧
      (∀ name limit n, env.numeral name limit = some n ↔
        ∃ v, env name = some v ∧ Text.Denotes v n ∧ n < limit) ∧
      ∀ name limit current, (∀ v n, env name = some v → Text.Denotes v n → limit ≤ n) →
        env.number name limit current = current := by
  refine ⟨fun x => load_eq_ok_iff_layered h, fun x hx => ?_, fun env' => ?_,
    fun name limit n => numeral_eq_some_iff, fun name limit current h => number_of_unfit h current⟩
  · obtain ⟨y, -, rfl⟩ := load_eq_ok_iff.mp hx
    exact overlay_overlay y
  · rw [load, load, Option.getD_some]
    cases ofFile files (path.getD (file home env)) <;> rfl

end Load

/-- A document with two keys. -/
def twoKeys : String := "moderation:\n  workers: 4\n  rps: 7\n"

/-- A number, one that is too large, and nothing. -/
def threeVariables : Environment := fun name =>
  [("LLM_WORKERS", " +8 "), ("QWEN_RPS", "4294967296"), ("QWEN_MODEL", "")].lookup name

theorem two_keys_in_layers :
    load ⟨fun _ => .ok twoKeys.toUTF8, fun _ => .error .notFound⟩ "/root" threeVariables none =
      .ok { moderation := { workers := 8, rate := 7 } } := by
  have htext : Yaml.Document.ofText? twoKeys =
      some ((Yaml.Document.ofText? twoKeys).getD emptyDocument) := by
    have : (Yaml.Document.ofText? twoKeys).isSome = true := by decide +kernel
    obtain ⟨d, hd⟩ := Option.isSome_iff_exists.mp this
    rw [hd, Option.getD_some]
  have hread : read (.yaml ((Yaml.Document.ofText? twoKeys).getD emptyDocument))
      ((Yaml.Document.ofText? twoKeys).getD emptyDocument).root =
        some { moderation := { workers := 4, rate := 7 } } := by decide +kernel
  have hink : ∃ c ∈ twoKeys.toList, Text.isBlank c = false :=
    ⟨'m', by decide +kernel, by decide +kernel⟩
  refine ((load_layered (.document rfl hink htext)).1 _).mpr ⟨(read_eq_some_iff.mp hread).1, ?_⟩
  decide +kernel

end Guardrail.Settings
