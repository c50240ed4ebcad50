import Guardrail.Proofs.Decision.Directory
import Guardrail.Proofs.Decision.Runs

/-! # Reloads take effect as a whole or not at all

A reload that succeeds puts its modules in place of those there are, counts the version up and tells
it to the callback; one that fails, and all else that happens, changes nothing of that
(`act_cases`). Versions, modules and callbacks of a run are told by its reloads alone. -/

namespace Guardrail.Decision.Evaluator

/-- The modules that a reload puts in place, if it succeeds. -/
def Act.loaded? : Act → Option Modules
  | reload modules => if modules.isEmpty then none else some modules
  | reloadDirectory files directory =>
    match Modules.load files directory with
    | .ok modules => if modules.isEmpty then none else some modules
    | .error _ => none
  | _ => none

def Act.mark? : Act → Option Nat
  | listen mark => some mark
  | _ => none

/-- The marks and versions that callbacks are told in a run, the earliest first: every reload that
succeeds is told once, to the callback that was set last. -/
def announced (version : Nat) (callback : Option Nat) : List Act → List (Nat × Nat)
  | [] => []
  | a :: rest =>
    if a.loaded?.isSome then
      (callback.map (·, version + 1)).toList ++ announced (version + 1) callback rest
    else announced version (a.mark?.or callback) rest

/-- The evaluator with other modules, after its callback has been told. -/
def install (e : Evaluator) (modules : Modules) : Evaluator :=
  { e with
    modules
    version := e.version + 1
    told := (e.callback.map (·, e.version + 1)).toList ++ e.told }

variable {e : Evaluator}

/-! ## One reload -/

theorem reload_of_ne_nil {modules : Modules} (h : modules ≠ []) (e : Evaluator) :
    e.reload modules = .ok (e.install modules) := by
  rw [reload, if_neg (by simpa using h)]
  rfl

/-- A directory is loaded whole, or it holds no modules, or it cannot be read. -/
theorem reloadDirectory_cases (e : Evaluator) (files : Files) (directory : String) :
    (∃ modules, modules ≠ [] ∧ Modules.OfDirectory files directory modules ∧
      (Act.reloadDirectory files directory).loaded? = some modules ∧
      e.reloadDirectory files directory = .ok (e.install modules)) ∨
    ∃ f, e.reloadDirectory files directory = .error f ∧
      (Act.reloadDirectory files directory).loaded? = none ∧
      ((Modules.OfDirectory files directory [] ∧ f = .emptyModuleSet (some directory)) ∨
        Modules.Unreadable files directory ∧ ∃ details, f = .load directory details) := by
  rw [reloadDirectory, Act.loaded?]
  rcases Modules.load_cases files directory with ⟨modules, hload, hof⟩ | ⟨details, hload, hbad⟩
  · rw [hload]
    by_cases hempty : modules = []
    · subst hempty
      exact .inr ⟨_, rfl, rfl, .inl ⟨hof, rfl⟩⟩
    · have hne : modules.isEmpty = false := by simpa using hempty
      refine .inl ⟨modules, hempty, hof, ?_, ?_⟩
      · simp [hne]
      · rw [← reload_of_ne_nil hempty e]
        simp [bind, Except.bind, hne]
  · rw [hload]
    exact .inr ⟨_, rfl, rfl, .inr ⟨hbad, details, rfl⟩⟩

/-- What an act makes of modules, version and callbacks. -/
theorem act_cases (e : Evaluator) (a : Act) :
    (∃ modules, a.loaded? = some modules ∧ modules ≠ [] ∧ a.mark? = none ∧
      e.act a = e.install modules) ∨
    (a.loaded? = none ∧ ∃ now permits tasks journal,
      e.act a = { e with callback := a.mark?.or e.callback, now, permits, tasks, journal }) := by
  cases a with
  | reload modules =>
    by_cases hempty : modules = []
    · subst hempty
      exact .inr ⟨rfl, e.now, e.permits, e.tasks, e.journal, rfl⟩
    · refine .inl ⟨modules, ?_, hempty, rfl, ?_⟩
      · simp [Act.loaded?, hempty]
      · rw [act, reload_of_ne_nil hempty]
  | reloadDirectory files directory =>
    rcases reloadDirectory_cases e files directory with
      ⟨modules, hne, -, hloaded, heq⟩ | ⟨f, heq, hloaded, -⟩
    · refine .inl ⟨modules, hloaded, hne, rfl, ?_⟩
      rw [act, heq]
    · refine .inr ⟨hloaded, e.now, e.permits, e.tasks, e.journal, ?_⟩
      rw [act, heq]
      rfl
  | listen mark => exact .inr ⟨rfl, e.now, e.permits, e.tasks, e.journal, rfl⟩
  | ask engine input =>
    obtain ⟨permits, tasks, journal, heq⟩ := ask_frame e engine input
    exact .inr ⟨rfl, e.now, permits, tasks, journal, heq⟩
  | move m =>
    refine .inr ⟨rfl, ?_⟩
    rw [act]
    split
    · obtain ⟨permits, tasks, journal, heq⟩ := (performed e m).frame
      exact ⟨e.now, permits, tasks, journal, heq⟩
    · exact ⟨e.now, e.permits, e.tasks, e.journal, rfl⟩
  | wait ticks => exact .inr ⟨rfl, e.now + ticks, e.permits, e.tasks, e.journal, rfl⟩

/-- The order in which a directory is listed does not matter. -/
theorem loaded?_relist {files files' : Files} {directory : String}
    {listing listing' : List (Except FileFault DirectoryEntry)} (hread : files'.read = files.read)
    (hl : files.list directory = .ok listing) (hl' : files'.list directory = .ok listing')
    (hperm : listing.Perm listing') :
    (Act.reloadDirectory files' directory).loaded? =
      (Act.reloadDirectory files directory).loaded? := by
  have hsame {modules : Modules} : Modules.OfDirectory files directory modules ↔
      Modules.OfDirectory files' directory modules :=
    ⟨fun h => h.relist hread hl hl' hperm, fun h => h.relist hread.symm hl' hl hperm.symm⟩
  rw [Act.loaded?, Act.loaded?]
  rcases Modules.load_cases files directory with ⟨modules, hload, hof⟩ | ⟨details, hload, hbad⟩
  · rw [hload, Modules.load_eq_ok_iff.mpr (hsame.mp hof)]
  · rcases Modules.load_cases files' directory with ⟨modules, -, hof⟩ | ⟨details', hload', -⟩
    · exact absurd hbad (hsame.mpr hof).readable
    · rw [hload, hload']

/-- An evaluator of a directory is one of the modules that are loaded from it. -/
theorem ofDirectory_eq_ok_iff {files : Files} {directory query : String} {timeout : Nat} :
    ofDirectory files directory query timeout = .ok e ↔
      ∃ modules, Modules.OfDirectory files directory modules ∧
        new modules query timeout = .ok e := by
  rw [ofDirectory]
  constructor
  · intro h
    cases hload : Modules.load files directory with
    | error f => rw [hload] at h; cases h
    | ok modules =>
      rw [hload] at h
      simp only [bind, Except.bind] at h
      split at h
      · cases h
      · exact ⟨modules, Modules.load_eq_ok_iff.mp hload, h⟩
  · rintro ⟨modules, hof, h⟩
    have hne : modules.isEmpty = false := by simpa using (new_eq_ok h).1
    rw [Modules.load_eq_ok_iff.mpr hof]
    simpa [bind, Except.bind, hne] using h

/-! ## Runs -/

theorem run_version (e : Evaluator) (acts : List Act) :
    (e.run acts).version = e.version + (acts.filterMap Act.loaded?).length := by
  induction acts generalizing e with
  | nil => rfl
  | cons a rest ih =>
    rw [run_cons, ih]
    rcases act_cases e a with
      ⟨modules, hloaded, -, -, heq⟩ | ⟨hloaded, now, permits, tasks, journal, heq⟩
    · rw [heq, List.filterMap_cons_some hloaded, List.length_cons, install]
      dsimp only
      omega
    · rw [heq, List.filterMap_cons_none hloaded]

theorem run_modules (e : Evaluator) (acts : List Act) :
    (e.run acts).modules = (acts.filterMap Act.loaded?).getLast?.getD e.modules := by
  induction acts generalizing e with
  | nil => rfl
  | cons a rest ih =>
    rw [run_cons, ih]
    rcases act_cases e a with
      ⟨modules, hloaded, -, -, heq⟩ | ⟨hloaded, now, permits, tasks, journal, heq⟩
    · rw [heq, List.filterMap_cons_some hloaded, List.getLast?_cons]
      rfl
    · rw [heq, List.filterMap_cons_none hloaded]

theorem run_callback (e : Evaluator) (acts : List Act) :
    (e.run acts).callback = (acts.filterMap Act.mark?).getLast?.or e.callback := by
  induction acts generalizing e with
  | nil => rfl
  | cons a rest ih =>
    rw [run_cons, ih]
    rcases act_cases e a with ⟨modules, -, -, hmark, heq⟩ | ⟨-, now, permits, tasks, journal, heq⟩
    · rw [heq, List.filterMap_cons_none hmark]
      rfl
    · rw [heq]
      cases hmark : a.mark? with
      | none => rw [List.filterMap_cons_none hmark, Option.none_or]
      | some mark =>
        rw [List.filterMap_cons_some hmark, List.getLast?_cons]
        cases (rest.filterMap Act.mark?).getLast? <;> rfl

theorem run_told (e : Evaluator) (acts : List Act) :
    (e.run acts).told.reverse = e.told.reverse ++ announced e.version e.callback acts := by
  induction acts generalizing e with
  | nil => simp [run, announced]
  | cons a rest ih =>
    rw [run_cons, ih, announced]
    rcases act_cases e a with
      ⟨modules, hloaded, -, -, heq⟩ | ⟨hloaded, now, permits, tasks, journal, heq⟩
    · rw [heq, hloaded, if_pos Option.isSome_some, install]
      dsimp only
      rw [List.reverse_append, List.append_assoc]
      cases e.callback <;> rfl
    · rw [heq, hloaded]
      rfl

/-- The modules of a run are those there were or those of a successful reload, which are never
empty. -/
theorem run_modules_ne_nil (h : e.modules ≠ []) (acts : List Act) : (e.run acts).modules ≠ [] := by
  induction acts generalizing e with
  | nil => exact h
  | cons a rest ih =>
    rw [run_cons]
    rcases act_cases e a with ⟨modules, -, hne, -, heq⟩ | ⟨-, now, permits, tasks, journal, heq⟩
    · rw [heq]
      exact ih hne
    · rw [heq]
      exact ih h

theorem lt_of_mem_announced {version : Nat} {callback : Option Nat} {acts : List Act}
    {told : Nat × Nat} (h : told ∈ announced version callback acts) : version < told.2 := by
  induction acts generalizing version callback with
  | nil => cases h
  | cons a rest ih =>
    rw [announced] at h
    split at h
    · rcases List.mem_append.mp h with h | h
      · obtain ⟨mark, -, rfl⟩ := Option.map_eq_some_iff.mp (Option.mem_toList.mp h)
        exact Nat.lt_succ_self version
      · exact Nat.lt_trans (Nat.lt_succ_self version) (ih h)
    · exact ih h

theorem announced_increasing (version : Nat) (callback : Option Nat) (acts : List Act) :
    (announced version callback acts).Pairwise (·.2 < ·.2) := by
  induction acts generalizing version callback with
  | nil => exact List.Pairwise.nil
  | cons a rest ih =>
    rw [announced]
    split
    · cases callback with
      | none => exact ih (version + 1) none
      | some mark =>
        exact List.pairwise_cons.mpr ⟨fun told h => lt_of_mem_announced h, ih _ _⟩
    · exact ih _ _

/-- **Reloads take effect as a whole or not at all.** The version is one more than the number of
reloads that succeeded, the modules are those of the last of them, or the first ones, and callbacks
are told just the versions that reloads led to, in their order. A reload succeeds if and only if its
modules are not empty, or if it can read a directory that holds some; they are then the modules of
the directory, however it is listed. A reload that fails leaves the evaluator as it was. -/
theorem reloads_all_or_nothing {modules : Modules} {query : String} {timeout : Nat}
    {e₀ : Evaluator} (h : new modules query timeout = .ok e₀) (limit : Nat) (acts : List Act) :
    let e := (e₀.withLimit limit).run acts
    (e.version = 1 + (acts.filterMap Act.loaded?).length ∧
      e.modules = (acts.filterMap Act.loaded?).getLast?.getD modules ∧ e.modules ≠ [] ∧
      e.query = query ∧ e.callback = (acts.filterMap Act.mark?).getLast? ∧
      e.told.reverse = announced 1 none acts ∧
      ∀ mark, ((e.told.reverse.filter (·.1 == mark)).map (·.2)).Pairwise (· < ·)) ∧
    (∀ modules',
      (modules' ≠ [] ∧ (Act.reload modules').loaded? = some modules' ∧
        e.reload modules' = .ok (e.install modules')) ∨
      (modules' = [] ∧ (Act.reload modules').loaded? = none ∧
        e.reload modules' = .error (.emptyModuleSet none) ∧ e.act (.reload modules') = e)) ∧
    (∀ files directory,
      (∃ modules', modules' ≠ [] ∧ Modules.OfDirectory files directory modules' ∧
        (Act.reloadDirectory files directory).loaded? = some modules' ∧
        e.reloadDirectory files directory = .ok (e.install modules')) ∨
      ((Modules.OfDirectory files directory [] ∨ Modules.Unreadable files directory) ∧
        (Act.reloadDirectory files directory).loaded? = none ∧
        (∃ f, e.reloadDirectory files directory = .error f) ∧
        e.act (.reloadDirectory files directory) = e)) ∧
    (∀ files files' directory listing listing', files'.read = files.read →
      files.list directory = .ok listing → files'.list directory = .ok listing' →
      listing.Perm listing' → (Act.reloadDirectory files' directory).loaded? =
        (Act.reloadDirectory files directory).loaded?) ∧
    ∀ files directory e₁, ofDirectory files directory query timeout = .ok e₁ ↔
      ∃ modules', Modules.OfDirectory files directory modules' ∧
        new modules' query timeout = .ok e₁ := by
  intro e
  have hquery : e.query = query := ((fixed_new h limit).run acts).query
  obtain ⟨hne, rfl⟩ := new_eq_ok h
  have hcallback : e.callback = (acts.filterMap Act.mark?).getLast? :=
    (run_callback _ acts).trans Option.or_none
  have htold : e.told.reverse = announced 1 none acts := run_told _ acts
  refine ⟨⟨run_version _ acts, run_modules _ acts, ?_, hquery, hcallback, htold, ?_⟩,
    ?_, ?_, ?_, ?_⟩
  · exact run_modules_ne_nil hne acts
  · intro mark
    rw [htold, List.pairwise_map]
    exact (announced_increasing 1 none acts).filter _
  · intro modules'
    by_cases hempty : modules' = []
    · subst hempty
      exact .inr ⟨rfl, rfl, rfl, rfl⟩
    · refine .inl ⟨hempty, ?_, reload_of_ne_nil hempty e⟩
      simp [Act.loaded?, hempty]
  · intro files directory
    refine (reloadDirectory_cases e files directory).imp_right ?_
    rintro ⟨f, heq, hloaded, hwhy⟩
    refine ⟨hwhy.imp And.left And.left, hloaded, ⟨f, heq⟩, ?_⟩
    rw [act, heq]
  · intro files files' directory listing listing' hread hl hl' hperm
    exact loaded?_relist hread hl hl' hperm
  · intro files directory e₁
    exact ofDirectory_eq_ok_iff

/-- A directory with two modules, a text and a directory that is named like a module. -/
def twoModules : Files where
  read path :=
    if path = "policies/a.rego" then .ok "package a".toUTF8
    else if path = "policies/b.rego" then .ok "package b".toUTF8
    else .error .notFound
  list path :=
    if path = "policies" then
      .ok [.ok ⟨"b.rego", false⟩, .ok ⟨"notes.md", false⟩, .ok ⟨"nested.rego", true⟩,
        .ok ⟨"a.rego", false⟩]
    else .error .notFound

/-- Two reloads that succeed, and one of each kind that fails. -/
def reloading : List Act :=
  [.listen 7, .reload [], .reload [("c.rego", "package c")],
    .reloadDirectory twoModules "policies", .reloadDirectory twoModules "absent"]

def mainOnly : Evaluator :=
  { modules := [("main.rego", "package main")], query := "data.main", timeout := 100 }

theorem reloading_aligned :
    new mainOnly.modules mainOnly.query mainOnly.timeout = .ok mainOnly ∧
      ((mainOnly.withLimit 2).run reloading).version = 3 ∧
      ((mainOnly.withLimit 2).run reloading).modules =
        [("a.rego", "package a"), ("b.rego", "package b")] ∧
      ((mainOnly.withLimit 2).run reloading).told.reverse = [(7, 2), (7, 3)] := by
  have hnew : new mainOnly.modules mainOnly.query mainOnly.timeout = .ok mainOnly := rfl
  obtain ⟨⟨hversion, hmodules, -, -, -, htold, -⟩, -⟩ := reloads_all_or_nothing hnew 2 reloading
  refine ⟨hnew, ?_⟩
  rw [hversion, hmodules, htold]
  decide +kernel

end Guardrail.Decision.Evaluator
