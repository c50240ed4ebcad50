import Guardrail.Decision.Modules
import Guardrail.Proofs.Json.Fields

/-! # The modules of a directory

What is loaded from a directory is told by its listing as a set: no order of its entries matters,
for the modules stand in the order of their names (`load_eq_ok_iff`, `OfDirectory.relist`). Loading
fails if and only if the listing, one of its entries or a module file cannot be read
(`load_cases`). -/

namespace Guardrail

/-! ## Loading -/

namespace Decision.Modules

/-- A direct entry that is no directory, with a name that has exactly this extension. -/
def ModuleFile (files : Files) (directory name : String) : Prop :=
  (∃ stem, stem ≠ "" ∧ name = stem ++ ".rego") ∧
    ∃ listing, files.list directory = .ok listing ∧ .ok ⟨name, false⟩ ∈ listing

/-- A directory, one of its entries or one of its module files cannot be read. -/
def Unreadable (files : Files) (directory : String) : Prop :=
  (∃ fault, files.list directory = .error fault) ∨
    (∃ listing fault, files.list directory = .ok listing ∧ .error fault ∈ listing) ∨
    ∃ name text, ModuleFile files directory name ∧
      files.readText (Files.join directory name) = .error text

/-- The modules of a directory: by name, one for every module file, and no others. -/
structure OfDirectory (files : Files) (directory : String) (modules : Modules) : Prop where
  readable : ¬ Unreadable files directory
  sorted : modules.Pairwise (·.1 < ·.1)
  mem : ∀ name source, (name, source) ∈ modules ↔ ModuleFile files directory name ∧
    files.readText (Files.join directory name) = .ok source

variable {files files' : Files} {directory : String}

theorem isModuleName_iff (name : String) :
    isModuleName name = true ↔ ∃ stem, stem ≠ "" ∧ name = stem ++ ".rego" := by
  have hends : name.endsWith extension = true ↔ ∃ stem, name = stem ++ ".rego" := by
    rw [← String.endsWith_toSlice, String.Slice.endsWith_string_iff, String.copy_toSlice]
    constructor
    · rintro ⟨front, hfront⟩
      refine ⟨String.ofList front, String.toList_inj.mp ?_⟩
      rw [String.toList_append, String.toList_ofList]
      exact hfront.symm
    · rintro ⟨stem, rfl⟩
      exact ⟨stem.toList, (String.toList_append ..).symm⟩
  rw [isModuleName, Bool.and_eq_true, hends, bne_iff_ne]
  constructor
  · rintro ⟨⟨stem, rfl⟩, hne⟩
    refine ⟨stem, ?_, rfl⟩
    rintro rfl
    exact hne rfl
  · rintro ⟨stem, hstem, rfl⟩
    refine ⟨⟨stem, rfl⟩, fun heq => hstem ?_⟩
    have hlist : stem.toList ++ extension.toList = extension.toList := by
      rw [← String.toList_append]
      exact congrArg String.toList heq
    exact String.toList_eq_nil_iff.mp (List.append_left_eq_self.mp hlist)

theorem moduleFile_iff {listing : List (Except FileFault DirectoryEntry)}
    (h : files.list directory = .ok listing) (name : String) :
    ModuleFile files directory name ↔ isModuleName name = true ∧ .ok ⟨name, false⟩ ∈ listing := by
  rw [isModuleName_iff]
  refine and_congr_right fun _ => ⟨?_, fun hm => ⟨listing, h, hm⟩⟩
  rintro ⟨listing', h', hm⟩
  cases h.symm.trans h'
  exact hm

/-- The sources of a listing are those of its module files. -/
theorem loadEntries_ok {listing : List (Except FileFault DirectoryEntry)}
    {sources : List (String × String)} (h : loadEntries files directory listing = .ok sources) :
    (∀ fault, .error fault ∉ listing) ∧
      (∀ name, isModuleName name = true → .ok ⟨name, false⟩ ∈ listing →
        ∃ source, files.readText (Files.join directory name) = .ok source) ∧
      ∀ name source, (name, source) ∈ sources ↔
        (isModuleName name = true ∧ .ok ⟨name, false⟩ ∈ listing) ∧
          files.readText (Files.join directory name) = .ok source := by
  induction listing generalizing sources with
  | nil =>
    cases h
    exact ⟨nofun, nofun, by simp⟩
  | cons first rest ih =>
    obtain fault | ⟨first, isDirectory⟩ := first
    · cases h
    simp only [loadEntries] at h
    split at h
    · rename_i hskip
      have hother {name : String} (hname : isModuleName name = true)
          (hm : .ok ⟨name, false⟩ ∈ .ok ⟨first, isDirectory⟩ :: rest) :
          .ok ⟨name, false⟩ ∈ rest := by
        rcases List.mem_cons.mp hm with heq | hm
        · cases heq
          simp [hname] at hskip
        · exact hm
      obtain ⟨hfault, hread, hmem⟩ := ih h
      refine ⟨by simpa using hfault, ?_, ?_⟩
      · intro name hname hm
        exact hread name hname (hother hname hm)
      · intro name source
        rw [hmem name source]
        refine and_congr_left fun _ => and_congr_right fun hname => ?_
        exact ⟨List.mem_cons_of_mem _, hother hname⟩
    · rename_i htake
      obtain ⟨rfl, hfirst⟩ : isDirectory = false ∧ isModuleName first = true := by
        simpa using htake
      split at h
      · cases h
      rename_i text htext
      cases hrest : loadEntries files directory rest with
      | error fault => rw [hrest] at h; cases h
      | ok others =>
        rw [hrest] at h
        cases h
        obtain ⟨hfault, hread, hmem⟩ := ih hrest
        refine ⟨by simpa using hfault, ?_, ?_⟩
        · intro name hname hm
          rcases List.mem_cons.mp hm with heq | hm
          · cases heq
            exact ⟨text, htext⟩
          · exact hread name hname hm
        · intro name source
          rw [List.mem_cons, List.mem_cons, hmem name source]
          constructor
          · rintro (heq | ⟨⟨hname, hm⟩, hsource⟩)
            · obtain ⟨rfl, rfl⟩ := Prod.mk.inj heq
              exact ⟨⟨hfirst, .inl rfl⟩, htext⟩
            · exact ⟨⟨hname, .inr hm⟩, hsource⟩
          · rintro ⟨⟨hname, heq | hm⟩, hsource⟩
            · cases heq
              cases htext.symm.trans hsource
              exact .inl rfl
            · exact .inr ⟨⟨hname, hm⟩, hsource⟩

theorem loadEntries_error {listing : List (Except FileFault DirectoryEntry)} {f : Fault}
    (h : loadEntries files directory listing = .error f) :
    (∃ details, f = .load directory details) ∧
      ((∃ fault, .error fault ∈ listing) ∨
        ∃ name text, (isModuleName name = true ∧ .ok ⟨name, false⟩ ∈ listing) ∧
          files.readText (Files.join directory name) = .error text) := by
  induction listing with
  | nil => cases h
  | cons first rest ih =>
    obtain fault | ⟨first, isDirectory⟩ := first
    · cases h
      exact ⟨⟨_, rfl⟩, .inl ⟨fault, List.mem_cons_self ..⟩⟩
    have hlater (hrest : loadEntries files directory rest = .error f) :
        (∃ details, f = .load directory details) ∧
          ((∃ fault, .error fault ∈ .ok ⟨first, isDirectory⟩ :: rest) ∨
            ∃ name text, (isModuleName name = true ∧
                .ok ⟨name, false⟩ ∈ .ok ⟨first, isDirectory⟩ :: rest) ∧
              files.readText (Files.join directory name) = .error text) := by
      obtain ⟨hload, ⟨fault, hfault⟩ | ⟨name, text, ⟨hname, hm⟩, htext⟩⟩ := ih hrest
      · exact ⟨hload, .inl ⟨fault, List.mem_cons_of_mem _ hfault⟩⟩
      · exact ⟨hload, .inr ⟨name, text, ⟨hname, List.mem_cons_of_mem _ hm⟩, htext⟩⟩
    simp only [loadEntries] at h
    split at h
    · exact hlater h
    · rename_i htake
      obtain ⟨rfl, hfirst⟩ : isDirectory = false ∧ isModuleName first = true := by
        simpa using htake
      split at h
      · rename_i text htext
        cases h
        exact ⟨⟨_, rfl⟩, .inr ⟨first, text, ⟨hfirst, List.mem_cons_self ..⟩, htext⟩⟩
      · cases hrest : loadEntries files directory rest with
        | error fault =>
          rw [hrest] at h
          cases h
          exact hlater hrest
        | ok others => rw [hrest] at h; cases h

/-- Either all that a directory holds is loaded, or something in it cannot be read. -/
theorem load_cases (files : Files) (directory : String) :
    (∃ modules, load files directory = .ok modules ∧ OfDirectory files directory modules) ∨
      ∃ details, load files directory = .error (.load directory details) ∧
        Unreadable files directory := by
  unfold load
  cases hlist : files.list directory with
  | error fault => exact .inr ⟨_, rfl, .inl ⟨fault, hlist⟩⟩
  | ok listing =>
    have hfile := moduleFile_iff hlist
    dsimp only
    cases hload : loadEntries files directory listing with
    | error f =>
      obtain ⟨⟨details, rfl⟩, ⟨fault, hfault⟩ | ⟨name, text, hm, htext⟩⟩ :=
        loadEntries_error hload
      · exact .inr ⟨details, rfl, .inr (.inl ⟨listing, fault, hlist, hfault⟩)⟩
      · exact .inr ⟨details, rfl, .inr (.inr ⟨name, text, (hfile name).mpr hm, htext⟩)⟩
    | ok sources =>
      obtain ⟨hfault, hread, hmem⟩ := loadEntries_ok hload
      -- A name that is listed twice has one path, and so one source: no entry replaces another.
      refine .inl ⟨ofList sources, rfl, ?_, Json.pairwise_sortFields sources, ?_⟩
      · rintro (⟨fault, hbad⟩ | ⟨listing', fault, hlist', hbad⟩ | ⟨name, text, hm, hbad⟩)
        · cases hlist.symm.trans hbad
        · cases hlist.symm.trans hlist'
          exact hfault fault hbad
        · obtain ⟨hname, hm⟩ := (hfile name).mp hm
          obtain ⟨source, hsource⟩ := hread name hname hm
          cases hsource.symm.trans hbad
      · intro name source
        rw [hfile name, ← hmem name source]
        refine Json.mem_sortFields (fun k v v' hv hv' => ?_) _
        exact Except.ok.inj (((hmem k v).mp hv).2.symm.trans ((hmem k v').mp hv').2)

theorem OfDirectory.unique {modules modules' : Modules} (h : OfDirectory files directory modules)
    (h' : OfDirectory files directory modules') : modules = modules' := by
  refine Json.eq_of_pairwise_of_mem_iff h.sorted h'.sorted fun ⟨name, source⟩ => ?_
  rw [h.mem, h'.mem]

/-- **What is loaded is what the directory holds.** -/
theorem load_eq_ok_iff {modules : Modules} :
    load files directory = .ok modules ↔ OfDirectory files directory modules := by
  rcases load_cases files directory with ⟨loaded, hload, hof⟩ | ⟨details, hload, hbad⟩
  · rw [hload]
    constructor
    · rintro ⟨⟩
      exact hof
    · intro h
      rw [h.unique hof]
  · rw [hload]
    exact ⟨nofun, fun h => absurd hbad h.readable⟩

/-- The order in which a directory is listed does not matter. -/
theorem OfDirectory.relist {modules : Modules}
    {listing listing' : List (Except FileFault DirectoryEntry)}
    (h : OfDirectory files directory modules) (hread : files'.read = files.read)
    (hl : files.list directory = .ok listing) (hl' : files'.list directory = .ok listing')
    (hperm : listing.Perm listing') : OfDirectory files' directory modules := by
  have hfile (name : String) :
      ModuleFile files' directory name ↔ ModuleFile files directory name := by
    rw [moduleFile_iff hl, moduleFile_iff hl', hperm.mem_iff]
  have htext (path : String) : files'.readText path = files.readText path := by
    rw [Files.readText, hread, Files.readText]
  refine ⟨?_, h.sorted, fun name source => ?_⟩
  · rintro (⟨fault, hbad⟩ | ⟨bad, fault, hbad, hfault⟩ | ⟨name, text, hm, hbad⟩)
    · cases hl'.symm.trans hbad
    · cases hl'.symm.trans hbad
      exact h.readable (.inr (.inl ⟨listing, fault, hl, hperm.mem_iff.mpr hfault⟩))
    · exact h.readable (.inr (.inr ⟨name, text, (hfile name).mp hm, htext _ ▸ hbad⟩))
  · rw [h.mem, hfile, htext]

end Decision.Modules
end Guardrail
