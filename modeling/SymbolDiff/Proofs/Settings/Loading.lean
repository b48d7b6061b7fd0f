import SymbolDiff.Proofs.Settings.Paths

/-!
# Loading settings

Settings are read, resolved, checked for completeness and given their debug
arguments.  This file says what a settings file is loaded as, step by step,
and that resolving can change places with the steps after it.
-/

namespace SymbolDiff

open Outcome

namespace FileSystem

/-- A path leads to a file of this content, and the file really stands in this
directory. -/
def LeadsToFile (system : FileSystem) (path base : Path) (content : ByteArray) :
    Prop :=
  ∃ names, system.locate path = .ok names ∧
    system.top.find? names = some (.file content) ∧
    base = ⟨.root, names.dropLast⟩

theorem LeadsToFile.isAbsolute {system : FileSystem} {path base : Path}
    {content : ByteArray} (stands : system.LeadsToFile path base content) :
    base.isAbsolute = true := by
  obtain ⟨_, _, _, rfl⟩ := stands
  rfl

theorem stat?_eq_file_iff {system : FileSystem} {path : Path}
    {content : ByteArray} :
    system.stat? path = some (.file content) ↔
      ∃ base, system.LeadsToFile path base content := by
  unfold stat? LeadsToFile
  cases system.locate path with
  | ok names => simp
  | error fault => simp

/-- Where an absolute path leads to does not depend on the working directory. -/
theorem locate_elsewhere (system : FileSystem) {path : Path}
    (absolute : path.isAbsolute = true) (working : Path) :
    { system with working := working }.locate path = system.locate path := by
  simp only [locate, FileSystem.absolute, Path.join_of_isAbsolute absolute]

theorem resolve_elsewhere (system : FileSystem) {path : Path}
    (absolute : path.isAbsolute = true) (working : Path) :
    { system with working := working }.resolve path = system.resolve path := by
  simp only [resolve, FileSystem.absolute, Path.join_of_isAbsolute absolute]
  split
  · rfl
  · rename_i stuck fails
    have left : stuck.isAbsolute = true := isAbsolute_of_realPath fails
    have settled : ({ stuck with names := Path.settle [] stuck.names } :
        Path).isAbsolute = true := left
    rw [locate_elsewhere system settled working]

end FileSystem

namespace Settings

variable {system : FileSystem} {base path : Path} {content : ByteArray}

/-- The steps from the content of a settings file to the settings of a run. -/
theorem load_of_file (stands : system.LeadsToFile path base content) :
    load system path =
      match String.fromUTF8? content with
      | none => .error (.settingsNotText path)
      | some source =>
          match Toml.read system.stack source with
          | .error fault => .error (unread path fault)
          | .ok data =>
              ofChecked (some path) (Settings.ofData data) >>= fun written =>
                written.resolvePaths system base >>= fun found =>
                  orFail found.ready := by
  obtain ⟨names, located, there, rfl⟩ := stands
  have reached : system.stat? path = some (.file content) := by
    rw [FileSystem.stat?, located]
    exact there
  have resolved : resolve system path = .ok ⟨.root, names⟩ := by
    rw [resolve, FileSystem.resolve_of_locate located]
  unfold load
  rw [reached]
  dsimp only
  rw [resolved]
  rfl

theorem load_of_data (stands : system.LeadsToFile path base content)
    {source : String} {data : Data}
    (text : String.fromUTF8? content = some source)
    (read : Toml.read system.stack source = .ok data) :
    load system path =
      (ofChecked (some path) (Settings.ofData data) >>= fun written =>
        written.resolvePaths system base >>= fun found =>
          orFail found.ready) := by
  rw [load_of_file stands, text]
  dsimp only
  rw [read]

/-- The bytes of a text are read as that text. -/
theorem fromUTF8?_toUTF8 (text : String) :
    String.fromUTF8? text.toUTF8 = some text :=
  dif_pos text.isValidUTF8

theorem load_of_written {source : String} {data : Data}
    {written found complete : Settings}
    (stands : system.LeadsToFile path base source.toUTF8)
    (read : Toml.read system.stack source = .ok data)
    (valid : Settings.ofData data = .valid written)
    (resolved : written.resolvePaths system base = .ok found)
    (ready : found.ready = .ok complete) :
    load system path = .ok complete := by
  rw [load_of_data stands (fromUTF8?_toUTF8 source) read, valid]
  refine bind_eq_ok_iff.mpr
    ⟨written, rfl, bind_eq_ok_iff.mpr ⟨found, resolved, ?_⟩⟩
  rw [ready]
  rfl

theorem orFail_eq_ok_iff {α : Type} {result : Except Fault α} {value : α} :
    orFail result = .ok value ↔ result = .ok value := by
  cases result with
  | ok found => simp [orFail]
  | error fault => simp [orFail]

theorem ofChecked_eq_ok_iff {file : Option Path} {checked : Checked Settings}
    {found : Settings} :
    ofChecked file checked = .ok found ↔ checked = .valid found := by
  cases checked with
  | valid value => simp [ofChecked]
  | invalid problems => simp [ofChecked]

/-- Settings name a language and a specification. -/
def Complete (settings : Settings) : Prop :=
  settings.languages ≠ [] ∧ ∃ specs ∈ settings.specs, specs.paths ≠ []

theorem checked_eq_ok_iff {settings complete : Settings} :
    settings.checked = .ok complete ↔
      settings.Complete ∧ settings = complete := by
  unfold checked Complete
  by_cases languages : settings.languages = []
  · simp [languages]
  · by_cases specs : ∃ specs ∈ settings.specs, specs.paths ≠ []
    · have named :
        (settings.specs.all fun spec => spec.paths.isEmpty) = false := by
        simpa using specs
      simp [languages, specs, named]
    · have none : (settings.specs.all fun spec => spec.paths.isEmpty) = true := by
        simpa using specs
      simp [languages, specs, none]

theorem checked_eq_ok {settings complete : Settings}
    (done : settings.checked = .ok complete) : complete = settings :=
  (checked_eq_ok_iff.mp done).2.symm

/-- Settings that are ready are the given ones with their debug arguments. -/
theorem ready_eq_ok {settings complete : Settings}
    (done : settings.ready = .ok complete) :
    complete = settings.withDebugArguments := by
  obtain ⟨found, checked, rfl⟩ := map_eq_ok_iff.mp done
  rw [checked_eq_ok checked]

theorem specs_withDebugArguments (settings : Settings) :
    settings.withDebugArguments.specs = settings.specs := by
  unfold withDebugArguments
  split
  · rfl
  · rfl

theorem outputs_withDebugArguments (settings : Settings) :
    settings.withDebugArguments.languages.map LanguageSettings.output =
      settings.languages.map LanguageSettings.output := by
  unfold withDebugArguments
  split
  · simp [LanguageSettings.debugged]
  · rfl

theorem Complete.withDebugArguments {settings : Settings}
    (complete : settings.Complete) :
    settings.withDebugArguments.Complete := by
  unfold Complete
  rw [specs_withDebugArguments]
  refine ⟨?_, complete.2⟩
  unfold Settings.withDebugArguments
  split
  · simpa using complete.1
  · exact complete.1

theorem complete_of_ready {settings found : Settings}
    (done : settings.ready = .ok found) : found.Complete := by
  obtain ⟨whole, checked, rfl⟩ := map_eq_ok_iff.mp done
  obtain ⟨complete, rfl⟩ := checked_eq_ok_iff.mp checked
  exact complete.withDebugArguments

theorem leadsToFile_of_load {settings : Settings}
    (loaded : load system path = .ok settings) :
    ∃ base content, system.LeadsToFile path base content := by
  unfold load at loaded
  split at loaded
  · rename_i content there
    obtain ⟨base, stands⟩ := FileSystem.stat?_eq_file_iff.mp there
    exact ⟨base, content, stands⟩
  · cases loaded

/-- How loading a settings file ends: the file is no text, no data can be read
from it, it holds no settings or names a path that leads astray; else its paths
are resolved and the settings are completed. -/
inductive Loads (system : FileSystem) (path base : Path) (content : ByteArray) :
    Except Failure Settings → Prop where
  | notText (bytes : String.fromUTF8? content = none) :
      Loads system path base content (.error (.settingsNotText path))
  | unread {source : String} {fault : Toml.Fault}
      (text : String.fromUTF8? content = some source)
      (fails : Toml.read system.stack source = .error fault) :
      Loads system path base content (.error (unread path fault))
  | invalid {source : String} {data : Data} {problems : List Problem}
      (text : String.fromUTF8? content = some source)
      (read : Toml.read system.stack source = .ok data)
      (rejected : Settings.ofData data = .invalid problems) :
      Loads system path base content
        (.error (.settings (.invalid (some path) problems)))
  | astray {source : String} {data : Data} {written : Settings}
      {failure : Failure}
      (text : String.fromUTF8? content = some source)
      (read : Toml.read system.stack source = .ok data)
      (accepted : Settings.ofData data = .valid written)
      (lost : ¬∀ seen ∈ written.writtenPaths, ¬Astray system base seen)
      (lies : OfPath failure) :
      Loads system path base content (.error failure)
  | resolved {source : String} {data : Data} {written found : Settings}
      {outcome : Except Failure Settings}
      (text : String.fromUTF8? content = some source)
      (read : Toml.read system.stack source = .ok data)
      (accepted : Settings.ofData data = .valid written)
      (resolved : Resolved system base written found)
      (completed : outcome = orFail found.ready) :
      Loads system path base content outcome

theorem loads_load (stands : system.LeadsToFile path base content) :
    Loads system path base content (load system path) := by
  rw [load_of_file stands]
  cases text : String.fromUTF8? content with
  | none => exact .notText text
  | some source =>
      dsimp only
      cases read : Toml.read system.stack source with
      | error fault => exact .unread text read
      | ok data =>
          dsimp only
          cases accepted : Settings.ofData data with
          | invalid problems => exact .invalid text read accepted
          | valid written =>
              rw [ofChecked, ok_bind]
              have decided :
                  Decided _ OfPath (written.resolvePaths system base) :=
                decided_resolvePaths written
              cases done : written.resolvePaths system base with
              | error failure =>
                  rw [done] at decided
                  exact .astray text read accepted decided.1 decided.2
              | ok found =>
                  exact .resolved text read accepted
                    (resolvePaths_eq_ok_iff.mp done) rfl

/-- Settings that come out of a file have been written there, and their paths
are seen from the directory of the file. -/
theorem written_of_load {settings : Settings}
    (stands : system.LeadsToFile path base content)
    (loaded : load system path = .ok settings) :
    ∃ source data written found,
      String.fromUTF8? content = some source ∧
        Toml.read system.stack source = .ok data ∧
      Settings.ofData data = .valid written ∧
      Resolved system base written found ∧ found.ready = .ok settings := by
  have loads := loads_load stands
  rw [loaded] at loads
  cases loads with
  | resolved text read accepted resolved completed =>
      exact ⟨_, _, _, _, text, read, accepted, resolved,
        orFail_eq_ok_iff.mp completed.symm⟩

/-- The outcomes that whoever runs the program is told about: settings, or a
fault of the settings. -/
def Reported (outcome : Except Failure Settings) : Prop :=
  (∃ settings, outcome = .ok settings) ∨
    ∃ fault, outcome = .error (.settings fault)

theorem reported_orFail (result : Except Fault Settings) :
    Reported (orFail result) := by
  cases result with
  | ok settings => exact .inl ⟨settings, rfl⟩
  | error fault => exact .inr ⟨fault, rfl⟩

theorem not_reported_of_path (fault : PathFault) :
    ¬Reported (.error (.path fault)) := by
  rintro (⟨settings, done⟩ | ⟨other, done⟩)
  · cases done
  · cases done

theorem not_reported_of_ofPath {failure : Failure} (lies : OfPath failure) :
    ¬Reported (.error failure) := by
  cases lies with
  | unknownHome user => exact not_reported_of_path _
  | linkLoop path => exact not_reported_of_path _
  | holdsNul path => exact not_reported_of_path _

/-- The content of a settings file all of whose faults are reported: it is
text, nothing but its form keeps it from being read, and settings that are
written there name no path that leads astray. -/
def Followable (system : FileSystem) (base : Path) (content : ByteArray) : Prop :=
  ∃ source, String.fromUTF8? content = some source ∧
    (∀ fault, Toml.read system.stack source = .error fault →
      fault = .malformed) ∧
    ∀ data written, Toml.read system.stack source = .ok data →
      Settings.ofData data = .valid written →
      ∀ path ∈ written.writtenPaths, ¬Astray system base path

theorem followable_iff_of_settings {source : String} {data : Data}
    {written : Settings} (text : String.fromUTF8? content = some source)
    (read : Toml.read system.stack source = .ok data)
    (valid : Settings.ofData data = .valid written) :
    Followable system base content ↔
      ∀ path ∈ written.writtenPaths, ¬Astray system base path := by
  constructor
  · rintro ⟨other, sameText, _, followed⟩
    rw [text] at sameText
    cases sameText
    exact followed data written read valid
  · intro followed
    refine ⟨source, text, by simp [read],
      fun other settings sameData sameSettings => ?_⟩
    rw [read] at sameData
    cases sameData
    rw [valid] at sameSettings
    cases sameSettings
    exact followed

theorem reported_unread_iff {fault : Toml.Fault} :
    Reported (.error (unread path fault)) ↔ fault = .malformed := by
  cases fault with
  | malformed => exact iff_of_true (.inr ⟨_, rfl⟩) rfl
  | longNumber => exact iff_of_false (not_reported_of_path _) (by simp)
  | deepNesting => exact iff_of_false (not_reported_of_path _) (by simp)

/-- The faults of a settings file that escape are exactly these: bytes that
are no text, numbers that are too long, values that are nested too deeply, and
paths that lead astray. -/
theorem reported_load_iff (stands : system.LeadsToFile path base content) :
    Reported (load system path) ↔ Followable system base content := by
  have loads := loads_load stands
  generalize load system path = outcome at loads ⊢
  cases loads with
  | notText bytes => simp [Reported, Followable, bytes]
  | unread text fails => simp [reported_unread_iff, Followable, text, fails]
  | invalid text read rejected =>
      refine iff_of_true (.inr ⟨_, rfl⟩) ⟨_, text, by simp [read], ?_⟩
      intro data written sameData accepted
      rw [read] at sameData
      cases sameData
      rw [rejected] at accepted
      cases accepted
  | astray text read accepted lost lies =>
      rw [followable_iff_of_settings text read accepted]
      exact iff_of_false (not_reported_of_ofPath lies) lost
  | @resolved _ _ _ found _ text read accepted resolved completed =>
      rw [followable_iff_of_settings text read accepted, completed]
      exact iff_of_true (reported_orFail found.ready) resolved.not_astray

section Elsewhere

variable (system) (working : Path)

theorem resolveFrom_elsewhere (absolute : base.isAbsolute = true)
    (written : Path) :
    resolveFrom { system with working := working } base written =
      resolveFrom system base written := by
  unfold resolveFrom resolveWritten resolve
  simp only [FileSystem.resolve_elsewhere system
    (Path.isAbsolute_join absolute _) working]
  rfl

theorem resolvePaths_elsewhere (absolute : base.isAbsolute = true)
    (settings : Settings) :
    settings.resolvePaths { system with working := working } base =
      settings.resolvePaths system base := by
  have spec : resolveSpec { system with working := working } base =
      resolveSpec system base := by
    funext spec
    simp only [resolveSpec, resolveFrom_elsewhere system working absolute]
  have language : resolveLanguage { system with working := working } base =
      resolveLanguage system base := by
    funext entry
    simp only [resolveLanguage, resolveFrom_elsewhere system working absolute]
  rw [resolvePaths, spec, language]
  rfl

/-- A settings file that is named by an absolute path is loaded as the same
settings from everywhere. -/
theorem load_elsewhere (absolute : path.isAbsolute = true) :
    load { system with working := working } path = load system path := by
  have same := FileSystem.locate_elsewhere system absolute working
  by_cases file : ∃ content, system.stat? path = some (.file content)
  · obtain ⟨content, there⟩ := file
    obtain ⟨base, stands⟩ := FileSystem.stat?_eq_file_iff.mp there
    have moved :
        { system with working := working }.LeadsToFile path base content := by
      unfold FileSystem.LeadsToFile
      rw [same]
      exact stands
    rw [load_of_file stands, load_of_file moved]
    simp only [resolvePaths_elsewhere system working stands.isAbsolute]
  -- what is no file is never looked into and gives the same fault from everywhere
  · have moved : { system with working := working }.stat? path =
        system.stat? path := by
      simp only [FileSystem.stat?, same]
    unfold load
    rw [moved]
    split
    · rename_i content there
      exact absurd ⟨content, there⟩ file
    · rfl

end Elsewhere

end Settings

end SymbolDiff
