import SymbolDiff.Proofs.CommandLine.Verdict
import SymbolDiff.Proofs.Settings.Loading

/-!
# Settings files with faults

A command line may take its settings from a file.  A fault of the settings ends
it with the exit code one and a message before anything is generated.  Three
kinds of faults get past this: a file whose bytes are no text, a text on which
the reader breaks down, and a path in the file that leads astray.  They break
the program.
-/

namespace SymbolDiff

open Outcome

namespace Settings

variable {system : FileSystem} {base path : Path} {content : ByteArray}

/-- Why a settings file cannot be loaded. -/
inductive Cause (system : FileSystem) (path base : Path) (content : ByteArray) :
    Failure → Prop where
  | notText (bytes : String.fromUTF8? content = none) :
      Cause system path base content (.settingsNotText path)
  | unread {source : String} {fault : Toml.Fault}
      (text : String.fromUTF8? content = some source)
      (fails : Toml.read system.stack source = .error fault) :
      Cause system path base content (unread path fault)
  | invalid {source : String} {data : Data} {problems : List Problem}
      (text : String.fromUTF8? content = some source)
      (read : Toml.read system.stack source = .ok data)
      (rejected : Settings.ofData data = .invalid problems) :
      Cause system path base content (.settings (.invalid (some path) problems))
  | astray {source : String} {data : Data} {written : Settings} {seen : Path}
      {failure : Failure} (text : String.fromUTF8? content = some source)
      (read : Toml.read system.stack source = .ok data)
      (accepted : Settings.ofData data = .valid written)
      (named : seen ∈ written.writtenPaths) (lost : Astray system base seen)
      (lies : OfPath failure) : Cause system path base content failure
  | incomplete {source : String} {data : Data} {written : Settings}
      {fault : Fault}
      (text : String.fromUTF8? content = some source)
      (read : Toml.read system.stack source = .ok data)
      (accepted : Settings.ofData data = .valid written)
      (lacks : fault = .noLanguage ∨ fault = .noSpec) :
      Cause system path base content (.settings fault)

theorem lacks_of_ready {settings : Settings} {fault : Fault}
    (failed : settings.ready = .error fault) :
    fault = .noLanguage ∨ fault = .noSpec := by
  unfold ready checked at failed
  split at failed
  · cases failed
    exact .inl rfl
  · split at failed
    · cases failed
      exact .inr rfl
    · cases failed

theorem cause_of_load {failure : Failure}
    (stands : system.LeadsToFile path base content)
    (failed : load system path = .error failure) :
    Cause system path base content failure := by
  have loads := loads_load stands
  rw [failed] at loads
  cases loads with
  | notText bytes => exact .notText bytes
  | unread text fails => exact .unread text fails
  | invalid text read rejected => exact .invalid text read rejected
  | astray text read accepted lost lies =>
      push Not at lost
      obtain ⟨seen, named, lost⟩ := lost
      exact .astray text read accepted named lost lies
  | @resolved _ _ _ found _ text read accepted resolved completed =>
      cases ready : found.ready with
      | ok complete =>
          rw [ready] at completed
          cases completed
      | error fault =>
          rw [ready] at completed
          cases completed
          exact .incomplete text read accepted (lacks_of_ready ready)

theorem load_eq_notText_iff (stands : system.LeadsToFile path base content) :
    load system path = .error (.settingsNotText path) ↔
      String.fromUTF8? content = none := by
  constructor
  · intro failed
    generalize same : Failure.settingsNotText path = failure at failed
    cases cause_of_load stands failed with
    | notText bytes => exact bytes
    | @unread _ fault text fails => cases fault <;> cases same
    | astray _ _ _ _ _ lies => cases lies <;> cases same
    | invalid => cases same
    | incomplete => cases same
  · intro bytes
    rw [load_of_file stands, bytes]

theorem load_eq_unread_iff (stands : system.LeadsToFile path base content)
    (fault : Toml.Fault) :
    load system path = .error (unread path fault) ↔
      ∃ source, String.fromUTF8? content = some source ∧
        Toml.read system.stack source = .error fault := by
  constructor
  · intro failed
    generalize same : unread path fault = failure at failed
    cases cause_of_load stands failed with
    | notText bytes => cases fault <;> cases same
    | @unread source other text fails =>
        refine ⟨source, text, ?_⟩
        cases fault <;> cases other <;> cases same <;> exact fails
    | invalid => cases fault <;> cases same
    | astray _ _ _ _ _ lies => cases lies <;> cases fault <;> cases same
    | incomplete _ _ _ lacks =>
        rcases lacks with rfl | rfl <;> cases fault <;> cases same
  · rintro ⟨source, text, fails⟩
    rw [load_of_file stands, text]
    dsimp only
    rw [fails]

/-- What is not reported breaks the program. -/
theorem report?_of_not_reported {failure : Failure}
    (stands : system.LeadsToFile path base content)
    (failed : load system path = .error failure)
    (escapes : ¬Reported (load system path)) :
    failure.report? = none := by
  rw [failed] at escapes
  cases cause_of_load stands failed with
  | notText bytes => rfl
  | @unread _ fault text fails =>
      cases fault with
      | malformed => exact absurd (reported_unread_iff.mpr rfl) escapes
      | longNumber => rfl
      | deepNesting => rfl
  | invalid text read rejected => exact absurd (.inr ⟨_, rfl⟩) escapes
  | astray text read accepted named lost lies =>
      cases lies with
      | unknownHome user => rfl
      | linkLoop path => rfl
      | holdsNul path => rfl
  | incomplete text read accepted lacks =>
      exact absurd (.inr ⟨_, rfl⟩) escapes

end Settings

namespace CommandLine

open Comparison

variable {generator : Generator} {words : List String} {file : String}

/-- A command that takes its settings from a file. -/
inductive TakesFile : Command × Segments → String → Prop where
  | compare {options : CompareOptions} {parts : Segments} {file : String}
      (named : options.settingsFile = some file)
      (alone : besideFile options parts = []) :
      TakesFile (.compare options, parts) file
  | baseline (options : BaselineOptions) (parts : Segments) :
      TakesFile (.baseline options, parts) options.settingsFile

theorem settingsFromFile_of_failure {system : FileSystem} {path : Path}
    {failure : Failure}
    (expanded : Settings.expand system (.ofString file) = .ok path)
    (failed : Settings.load system path = .error failure)
    (language : Option Language) (debug : Bool) :
    settingsFromFile system file language debug = .error failure := by
  rw [settingsFromFile, expanded, ok_bind, failed]
  rfl

/-- A settings file that cannot be loaded ends the run before it has done
anything. -/
theorem run_of_failure {command : Command × Segments} {session : Session}
    {path : Path} {failure : Failure} (read : Command.read words = .ok command)
    (takes : TakesFile command file)
    (expanded : Settings.expand session.system (.ofString file) = .ok path)
    (failed : Settings.load session.system path = .error failure) :
    (run generator words parse).run session =
      (Outcome.ofResult (.error failure), session) := by
  have unready := settingsFromFile_of_failure expanded failed
  cases takes with
  | @compare options parts _ named alone =>
      have noSettings : compareSettings session.system options parts =
          .error failure := by
        rw [compareSettings, named]
        dsimp only
        rw [alone]
        exact unready _ _
      rw [run_of_read read, Command.run, runCompare, Run.on_bind, on_look,
        noSettings]
  | baseline options parts =>
      rw [run_of_read read, Command.run, runBaseline, Run.on_bind, on_look,
        unready]

/-- For every settings file that can be read, loading gives settings or a fault
of the settings exactly when the file is text, its reader does not break down
on it, and it names no path that leads astray.  Every failure has its cause in
the file.  A fault of the settings ends a command line with the exit code one
and its message; all other failures break it.  Neither starts a generator. -/
theorem settings_reported_iff_followable
    (system : FileSystem) (path : Path) (content : ByteArray)
    (readable : system.stat? path = some (.file content)) :
    ∃ base, system.LeadsToFile path base content ∧
      (Settings.Reported (Settings.load system path) ↔
        Settings.Followable system base content) ∧
      (∀ failure, Settings.load system path = .error failure →
        Settings.Cause system path base content failure) ∧
      (Settings.load system path = .error (.settingsNotText path) ↔
        String.fromUTF8? content = none) ∧
      (∀ fault, Settings.load system path = .error (Settings.unread path fault) ↔
        ∃ source, String.fromUTF8? content = some source ∧
          Toml.read system.stack source = .error fault) ∧
      ∀ generator parse words command file session, session.system = system →
        Command.read words = .ok command → TakesFile command file →
        Settings.expand system (.ofString file) = .ok path →
        (∀ fault, Settings.load system path = .error (.settings fault) →
          (run generator words parse).run session =
            (.finished 1 "" ("error: " ++ fault.message ++ "\n"), session)) ∧
        (¬Settings.Reported (Settings.load system path) →
          ∃ failure, Settings.load system path = .error failure ∧
            (run generator words parse).run session =
              (.broken failure, session)) := by
  obtain ⟨base, stands⟩ := FileSystem.stat?_eq_file_iff.mp readable
  refine ⟨base, stands, Settings.reported_load_iff stands,
    fun failure failed => Settings.cause_of_load stands failed,
    Settings.load_eq_notText_iff stands, Settings.load_eq_unread_iff stands, ?_⟩
  rintro generator parse words command file session rfl read takes expanded
  constructor
  · intro fault failed
    rw [run_of_failure read takes expanded failed]
    rfl
  · intro escapes
    cases outcome : Settings.load session.system path with
    | ok settings => exact absurd (.inl ⟨settings, outcome⟩) escapes
    | error failure =>
        have silent := Settings.report?_of_not_reported stands outcome escapes
        refine ⟨failure, rfl, ?_⟩
        rw [run_of_failure read takes expanded outcome, Outcome.ofResult, silent]

/-- A table that is not closed. -/
theorem settings_reported_iff_followable_unclosed :
    let content := "[[specs]\n".toUTF8
    let session : Session := {
      system := {
        top := .directory [("c.toml", .file content)]
        working := .ofString "/"
        home := .ofString "/" } }
    let idle : Generator := fun _ => .done (.exited 0 "" "")
    session.system.stat? (.ofString "/c.toml") = some (.file content) ∧
      (run idle ["baseline", "--config", "/c.toml"]).run session =
        (.finished 1 "" "error: Invalid TOML in /c.toml: not a valid document\n",
          session) := by
  intro content session idle
  have readable : session.system.stat? (.ofString "/c.toml") =
      some (.file content) := by
    subst session
    cbv
  have text : String.fromUTF8? content = some "[[specs]\n" :=
    dif_pos (String.isValidUTF8 _)
  obtain ⟨base, stands, _, _, _, _, ends⟩ := settings_reported_iff_followable
    session.system (.ofString "/c.toml") content readable
  have failed : Settings.load session.system (.ofString "/c.toml") =
      .error (.settings (.malformedFile (.ofString "/c.toml"))) := by
    have unread : Toml.read session.system.stack "[[specs]\n" =
        .error .malformed := by cbv
    rw [Settings.load_of_file stands, text]
    dsimp only
    rw [unread]
    rfl
  have read : Command.read ["baseline", "--config", "/c.toml"] =
      .ok (.baseline { settingsFile := "/c.toml" },
        { program := ["baseline", "--config", "/c.toml"] }) := by rfl
  have expanded : Settings.expand session.system (.ofString "/c.toml") =
      .ok (.ofString "/c.toml") := by
    subst session
    cbv
  have reported :=
    (ends idle Grammar.treeOf _ _ "/c.toml" session rfl read
      (.baseline _ _) expanded).1 _ failed
  exact ⟨readable, reported⟩

/-- A file of one byte that is no text: the fault is not reported as one of the
settings. -/
theorem settings_not_text_unreported :
    ¬∀ (system : FileSystem) (path : Path) (content : ByteArray),
      system.stat? path = some (.file content) →
        Settings.Reported (Settings.load system path) := by
  intro always
  have readable : FileSystem.stat?
      { top := .directory [("c.toml", .file ⟨#[0xff]⟩)]
        working := .ofString "/"
        home := .ofString "/" } (.ofString "/c.toml") =
      some (.file ⟨#[0xff]⟩) := by
    cbv
  obtain ⟨base, stands⟩ := FileSystem.stat?_eq_file_iff.mp readable
  have bytes : String.fromUTF8? ⟨#[0xff]⟩ = none := by cbv
  obtain ⟨source, text, _⟩ :=
    (Settings.reported_load_iff stands).mp (always _ _ _ readable)
  rw [bytes] at text
  cases text

end CommandLine

end SymbolDiff
