import Mathlib
import SymbolDiff.CommandLine.Run
import SymbolDiff.Proofs.Data.Reading
import SymbolDiff.Proofs.Settings.Loading

/-!
# Two routes to settings

Settings come from a file or from the command line.  Those of a file are
resolved first and then checked for completeness and given their debug
arguments; those of the command line are resolved last.  Resolving commutes
with both steps, so that the routes agree.
-/

namespace SymbolDiff

open Outcome

namespace Settings

variable {system : FileSystem} {base : Path}

theorem resolveLanguage_debugged {entry found : LanguageSettings}
    (done : resolveLanguage system base entry = .ok found) :
    resolveLanguage system base entry.debugged = .ok found.debugged := by
  obtain ⟨output, seen, done⟩ := bind_eq_ok_iff.mp done
  cases done
  have same : resolveFrom system base entry.debugged.output = .ok output := seen
  rw [resolveLanguage, same]
  rfl

namespace Resolved

variable {written found : Settings}
  (resolved : Resolved system base written found)

include resolved

theorem isEmpty_languages :
    found.languages.isEmpty = written.languages.isEmpty := by
  have length := resolved.languages.length_eq
  rw [Bool.eq_iff_iff, List.isEmpty_iff_length_eq_zero,
    List.isEmpty_iff_length_eq_zero, length]

theorem map_paths :
    found.specs.map SpecSettings.paths =
      written.specs.map SpecSettings.paths := by
  symm
  apply map_eq_map_iff_forall₂.mpr
  apply resolved.specs.imp
  intro spec other done
  exact (paths_of_resolveSpec done).symm

/-- Settings are complete after they have been resolved when they were so
before. -/
theorem checked : found.checked = written.checked.map fun _ => found := by
  have specs : (found.specs.all fun spec => spec.paths.isEmpty) =
      written.specs.all fun spec => spec.paths.isEmpty := by
    have same := congrArg (List.all · List.isEmpty) resolved.map_paths
    simpa [List.all_map, Function.comp_def] using same
  unfold Settings.checked
  rw [resolved.isEmpty_languages, specs]
  split
  · rfl
  · split
    · rfl
    · rfl

theorem withDebugArguments :
    Resolved system base written.withDebugArguments found.withDebugArguments := by
  unfold Settings.withDebugArguments
  rw [resolved.debug]
  split
  · refine ⟨rfl, resolved.generator, resolved.specs, ?_⟩
    rw [List.forall₂_map_left_iff, List.forall₂_map_right_iff]
    apply resolved.languages.imp
    intro entry other done
    exact resolveLanguage_debugged done
  · exact resolved

/-- Resolving and getting ready may change places. -/
theorem ready :
    (orFail written.ready >>= fun complete => complete.resolvePaths system base) =
      orFail found.ready := by
  unfold Settings.ready
  rw [resolved.checked]
  cases done : written.checked with
  | error fault => rfl
  | ok complete =>
      rw [checked_eq_ok done]
      exact resolvePaths_eq_ok_iff.mpr resolved.withDebugArguments

end Resolved

theorem writtenPaths_withDebugArguments (settings : Settings) :
    settings.withDebugArguments.writtenPaths = settings.writtenPaths := by
  rw [writtenPaths, specs_withDebugArguments, outputs_withDebugArguments]
  rfl

/-- Settings that can be resolved once they are ready can be resolved at
once. -/
theorem exists_resolved_of_ready {written complete settings : Settings}
    (ready : written.ready = .ok complete)
    (done : complete.resolvePaths system base = .ok settings) :
    ∃ found, written.resolvePaths system base = .ok found := by
  obtain ⟨checked, same, rfl⟩ := map_eq_ok_iff.mp ready
  rw [checked_eq_ok same] at done
  have followed :=
    (decided_resolvePaths written.withDebugArguments).exists_ok_iff.mp
    ⟨settings, done⟩
  rw [writtenPaths_withDebugArguments] at followed
  exact (decided_resolvePaths written).exists_ok_iff.mpr followed

end Settings

namespace CommandLine

open Checked

variable (options : CompareOptions) (parts : Segments) (language : Language)
  (output : String)

/-- The specifications on a command line as loosely typed data. -/
def specData : Data :=
  .table
    [("spec_root_path", (options.specRoot.map Data.text).getD .null),
      ("spec_paths", wordsData options.specs)]

/-- The language on a command line as loosely typed data. -/
def languageData : Data :=
  .table
    [("language", .text language.word), ("output_path", .text output),
      ("old_args", wordsData parts.old), ("new_args", wordsData parts.new),
      ("use_existing_output", .text (options.reuse.getD .nothing).word)]

/-- The settings that are given on a command line as loosely typed data. -/
def inlineData : Data :=
  .table
    ([("debug", .bool options.debug), ("specs", .list [specData options]),
        ("languages", .list [languageData options parts language output])] ++
      (options.generator.map fun command =>
        ("generator", Data.text command)).toList)

theorem readList_wordsData (words : List String) :
    readList readText (wordsData words) = .valid words :=
  members_map readText_text 0 words

theorem readChoice_language :
    readChoice (Language.all.map fun language => (language.word, language))
      (.text language.word) = .valid language := by
  cases language <;> rfl

theorem readChoice_reuse (reuse : Reuse) :
    readChoice (Reuse.all.map fun reuse => (reuse.word, reuse))
      (.text reuse.word) = .valid reuse := by
  cases reuse <;> rfl

theorem ofData_specData :
    SpecSettings.ofData (specData options) =
      .valid ⟨options.specRoot.map Path.ofString, options.specs⟩ := by
  cases given : options.specRoot with
  | none =>
      simp [specData, given, SpecSettings.ofData, readRecord, defaulted,
        Data.lookup, readList_wordsData, readOptional, onlyKeys]
  | some root =>
      simp [specData, given, SpecSettings.ofData, readRecord, defaulted,
        Data.lookup, readList_wordsData, readOptional, readPath, onlyKeys]

theorem ofData_languageData :
    LanguageSettings.ofData (languageData options parts language output) =
      .valid ⟨language, .ofString output, parts.old, parts.new,
        options.reuse.getD .nothing⟩ := by
  simp [languageData, LanguageSettings.ofData, readRecord, required, defaulted,
    Data.lookup, readList_wordsData, readChoice_language, readChoice_reuse,
    readPath, onlyKeys]

/-- The settings of a command line are those that their data stands for. -/
theorem ofData_inlineData :
    Settings.ofData (inlineData options parts language output) =
      .valid (inlineSettings options parts language output) := by
  cases given : options.generator with
  | none =>
      simp [inlineData, given, Settings.ofData, readRecord, defaulted,
        Data.lookup,
        readList, members, ofData_specData, ofData_languageData, onlyKeys,
        inlineSettings]
  | some command =>
      simp [inlineData, given, Settings.ofData, readRecord, defaulted,
        Data.lookup,
        readList, members, ofData_specData, ofData_languageData, readCommand,
        onlyKeys, inlineSettings]

variable {options language output}

/-- The route of the command line: its settings are built from data and then
seen from the working directory. -/
theorem settingsFromOptions_eq_build (system : FileSystem)
    (chosen : options.language = some language)
    (given : options.output = some output) :
    settingsFromOptions system options parts =
      (Settings.build (inlineData options parts language output) >>=
        fun settings =>
        settings.resolvePaths system system.working) := by
  rw [settingsFromOptions, chosen, given, Settings.build, ofData_inlineData]
  rfl

end CommandLine

namespace Settings

variable {system : FileSystem} {base : Path}

/-- The route of the command line, for data of any origin. -/
def inlineRoute (system : FileSystem) (base : Path) (data : Data) :
    Except Failure Settings :=
  build data >>= fun settings => settings.resolvePaths system base

theorem inlineRoute_of_valid {data : Data} {written : Settings}
    (valid : Settings.ofData data = .valid written) :
    inlineRoute system base data =
      (orFail written.ready >>= fun complete =>
        complete.resolvePaths system base) := by
  rw [inlineRoute, build, valid]
  rfl

/-- Settings that cannot be resolved come out of neither route. -/
theorem inlineRoute_ne_ok {data : Data} {written : Settings} {failure : Failure}
    (valid : Settings.ofData data = .valid written)
    (fails : written.resolvePaths system base = .error failure)
    (settings : Settings) :
    inlineRoute system base data ≠ .ok settings := by
  rw [inlineRoute_of_valid valid]
  intro done
  obtain ⟨complete, ready, done⟩ := bind_eq_ok_iff.mp done
  obtain ⟨found, resolved⟩ :=
    exists_resolved_of_ready (orFail_eq_ok_iff.mp ready) done
  rw [fails] at resolved
  cases resolved

/-- The same settings come out of a file and, for the data that the file
stands for, out of the route of the command line.  Where all paths can be
resolved, a fault of the settings on one route is one on the other. -/
theorem load_agrees_with_inlineRoute (system : FileSystem) (path base : Path)
    (content : ByteArray) (source : String) (data : Data)
    (stands : system.LeadsToFile path base content)
    (text : String.fromUTF8? content = some source)
    (read : Toml.read system.stack source = .ok data) :
    (∀ settings, load system path = .ok settings ↔
      inlineRoute system base data = .ok settings) ∧
    ((∀ written, Settings.ofData data = .valid written →
        ∀ path ∈ written.writtenPaths,
          ∃ found, resolveFrom system base path = .ok found) →
      (∃ settings, load system path = .ok settings ∧
        inlineRoute system base data = .ok settings) ∨
      ∃ fault other, load system path = .error (.settings fault) ∧
        inlineRoute system base data = .error (.settings other)) ∧
    ∀ options parts language output,
      options.language = some language → options.output = some output →
      CommandLine.settingsFromOptions system options parts =
        inlineRoute system system.working
          (CommandLine.inlineData options parts language output) := by
  have inline : ∀ options parts language output,
      options.language = some language → options.output = some output →
      CommandLine.settingsFromOptions system options parts =
        inlineRoute system system.working
          (CommandLine.inlineData options parts language output) :=
    fun _ parts _ _ => CommandLine.settingsFromOptions_eq_build parts system
  cases valid : Settings.ofData data with
  | invalid problems =>
      have fromFile : load system path =
          .error (.settings (.invalid (some path) problems)) := by
        rw [load_of_data stands text read, valid]
        rfl
      have fromData : inlineRoute system base data =
          .error (.settings (.invalid none problems)) := by
        rw [inlineRoute, build, valid]
        rfl
      rw [fromFile, fromData]
      refine ⟨?_, fun _ => .inr ⟨_, _, rfl, rfl⟩, inline⟩
      intro settings
      simp
  | valid written =>
      have fromFile : load system path =
          (written.resolvePaths system base >>= fun found =>
            orFail found.ready) := by
        rw [load_of_data stands text read, valid]
        rfl
      cases done : written.resolvePaths system base with
      | error failure =>
          rw [fromFile, done, error_bind]
          refine ⟨?_, ?_, inline⟩
          · intro settings
            exact iff_of_false (fun impossible => nomatch impossible)
              (inlineRoute_ne_ok valid done settings)
          · intro resolves
            -- a path of the settings that cannot be resolved was ruled out
            have followed : ∀ path ∈ written.writtenPaths,
                ¬Astray system base path := fun path member =>
              (decided_resolveFrom path).exists_ok_iff.mp
                (resolves written rfl path member)
            obtain ⟨found, resolved⟩ :=
              (decided_resolvePaths written).exists_ok_iff.mpr followed
            rw [done] at resolved
            cases resolved
      | ok found =>
          have same : inlineRoute system base data = load system path := by
            rw [fromFile, done, ok_bind, inlineRoute_of_valid valid]
            exact (resolvePaths_eq_ok_iff.mp done).ready
          refine ⟨fun settings => by rw [same], fun _ => ?_, inline⟩
          rw [same, fromFile, done, ok_bind]
          rcases reported_orFail found.ready with
            ⟨settings, ready⟩ | ⟨fault, failed⟩
          · exact .inl ⟨settings, ready, ready⟩
          · exact .inr ⟨fault, fault, failed, failed⟩

/-- A file with a root below the home directory, an output directory above the
file and debugging: both routes lead to the same settings. -/
theorem load_agrees_with_inlineRoute_debugged :
    let source :=
      "debug=true\nspecs=[\x7bspec_root_path='~/s',spec_paths=['a']\x7d]\n" ++
      "languages=[\x7blanguage='go',output_path='../o'\x7d]"
    let data : Data := .table
      [("debug", .bool true),
        ("specs", .list [.table [("spec_root_path", .text "~/s"),
          ("spec_paths", .list [.text "a"])]]),
        ("languages", .list [.table
          [("language", .text "go"), ("output_path", .text "../o")]])]
    let system : FileSystem := {
      top := .directory [("work", .directory [("c.toml", .file source.toUTF8)])]
      working := .ofString "/tmp"
      home := .ofString "/home/me" }
    let settings : Settings := {
      debug := true
      specs := [⟨some (.ofString "/home/me/s"), ["a"]⟩]
      languages := [
        ⟨.go, .ofString "/o", ["--debug"], ["--debug"], .nothing⟩] }
    (∀ written, Settings.ofData data = .valid written →
      ∀ path ∈ written.writtenPaths,
        ∃ found, resolveFrom system (.ofString "/work") path = .ok found) ∧
    load system (.ofString "/work/c.toml") = .ok settings ∧
      inlineRoute system (.ofString "/work") data = .ok settings := by
  intro source data system settings
  have text : String.fromUTF8? source.toUTF8 = some source :=
    dif_pos source.isValidUTF8
  have read : Toml.read system.stack source = .ok data := by
    subst source data
    cbv
  clear_value source
  have stands : system.LeadsToFile (.ofString "/work/c.toml") (.ofString "/work")
      source.toUTF8 := ⟨["work", "c.toml"], by cbv, by cbv, by cbv⟩
  have root : resolveFrom system (.ofString "/work") (.ofString "~/s") =
      .ok (.ofString "/home/me/s") := by cbv
  have output : resolveFrom system (.ofString "/work") (.ofString "../o") =
      .ok (.ofString "/o") := by cbv
  have inline : inlineRoute system (.ofString "/work") data = .ok settings := by
    refine bind_eq_ok_iff.mpr
      ⟨_, rfl, resolvePaths_eq_ok_iff.mpr ⟨rfl, rfl, ?_, ?_⟩⟩
    · exact .cons (bind_eq_ok_iff.mpr ⟨_, root, rfl⟩) .nil
    · exact .cons (bind_eq_ok_iff.mpr ⟨_, output, rfl⟩) .nil
  have resolves : ∀ written, Settings.ofData data = .valid written →
      ∀ path ∈ written.writtenPaths,
        ∃ found, resolveFrom system (.ofString "/work") path = .ok found := by
    intro written valid path member
    cases valid
    rcases List.mem_pair.mp member with rfl | rfl
    · exact ⟨_, root⟩
    · exact ⟨_, output⟩
  obtain ⟨_, both, _⟩ := load_agrees_with_inlineRoute system _ _ _ source data
    stands text read
  obtain ⟨other, loaded, built⟩ | ⟨_, _, _, failed⟩ := both resolves
  · rw [inline] at built
    cases built
    exact ⟨resolves, loaded, inline⟩
  · rw [inline] at failed
    cases failed

end Settings

end SymbolDiff
