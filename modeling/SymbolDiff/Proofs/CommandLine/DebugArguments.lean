import SymbolDiff.CommandLine.Run
import SymbolDiff.Proofs.Comparison.FromFile

/-!
# Debugging and the choice of a language

Debugging can be set in a settings file and on the command line, and its
argument is added where a file is loaded or where the flag is found.  Between
the two a language may be chosen.  Whatever the combination, each entry of a
chosen language comes out with its output directory resolved and with the
argument added once to both of its lists, if debugging is set anywhere; nothing
else of the settings depends on the choice or on the flag.
-/

namespace SymbolDiff

open Outcome

/-- What debugging adds to the arguments of a generation. -/
def debugWords (debug : Bool) : List String :=
  if debug then [debugArgument] else []

/-- What becomes of the entry of a language: its output directory is seen from
a directory, and debugging reaches both of its argument lists. -/
structure LanguageSettings.Completed (system : FileSystem) (base : Path)
    (debug : Bool) (written found : LanguageSettings) : Prop where
  language : found.language = written.language
  output : Settings.resolveFrom system base written.output = .ok found.output
  oldArguments : found.oldArguments = written.oldArguments ++ debugWords debug
  newArguments : found.newArguments = written.newArguments ++ debugWords debug
  reuse : found.reuse = written.reuse

/-- An entry belongs to the chosen language; without a choice every entry
does. -/
def LanguageSettings.isChosen (choice : Option Language)
    (entry : LanguageSettings) : Bool :=
  choice.all fun language => entry.language = language

theorem Language.word_inj (first second : Language) :
    first.word = second.word ↔ first = second := by
  cases first <;> cases second <;> simp [Language.word]

theorem LanguageSettings.Completed.debugged {system : FileSystem} {base : Path}
    {written found : LanguageSettings}
    (completed : Completed system base false written found) :
    Completed system base true written found.debugged where
  language := completed.language
  output := completed.output
  oldArguments := by
    simp [LanguageSettings.debugged, completed.oldArguments, debugWords]
  newArguments := by
    simp [LanguageSettings.debugged, completed.newArguments, debugWords]
  reuse := completed.reuse

theorem LanguageSettings.Completed.of_debugged {system : FileSystem} {base : Path}
    {written found : LanguageSettings}
    (completed : Completed system base false written.debugged found) :
    Completed system base true written found where
  language := completed.language
  output := completed.output
  oldArguments := by
    simp [completed.oldArguments, LanguageSettings.debugged, debugWords]
  newArguments := by
    simp [completed.newArguments, LanguageSettings.debugged, debugWords]
  reuse := completed.reuse

namespace Settings

open LanguageSettings (Completed)

variable {system : FileSystem} {base : Path} {settings : Settings}

/-- The settings for the entries of a chosen language. -/
def choose (settings : Settings) (choice : Option Language) : Settings :=
  { settings with languages := settings.languages.filter (·.isChosen choice) }

/-- The settings after the flag for debugging has been looked at. -/
def flagged (settings : Settings) (debug : Bool) : Settings :=
  if debug && !settings.debug then
    withDebugArguments { settings with debug := true }
  else settings

theorem choose_none (settings : Settings) : settings.choose none = settings := by
  simp [choose, LanguageSettings.isChosen]

theorem forLanguage_eq_ok_iff {chosen : Settings} (language : Language) :
    settings.forLanguage language.word = .ok chosen ↔
      (settings.choose (some language)).languages ≠ [] ∧
        settings.choose (some language) = chosen := by
  have same : settings.languages.filter
      (fun entry => entry.language.word = language.word) =
        (settings.choose (some language)).languages := by
    simp [choose, LanguageSettings.isChosen, Language.word_inj]
  rw [forLanguage, same]
  cases listed : (settings.choose (some language)).languages with
  | nil => simp
  | cons first rest =>
      have whole : { settings with languages := first :: rest } =
          settings.choose (some language) := by
        rw [← listed]
        rfl
      dsimp only
      rw [whole, Except.ok.injEq, and_iff_right (List.cons_ne_nil first rest)]

theorem languages_ne_nil_of_ready {complete : Settings}
    (done : settings.ready = .ok complete) : complete.languages ≠ [] :=
  (complete_of_ready done).1

theorem generator_withDebugArguments (settings : Settings) :
    settings.withDebugArguments.generator = settings.generator := by
  unfold withDebugArguments
  split
  · rfl
  · rfl

theorem debug_withDebugArguments (settings : Settings) :
    settings.withDebugArguments.debug = settings.debug := by
  unfold withDebugArguments
  split
  · rfl
  · rfl

/-- The argument is added to entries that do not have it yet, once to each. -/
theorem completed_withDebugArguments (settings : Settings)
    {written : List LanguageSettings}
    (each : List.Forall₂ (Completed system base false) written
      settings.languages) :
    List.Forall₂ (Completed system base settings.debug) written
      settings.withDebugArguments.languages := by
  unfold withDebugArguments
  cases settings.debug with
  | false => exact each
  | true =>
      rw [if_pos rfl, List.forall₂_map_right_iff]
      exact each.imp fun _ _ completed => completed.debugged

theorem completed_of_resolveLanguage {written found : LanguageSettings}
    (done : resolveLanguage system base written = .ok found) :
    Completed system base false written found := by
  obtain ⟨output, seen, done⟩ := bind_eq_ok_iff.mp done
  cases done
  exact ⟨rfl, seen, (List.append_nil _).symm, (List.append_nil _).symm, rfl⟩

/-- What loading a file keeps of the settings in it. -/
structure Loaded (system : FileSystem) (base : Path) (written loaded : Settings) :
    Prop where
  debug : loaded.debug = written.debug
  generator : loaded.generator = written.generator
  specs : List.Forall₂ (fun spec found =>
    resolveSpec system base spec = .ok found) written.specs loaded.specs
  languages : List.Forall₂ (Completed system base written.debug)
    written.languages loaded.languages
  some : loaded.languages ≠ []

theorem Resolved.loaded {written found loaded : Settings}
    (resolved : Resolved system base written found)
    (ready : found.ready = .ok loaded) : Loaded system base written loaded := by
  have complete := ready_eq_ok ready
  refine ⟨?_, ?_, ?_, ?_, languages_ne_nil_of_ready ready⟩
  · rw [complete, debug_withDebugArguments, resolved.debug]
  · rw [complete, generator_withDebugArguments, resolved.generator]
  · rw [complete, specs_withDebugArguments]
    exact resolved.specs
  · rw [complete, ← resolved.debug]
    exact completed_withDebugArguments found
      (resolved.languages.imp fun _ _ done => completed_of_resolveLanguage done)

/-- The choice of a language passes over whole entries, and it sees the same
language in an entry before and after it is completed. -/
theorem Loaded.languages_choose {written loaded : Settings}
    (kept : Loaded system base written loaded) (choice : Option Language) :
    List.Forall₂ (Completed system base written.debug)
      (written.languages.filter (·.isChosen choice))
      (loaded.choose choice).languages := by
  refine List.rel_filter ?_ kept.languages
  intro entry found completed
  simp only [LanguageSettings.isChosen, completed.language]

theorem Loaded.languages_flagged {written loaded : Settings}
    (kept : Loaded system base written loaded) (choice : Option Language)
    (debug : Bool) :
    List.Forall₂ (Completed system base (written.debug || debug))
      (written.languages.filter (·.isChosen choice))
      ((loaded.choose choice).flagged debug).languages := by
  have chosen := kept.languages_choose choice
  have same : (loaded.choose choice).debug = written.debug := kept.debug
  rw [flagged, same]
  cases inFile : written.debug with
  | true => simpa [inFile] using chosen
  | false =>
      rw [inFile] at chosen
      cases debug with
      | false => exact chosen
      | true =>
          exact completed_withDebugArguments
            { loaded.choose choice with debug := true } chosen

theorem specs_flagged (settings : Settings) (debug : Bool) :
    (settings.flagged debug).specs = settings.specs := by
  unfold flagged
  split
  · exact specs_withDebugArguments _
  · rfl

theorem generator_flagged (settings : Settings) (debug : Bool) :
    (settings.flagged debug).generator = settings.generator := by
  unfold flagged
  split
  · exact generator_withDebugArguments _
  · rfl

end Settings

namespace CommandLine

open Settings Comparison
open LanguageSettings (Completed)

variable {system : FileSystem}

/-- A file gives settings when it can be loaded and names the chosen
language. -/
theorem settingsFromFile_eq_ok_iff {file : String} {choice : Option Language}
    {debug : Bool} {settings : Settings} :
    settingsFromFile system file choice debug = .ok settings ↔
      ∃ path, expand system (.ofString file) = .ok path ∧
        ∃ loaded, load system path = .ok loaded ∧
          (loaded.choose choice).languages ≠ [] ∧
          (loaded.choose choice).flagged debug = settings := by
  have last (chosen : Settings) :
      (if debug && !chosen.debug then
          pure (withDebugArguments { chosen with debug := true })
        else pure chosen : Except Failure Settings) =
        .ok (chosen.flagged debug) := by
    rw [flagged]
    split
    · rfl
    · rfl
  rw [settingsFromFile, bind_eq_ok_iff]
  refine exists_congr fun path => and_congr_right fun _ => ?_
  rw [bind_eq_ok_iff]
  refine exists_congr fun loaded => and_congr_right fun done => ?_
  cases choice with
  | none =>
      obtain ⟨base, content, stands⟩ := leadsToFile_of_load done
      obtain ⟨_, _, _, _, _, _, _, _, ready⟩ := written_of_load stands done
      have named := languages_ne_nil_of_ready ready
      simp only [ok_bind, last, Except.ok.injEq, choose_none, ne_eq, named,
        not_false_eq_true, true_and]
  | some language =>
      simp only [last, bind_eq_ok_iff, orFail_eq_ok_iff, forLanguage_eq_ok_iff,
        Except.ok.injEq, and_assoc, exists_and_left, exists_eq_left']

/-- The one entry of settings that are given on a command line. -/
theorem completed_of_settingsFromOptions {options : CompareOptions}
    {parts : Segments} {settings : Settings}
    (done : settingsFromOptions system options parts = .ok settings) :
    ∃ language output found, options.language = some language ∧
      options.output = some output ∧ settings.languages = [found] ∧
      Completed system system.working options.debug
        { language := language, output := .ofString output,
          oldArguments := parts.old, newArguments := parts.new,
          reuse := options.reuse.getD .nothing } found := by
  unfold settingsFromOptions at done
  split at done
  · cases done
  · cases done
  · rename_i language output chosen directed
    obtain ⟨complete, ready, done⟩ := bind_eq_ok_iff.mp done
    have resolved := (resolvePaths_eq_ok_iff.mp done).languages
    rw [ready_eq_ok (orFail_eq_ok_iff.mp ready), withDebugArguments] at resolved
    refine ⟨language, output, ?_⟩
    -- the argument is added before the output directory is resolved here
    cases flag : options.debug with
    | false =>
        simp only [inlineSettings, flag, Bool.false_eq_true, if_false,
          List.forall₂_cons_left_iff, List.forall₂_nil_left_iff] at resolved
        obtain ⟨found, _, seen, rfl, listed⟩ := resolved
        exact ⟨found, chosen, directed, listed, completed_of_resolveLanguage seen⟩
    | true =>
        simp only [inlineSettings, flag, if_true, List.map_cons, List.map_nil,
          List.forall₂_cons_left_iff, List.forall₂_nil_left_iff] at resolved
        obtain ⟨found, _, seen, rfl, listed⟩ := resolved
        exact ⟨found, chosen, directed, listed,
          (completed_of_resolveLanguage seen).of_debugged⟩

/-- Whether a file gives settings depends on the choice alone: it has to name
the language. -/
theorem exists_settingsFromFile_iff (file : String) (choice : Option Language)
    (debug : Bool) :
    (∃ settings, settingsFromFile system file choice debug = .ok settings) ↔
      ∃ all, settingsFromFile system file none false = .ok all ∧
        ∃ entry ∈ all.languages, entry.isChosen choice = true := by
  have named (loaded : Settings) : (loaded.choose choice).languages ≠ [] ↔
      ∃ entry ∈ loaded.languages, entry.isChosen choice = true := by
    simp [choose]
  simp only [settingsFromFile_eq_ok_iff]
  constructor
  · rintro ⟨_, path, expanded, loaded, done, some, _⟩
    have entries := (named loaded).mp some
    refine ⟨loaded, ⟨path, expanded, loaded, done, ?_, ?_⟩, entries⟩
    · obtain ⟨entry, member, _⟩ := entries
      rw [choose_none]
      exact List.ne_nil_of_mem member
    · rw [choose_none]
      rfl
  · rintro ⟨all, ⟨path, expanded, loaded, done, _, rfl⟩, entries⟩
    rw [choose_none] at entries
    exact ⟨_, path, expanded, loaded, done, (named loaded).mpr entries, rfl⟩

theorem specs_and_generator_of_settingsFromFile {file : String}
    {choice other : Option Language} {debug flag : Bool}
    {settings others : Settings}
    (first : settingsFromFile system file choice debug = .ok settings)
    (second : settingsFromFile system file other flag = .ok others) :
    settings.specs = others.specs ∧ settings.generator = others.generator := by
  obtain ⟨path, expanded, loaded, done, _, rfl⟩ :=
    settingsFromFile_eq_ok_iff.mp first
  obtain ⟨_, again, _, repeated, _, rfl⟩ := settingsFromFile_eq_ok_iff.mp second
  cases expanded.symm.trans again
  cases done.symm.trans repeated
  simp only [specs_flagged, generator_flagged, choose, and_self]

/-- The arguments of a planned comparison are those of an entry. -/
theorem exists_entry_of_mem_plan {base : Path} {debug : Bool}
    {entries : List LanguageSettings} {settings : Settings} {planned : Planned}
    (completed : List.Forall₂ (Completed system base debug) entries
      settings.languages)
    (member : planned ∈ plan settings) :
    ∃ entry ∈ entries,
      planned.old.arguments = entry.oldArguments ++ debugWords debug ∧
      planned.new.arguments = entry.newArguments ++ debugWords debug := by
  obtain ⟨language, listed, specs, _, spec, _, rfl⟩ := mem_plan.mp member
  obtain ⟨entry, written, done⟩ := exists_of_mem_of_forall₂ completed listed
  exact ⟨entry, written, done.oldArguments, done.newArguments⟩

/-- Settings from a file are the entries of the chosen language in the order of
the file, each with its output directory resolved and with the argument for
debugging added once to both of its lists, if the file or the flag asks for it;
so it reaches every planned generation once.  The specifications and the
generator do not depend on the choice or on the flag, and whether there are
settings at all depends on the choice alone.  The flag does the same to the
entry that a command line stands for. -/
theorem debugging_added_once (system : FileSystem) :
    (∀ file choice debug settings,
      settingsFromFile system file choice debug = .ok settings →
      ∃ path base content written,
        expand system (.ofString file) = .ok path ∧
        system.LeadsToFile path base content ∧
          WrittenIn system.stack content written ∧
        List.Forall₂ (Completed system base (written.debug || debug))
          (written.languages.filter (·.isChosen choice)) settings.languages ∧
        List.Forall₂ (fun spec found => resolveSpec system base spec = .ok found)
          written.specs settings.specs ∧
        settings.generator = written.generator ∧
        ∀ planned ∈ plan settings,
          ∃ entry ∈ written.languages.filter (·.isChosen choice),
            planned.old.arguments =
              entry.oldArguments ++ debugWords (written.debug || debug) ∧
            planned.new.arguments =
              entry.newArguments ++ debugWords (written.debug || debug)) ∧
    (∀ file choice other debug flag settings others,
      settingsFromFile system file choice debug = .ok settings →
      settingsFromFile system file other flag = .ok others →
      settings.specs = others.specs ∧ settings.generator = others.generator) ∧
    (∀ file choice debug,
      (∃ settings, settingsFromFile system file choice debug = .ok settings) ↔
        ∃ all, settingsFromFile system file none false = .ok all ∧
          ∃ entry ∈ all.languages, entry.isChosen choice = true) ∧
    ∀ options parts settings,
      settingsFromOptions system options parts = .ok settings →
      ∃ language output found, options.language = some language ∧
        options.output = some output ∧ settings.languages = [found] ∧
        Completed system system.working options.debug
          { language := language, output := .ofString output,
            oldArguments := parts.old, newArguments := parts.new,
            reuse := options.reuse.getD .nothing } found := by
  refine ⟨?_, fun _ _ _ _ _ _ _ => specs_and_generator_of_settingsFromFile,
    exists_settingsFromFile_iff, fun _ _ _ => completed_of_settingsFromOptions⟩
  intro file choice debug settings done
  obtain ⟨path, expanded, loaded, read, _, rfl⟩ :=
    settingsFromFile_eq_ok_iff.mp done
  obtain ⟨base, content, stands⟩ := leadsToFile_of_load read
  obtain ⟨source, data, written, found, text, parsed, accepted, resolved,
    ready⟩ :=
    written_of_load stands read
  have kept := resolved.loaded ready
  have completed := kept.languages_flagged choice debug
  refine ⟨path, base, content, written, expanded, stands,
    ⟨source, data, text, parsed, accepted⟩, completed, ?_, ?_,
    fun planned member => exists_entry_of_mem_plan completed member⟩
  · rw [specs_flagged]
    exact kept.specs
  · rw [generator_flagged]
    exact kept.generator

/-- A file that sets debugging and names two languages, one of them with the
argument among its own, with a choice and the flag on top. -/
theorem debugging_added_once_chosen :
    let source := "debug=true\nspecs=[\x7bspec_paths=['a']\x7d]\n" ++
      "languages=[\x7blanguage='go',output_path='g'\x7d," ++
      "\x7blanguage='python',output_path='p',old_args=['--debug']\x7d]"
    let system : FileSystem := {
      top := .directory [("work", .directory [("c.toml", .file source.toUTF8)])]
      working := .ofString "/tmp"
      home := .ofString "/home/me" }
    let python : LanguageSettings :=
      ⟨.python, .ofString "/work/p", ["--debug", "--debug"], ["--debug"],
        .nothing⟩
    let settings : Settings := {
      debug := true
      specs := [⟨none, ["a"]⟩]
      languages := [python] }
    settingsFromFile system "/work/c.toml" (some .python) true = .ok settings ∧
      (∃ base content written, WrittenIn system.stack content written ∧
        List.Forall₂ (Completed system base (written.debug || true))
          (written.languages.filter (·.isChosen (some .python))) [python]) ∧
      ∃ all, settingsFromFile system "/work/c.toml" none false = .ok all ∧
        all.specs = settings.specs ∧ all.generator = settings.generator := by
  intro source system python settings
  have read : Toml.read system.stack source = .ok (.table
      [("debug", .bool true),
        ("specs", .list [.table [("spec_paths", .list [.text "a"])]]),
        ("languages", .list [
          .table [("language", .text "go"), ("output_path", .text "g")],
          .table [("language", .text "python"), ("output_path", .text "p"),
            ("old_args", .list [.text "--debug"])]])]) := by
    subst source
    cbv
  clear_value source
  have stands : system.LeadsToFile (.ofString "/work/c.toml") (.ofString "/work")
      source.toUTF8 := ⟨["work", "c.toml"], by cbv, by cbv, by cbv⟩
  have first : resolveFrom system (.ofString "/work") (.ofString "g") =
      .ok (.ofString "/work/g") := by cbv
  have second : resolveFrom system (.ofString "/work") (.ofString "p") =
      .ok (.ofString "/work/p") := by cbv
  let found : Settings := {
    debug := true
    specs := [⟨none, ["a"]⟩]
    languages := [⟨.go, .ofString "/work/g", [], [], .nothing⟩,
      ⟨.python, .ofString "/work/p", ["--debug"], [], .nothing⟩] }
  have seen : Settings.resolvePaths system (.ofString "/work")
      { debug := true
        specs := [⟨none, ["a"]⟩]
        languages := [⟨.go, .ofString "g", [], [], .nothing⟩,
          ⟨.python, .ofString "p", ["--debug"], [], .nothing⟩] } = .ok found :=
    resolvePaths_eq_ok_iff.mpr ⟨rfl, rfl, .cons rfl .nil,
      .cons (bind_eq_ok_iff.mpr ⟨_, first, rfl⟩)
        (.cons (bind_eq_ok_iff.mpr ⟨_, second, rfl⟩) .nil)⟩
  have loaded : load system (.ofString "/work/c.toml") =
      .ok found.withDebugArguments :=
    load_of_written stands read rfl seen rfl
  have expanded : expand system (.ofString "/work/c.toml") =
      .ok (.ofString "/work/c.toml") := by cbv
  have chosen : settingsFromFile system "/work/c.toml" (some .python) true =
      .ok settings :=
    settingsFromFile_eq_ok_iff.mpr
      ⟨_, expanded, _, loaded, List.cons_ne_nil _ _, rfl⟩
  obtain ⟨fromFile, unchanged, succeeds, _⟩ := debugging_added_once system
  obtain ⟨_, base, content, written, _, _, inFile, completed, _⟩ :=
    fromFile _ _ _ _ chosen
  obtain ⟨all, done, _⟩ := (succeeds _ _ _).mp ⟨settings, chosen⟩
  exact ⟨chosen, ⟨base, content, written, inFile, completed⟩, all, done,
    unchanged _ _ _ _ _ _ _ done chosen⟩

end CommandLine

end SymbolDiff
