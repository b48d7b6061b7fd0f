import SymbolDiff.Proofs.CommandLine.DebugArguments
import SymbolDiff.Proofs.Data.Reading

/-!
# What can be run

Settings are accepted when they name a language and a specification, and then
there is something to generate.  The generator is not looked at: a text without
words and an empty list are accepted as well, and then the first argument or
option of a generation stands where its program should.
-/

namespace SymbolDiff

open Outcome

namespace Text

theorem wordsFrom_eq_nil_iff {current rest : List Char} :
    wordsFrom current rest = [] ↔
      current = [] ∧ ∀ c ∈ rest, isBlank c = true := by
  fun_induction wordsFrom current rest with
  | case1 current empty => simpa using empty
  | case2 current underway => simpa using underway
  | case3 current c rest blank empty induction =>
      have none : current = [] := by simpa using empty
      simp [induction, blank, none]
  | case4 current c rest blank underway =>
      have some : current ≠ [] := by simpa using underway
      simp [some]
  | case5 current c rest letter induction => simp [induction, letter]

/-- A text has no words when it is blank. -/
theorem words_eq_nil_iff {text : String} :
    words text = [] ↔ ∀ c ∈ text.toList, isBlank c = true := by
  simp [words, wordsFrom_eq_nil_iff]

theorem empty_notMem_wordsFrom (current rest : List Char) :
    "" ∉ wordsFrom current rest := by
  have word {current : List Char} (underway : ¬current.isEmpty = true) :
      String.ofList current ≠ "" := by
    intro none
    have none := congrArg String.toList none
    exact underway (by simpa using none)
  fun_induction wordsFrom current rest with
  | case1 => exact List.not_mem_nil
  | case2 current underway =>
      intro member
      exact word underway (List.mem_singleton.mp member).symm
  | case3 current c rest blank empty induction => exact induction
  | case4 current c rest blank underway induction =>
      intro member
      rcases List.mem_cons.mp member with first | later
      · exact word underway first.symm
      · exact induction later
  | case5 current c rest letter induction => exact induction

end Text

namespace Settings

variable {system : FileSystem} {data : Data} {settings found : Settings}

theorem generator_of_ready (done : settings.ready = .ok found) :
    found.generator = settings.generator := by
  rw [ready_eq_ok done, generator_withDebugArguments]

/-- The choice of a language leaves its entries and everything else. -/
theorem forLanguage_eq_ok {language : String}
    (done : settings.forLanguage language = .ok found) :
    found.languages ≠ [] ∧
      found = { settings with languages := found.languages } := by
  unfold forLanguage at done
  split at done
  · cases done
  · rename_i selected some
    cases done
    exact ⟨fun none => some none, rfl⟩

/-- Settings that are accepted, with the data in which they were written. -/
inductive AcceptedFrom (system : FileSystem) (data : Data) : Settings → Prop where
  | built {settings : Settings} (done : build data = .ok settings) :
      AcceptedFrom system data settings
  | loaded {path base : Path} {content : ByteArray} {source : String}
      {settings : Settings} (stands : system.LeadsToFile path base content)
      (text : String.fromUTF8? content = some source)
      (read : Toml.read system.stack source = .ok data)
      (done : load system path = .ok settings) : AcceptedFrom system data settings
  | chosen {settings selected : Settings} {language : String}
      (accepted : AcceptedFrom system data settings)
      (done : settings.forLanguage language = .ok selected) :
      AcceptedFrom system data selected

theorem exists_acceptedFrom {path : Path}
    (done : load system path = .ok settings) :
    ∃ data, AcceptedFrom system data settings := by
  obtain ⟨base, content, stands⟩ := leadsToFile_of_load done
  obtain ⟨source, data, _, _, text, read, _⟩ := written_of_load stands done
  exact ⟨data, .loaded stands text read done⟩

/-- The generator that data names: one text, of which the words count, a list
of words, or the default. -/
inductive NamesGenerator : Data → List String → Prop where
  | absent {entries : List (String × Data)}
      (unnamed : Data.lookup "generator" entries = none) :
      NamesGenerator (.table entries) defaultGenerator
  | line {entries : List (String × Data)} {text : String}
      (named : Data.lookup "generator" entries = some (.text text)) :
      NamesGenerator (.table entries) (Text.words text)
  | listed {entries : List (String × Data)} {words : List String}
      (named : Data.lookup "generator" entries = some (wordsData words)) :
      NamesGenerator (.table entries) words

/-- Data names a generator that is nothing. -/
inductive LacksGenerator : Data → Prop where
  | blank {entries : List (String × Data)} {text : String}
      (named : Data.lookup "generator" entries = some (.text text))
      (blank : ∀ c ∈ text.toList, Text.isBlank c = true) :
      LacksGenerator (.table entries)
  | nothing {entries : List (String × Data)}
      (named : Data.lookup "generator" entries = some (.list [])) :
      LacksGenerator (.table entries)

theorem readWords_eq_valid_iff {words : List String} :
    readList readText data = .valid words ↔ data = wordsData words := by
  have listed (items : List Data) :
      List.Forall₂ (fun item word => readText item = .valid word) items words ↔
        items = words.map .text := by
    simp only [readText_eq_valid_iff]
    rw [← List.forall₂_map_right_iff (R := Eq), List.forall₂_eq_eq_eq]
  cases data with
  | list items =>
      rw [readList, Checked.members_eq_valid_iff, listed, wordsData,
        Data.list.injEq]
  | _ => simp [readList, wordsData]

theorem readCommand_eq_valid_iff {words : List String} :
    readCommand data = .valid words ↔
      (∃ text, data = .text text ∧ Text.words text = words) ∨
        data = wordsData words := by
  unfold readCommand
  split
  · simp [wordsData]
  · rename_i noText
    rw [readWords_eq_valid_iff, or_iff_right]
    rintro ⟨text, same, _⟩
    exact noText text same

theorem namesGenerator_of_ofData (read : Settings.ofData data = .valid settings) :
    NamesGenerator data settings.generator := by
  unfold Settings.ofData readRecord at read
  split at read
  · rename_i entries
    simp only [Checked.seq_eq_valid_iff, Checked.map_eq_valid_iff] at read
    obtain ⟨_, _,
      ⟨_, _, ⟨_, _, ⟨_, generator, ⟨_, _, rfl⟩, named, rfl⟩, _, rfl⟩, _, rfl⟩,
      _, rfl⟩ := read
    rcases defaulted_eq_valid_iff.mp named with
      ⟨data, found, words⟩ | ⟨unnamed, rfl⟩
    · rcases readCommand_eq_valid_iff.mp words with ⟨text, rfl, rfl⟩ | rfl
      · exact .line found
      · exact .listed found
    · exact .absent unnamed
  · exact (Checked.fail_ne_valid _ _ read).elim

theorem NamesGenerator.eq_nil_iff {words : List String}
    (names : NamesGenerator data words) : words = [] ↔ LacksGenerator data := by
  constructor
  · intro empty
    cases names with
    | absent => cases empty
    | line named => exact .blank named (Text.words_eq_nil_iff.mp empty)
    | listed named =>
        subst empty
        exact .nothing named
  · intro lacks
    cases lacks with
    | blank found blank =>
        cases names with
        | absent unnamed => cases found.symm.trans unnamed
        | line named =>
            cases found.symm.trans named
            exact Text.words_eq_nil_iff.mpr blank
        | listed named => cases found.symm.trans named
    | nothing found =>
        cases names with
        | absent unnamed => cases found.symm.trans unnamed
        | line named => cases found.symm.trans named
        | listed named => simpa [wordsData, found] using named

/-- A program without a name comes from a list that begins with an empty
text. -/
theorem NamesGenerator.of_empty_cons {arguments : List String}
    (names : NamesGenerator data ("" :: arguments)) :
    ∃ entries, data = .table entries ∧
      Data.lookup "generator" entries = some (wordsData ("" :: arguments)) := by
  generalize whole : "" :: arguments = words at names
  cases names with
  | absent => simp [defaultGenerator] at whole
  | @line _ text named =>
      have member : "" ∈ Text.words text := by simp [← whole]
      exact (Text.empty_notMem_wordsFrom _ _ member).elim
  | listed named => exact ⟨_, rfl, named⟩

theorem AcceptedFrom.complete (accepted : AcceptedFrom system data settings) :
    settings.Complete := by
  induction accepted with
  | built done =>
      obtain ⟨written, _, done⟩ := bind_eq_ok_iff.mp done
      exact complete_of_ready (orFail_eq_ok_iff.mp done)
  | loaded stands _ _ done =>
      obtain ⟨_, _, _, _, _, _, _, _, ready⟩ := written_of_load stands done
      exact complete_of_ready ready
  | chosen _ done induction =>
      obtain ⟨some, same⟩ := forLanguage_eq_ok done
      refine ⟨some, ?_⟩
      rw [same]
      exact induction.2

theorem AcceptedFrom.namesGenerator
    (accepted : AcceptedFrom system data settings) :
    NamesGenerator data settings.generator := by
  induction accepted with
  | built done =>
      obtain ⟨written, valid, done⟩ := bind_eq_ok_iff.mp done
      rw [generator_of_ready (orFail_eq_ok_iff.mp done)]
      exact namesGenerator_of_ofData (ofChecked_eq_ok_iff.mp valid)
  | loaded stands text read done =>
      obtain ⟨_, _, _, _, sameText, sameData, valid, resolved, ready⟩ :=
        written_of_load stands done
      cases text.symm.trans sameText
      cases read.symm.trans sameData
      rw [generator_of_ready ready, resolved.generator]
      exact namesGenerator_of_ofData valid
  | chosen _ done induction =>
      rw [(forLanguage_eq_ok done).2]
      exact induction

end Settings

namespace Comparison

open Settings

variable {settings : Settings} {planned : Planned}

theorem plan_ne_nil_iff : plan settings ≠ [] ↔ settings.Complete := by
  simp only [plan, Complete, ne_eq, List.flatMap_eq_nil_iff, List.map_eq_nil_iff,
    not_forall]
  constructor
  · rintro ⟨language, listed, specs, member, some⟩
    exact ⟨List.ne_nil_of_mem listed, specs, member, some⟩
  · rintro ⟨some, specs, member, paths⟩
    obtain ⟨language, listed⟩ := List.exists_mem_of_ne_nil _ some
    exact ⟨language, listed, specs, member, paths⟩

/-- The options that tell a generator the language and the folder. -/
def languageOptions (language : Language) (output : Path) : List String :=
  ["--" ++ language.word,
    "--" ++ language.word ++ ".output-folder=" ++ output.toText,
    "--" ++ language.word ++ ".clear-output-folder"]

/-- The command lines of a planned comparison: the generator, the arguments of
the side, the options for the language and the file of the specification. -/
structure CommandLines (settings : Settings) (planned : Planned) : Prop where
  language : planned.language ∈ settings.languages
  spec : ∃ specs ∈ settings.specs, planned.spec ∈ specs.paths ∧
    planned.old.spec = specs.file planned.spec ∧
    planned.new.spec = specs.file planned.spec
  old : planned.old.commandLine = settings.generator ++
    (planned.language.oldArguments ++
      (languageOptions planned.language.language planned.old.output ++
        [planned.old.spec.toText]))
  new : planned.new.commandLine = settings.generator ++
    (planned.language.newArguments ++
      (languageOptions planned.language.language planned.new.output ++
        [planned.new.spec.toText]))

theorem commandLines_of_mem_plan (member : planned ∈ plan settings) :
    CommandLines settings planned := by
  obtain ⟨language, inLanguages, specs, inSpecs, spec, inPaths, rfl⟩ :=
    mem_plan.mp member
  refine ⟨inLanguages, ⟨specs, inSpecs, inPaths, rfl, rfl⟩, ?_, ?_⟩
  · simp [Request.commandLine, planSpec, languageOptions]
  · simp [Request.commandLine, planSpec, languageOptions]

namespace CommandLines

variable (lines : CommandLines settings planned)

include lines

theorem head?_of_cons {program : String} {arguments : List String}
    (named : settings.generator = program :: arguments) :
    planned.old.commandLine.head? = some program ∧
      planned.new.commandLine.head? = some program := by
  rw [lines.old, lines.new, named]
  exact ⟨rfl, rfl⟩

/-- Without a generator an argument or an option takes the first place. -/
theorem head?_of_nil (none : settings.generator = []) :
    planned.old.commandLine.head? = some
        (planned.language.oldArguments.headD
          ("--" ++ planned.language.language.word)) ∧
      planned.new.commandLine.head? = some
        (planned.language.newArguments.headD
          ("--" ++ planned.language.language.word)) := by
  rw [lines.old, lines.new, none]
  constructor
  · cases planned.language.oldArguments with
    | nil => rfl
    | cons first rest => rfl
  · cases planned.language.newArguments with
    | nil => rfl
    | cons first rest => rfl

end CommandLines

/-- Everything that is accepted can be planned, and each command line starts
with the generator of the data.  Its first word is a program of the generator
exactly when the data does not name a generator that is nothing; else it is the
first argument of the side or, without one, the option for the language. -/
theorem accepted_runnable (system : FileSystem) :
    (∀ path settings, load system path = .ok settings →
      ∃ data, AcceptedFrom system data settings) ∧
    ∀ data settings, AcceptedFrom system data settings →
      plan settings ≠ [] ∧
      NamesGenerator data settings.generator ∧
      (∀ planned ∈ plan settings, CommandLines settings planned) ∧
      (¬LacksGenerator data → ∃ program arguments,
        settings.generator = program :: arguments ∧
        (program = "" → ∃ entries, data = .table entries ∧
          Data.lookup "generator" entries = some (wordsData settings.generator)) ∧
        ∀ planned ∈ plan settings,
          planned.old.commandLine.head? = some program ∧
          planned.new.commandLine.head? = some program) ∧
      (LacksGenerator data →
        settings.generator = [] ∧
        ∀ planned ∈ plan settings,
          planned.old.commandLine.head? = some
            (planned.language.oldArguments.headD
              ("--" ++ planned.language.language.word)) ∧
          planned.new.commandLine.head? = some
            (planned.language.newArguments.headD
              ("--" ++ planned.language.language.word))) := by
  refine ⟨fun path settings done => exists_acceptedFrom done, ?_⟩
  intro data settings accepted
  have names := accepted.namesGenerator
  refine ⟨plan_ne_nil_iff.mpr accepted.complete, names,
    fun planned member => commandLines_of_mem_plan member, ?_, ?_⟩
  · intro named
    obtain ⟨program, arguments, same⟩ := List.exists_cons_of_ne_nil
      (mt names.eq_nil_iff.mp named)
    refine ⟨program, arguments, same, ?_,
      fun planned member => (commandLines_of_mem_plan member).head?_of_cons same⟩
    rintro rfl
    rw [same] at names ⊢
    exact names.of_empty_cons
  · intro lacks
    have none := names.eq_nil_iff.mpr lacks
    exact ⟨none, fun planned member =>
      (commandLines_of_mem_plan member).head?_of_nil none⟩

/-- A generator of two words, two languages of which one is chosen, and
debugging. -/
theorem accepted_runnable_chosen :
    let system : FileSystem := {
      top := .directory []
      working := .ofString "/"
      home := .ofString "/" }
    let data : Data := .table
      [("debug", .bool true), ("generator", .text " npx autorest"),
        ("specs", .list [.table [("spec_paths", .list [.text "a.json"])]]),
        ("languages", .list [
          .table [("language", .text "go"), ("output_path", .text "g")],
          .table [("language", .text "python"), ("output_path", .text "p"),
            ("old_args", .list [.text "--v2"])]])]
    let python : LanguageSettings :=
      ⟨.python, .ofString "p", ["--v2", "--debug"], ["--debug"], .nothing⟩
    let settings : Settings := {
      debug := true
      generator := ["npx", "autorest"]
      specs := [⟨none, ["a.json"]⟩]
      languages := [python] }
    AcceptedFrom system data settings ∧ ¬LacksGenerator data ∧
      ∀ planned ∈ plan settings,
        planned.old.commandLine =
          ["npx", "autorest", "--v2", "--debug", "--python",
            "--python.output-folder=p/a/old", "--python.clear-output-folder",
            "a.json"] ∧
        planned.new.commandLine.head? = some "npx" := by
  intro system data python settings
  have chosen : Settings.forLanguage
      { settings with languages :=
          [⟨.go, .ofString "g", ["--debug"], ["--debug"], .nothing⟩, python] }
      "python" = .ok settings := rfl
  have accepted : AcceptedFrom system data settings := .chosen (.built rfl) chosen
  obtain ⟨_, names, lines, named, _⟩ :=
    (accepted_runnable system).2 data settings accepted
  have present : ¬LacksGenerator data := fun lacks =>
    absurd (names.eq_nil_iff.mpr lacks) (List.cons_ne_nil _ _)
  refine ⟨accepted, present, fun planned member => ?_⟩
  obtain ⟨program, arguments, same, _, heads⟩ := named present
  cases same
  refine ⟨?_, (heads planned member).2⟩
  rw [(lines planned member).old]
  cases List.mem_singleton.mp member
  decide

/-- A generator of blanks is accepted, and no command line starts with a
program. -/
theorem blank_generator_accepted :
    ¬∀ data settings, build data = .ok settings →
      ∀ planned ∈ plan settings, ∃ program arguments,
        settings.generator = program :: arguments ∧
          settings.generator <+: planned.old.commandLine := by
  intro always
  obtain ⟨_, _, named, _⟩ := always
    (.table [("generator", .text " "),
      ("specs", .list [.table [("spec_paths", .list [.text "a.json"])]]),
      ("languages", .list [.table
        [("language", .text "python"), ("output_path", .text "out")]])])
    { generator := []
      specs := [⟨none, ["a.json"]⟩]
      languages := [⟨.python, .ofString "out", [], [], .nothing⟩] }
    rfl _ (List.mem_singleton_self _)
  cases named

end Comparison

end SymbolDiff
