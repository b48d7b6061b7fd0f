import SymbolDiff.Proofs.CommandLine.Segments
import SymbolDiff.Proofs.CommandLine.SettingsFile
import SymbolDiff.Proofs.CommandLine.Uses

/-!
# Settings beside a settings file

A settings file provides what a run needs, so the command line may not give it
again.  Whether something is given is told from what it leaves behind: a text
whose last value is empty, and segments without a word, are not noticed.
Everything else that is given is named in the fault, and the fault comes before
anything is read or started.
-/

namespace SymbolDiff.CommandLine

open Comparison

/-- The options for settings that a settings file provides. -/
def inlineOptions : List String :=
  ["--spec-path", "--spec-root-path", "--output-path", "--use-existing-output",
    "--generator"]

/-- Those of them that take any text, of which the last counts. -/
def inlineTexts : List String :=
  ["--spec-root-path", "--output-path", "--generator"]

/-- The last use of an option gives it this value. -/
def LastUse (uses : List (String × String)) (name value : String) : Prop :=
  ∃ before after, uses = before ++ (name, value) :: after ∧
    ∀ other, (name, other) ∉ after

/-- A setting is given on a command line: an option for it is used, with
whatever value, or a segment is opened. -/
inductive Given (words : List String) (uses : List (String × String)) :
    String → Prop where
  | option {name value : String} (inline : name ∈ inlineOptions)
      (used : (name, value) ∈ uses) : Given words uses name
  | segment (opened : oldMark ∈ words ∨ newMark ∈ words) : Given words uses marks

/-- All that is left of a setting is empty. -/
inductive Emptied (words : List String) (uses : List (String × String)) :
    String → Prop where
  | option {name : String} (text : name ∈ inlineTexts)
      (last : LastUse uses name "") : Emptied words uses name
  | segments (old : (segments words).old = []) (new : (segments words).new = []) :
      Emptied words uses marks

section Findings

variable {uses : List (String × String)} {name value : String}

theorem value?_eq_some_iff :
    Findings.value? { options := uses } name = some value ↔
      LastUse uses name value := by
  rw [Findings.value?, List.getLast?_filter, Option.map_eq_some_iff]
  constructor
  · rintro ⟨⟨other, _⟩, found, rfl⟩
    obtain ⟨same, after, before, split, later⟩ :=
      List.find?_eq_some_iff_append.mp found
    have named : other = name := by simpa using same
    subst named
    refine ⟨before.reverse, after.reverse, ?_, ?_⟩
    · have whole := congrArg List.reverse split
      simpa using whole
    · intro value member
      simpa using later (other, value) (List.mem_reverse.mp member)
  · rintro ⟨before, after, rfl, later⟩
    refine ⟨(name, value), ?_, rfl⟩
    refine List.find?_eq_some_iff_append.mpr
      ⟨by simp, after.reverse, before.reverse, by simp, ?_⟩
    rintro ⟨other, value⟩ member
    have unnamed : other ≠ name := by
      rintro rfl
      exact later value (List.mem_reverse.mp member)
    simp [unnamed]

theorem value?_eq_none_iff :
    Findings.value? { options := uses } name = none ↔
      ∀ value, (name, value) ∉ uses := by
  simp only [Findings.value?, Option.map_eq_none_iff, List.getLast?_eq_none_iff,
    List.filter_eq_nil_iff, decide_eq_true_eq, Prod.forall]
  constructor
  · intro none value member
    exact none name value member rfl
  · rintro none other value member rfl
    exact none value member

theorem isGiven_value?_iff :
    isGiven (Findings.value? { options := uses } name) = true ↔
      (∃ value, (name, value) ∈ uses) ∧ ¬LastUse uses name "" := by
  rw [← value?_eq_some_iff]
  cases found : Findings.value? { options := uses } name with
  | none =>
      have unused := value?_eq_none_iff.mp found
      simp [isGiven, unused]
  | some last =>
      obtain ⟨before, after, split, _⟩ := value?_eq_some_iff.mp found
      have used : ∃ value, (name, value) ∈ uses := ⟨last, by simp [split]⟩
      simp only [isGiven, Option.any_some, Option.some.injEq, used, true_and,
        Bool.not_eq_true', String.isEmpty_eq_false_iff]

theorem values_ne_nil_iff :
    Findings.values { options := uses } name ≠ [] ↔
      ∃ value, (name, value) ∈ uses := by
  simp only [Findings.values, ne_eq, List.map_eq_nil_iff, List.filter_eq_nil_iff,
    decide_eq_true_eq, Prod.forall, not_forall, Classical.not_not]
  constructor
  · rintro ⟨_, value, member, rfl⟩
    exact ⟨value, member⟩
  · rintro ⟨value, member⟩
    exact ⟨name, value, member, rfl⟩

end Findings

section Named

variable {options : CompareOptions} {parts : Segments}
  {uses : List (String × String)} {rest : List String} {name : String}

/-- Settings are named in one order and at most once. -/
theorem besideFile_sublist (options : CompareOptions) (parts : Segments) :
    (besideFile options parts).Sublist (inlineOptions ++ [marks]) := by
  have kept (entries : List (Bool × String)) :
      (entries.filterMap fun entry =>
        if entry.1 then some entry.2 else none).Sublist
        (entries.map Prod.snd) := by
    induction entries with
    | nil => exact .slnil
    | cons entry rest induction =>
        obtain ⟨named, name⟩ := entry
        cases named with
        | false => exact induction.cons _
        | true => exact induction.cons_cons _
  exact kept _

theorem mem_besideFile_iff :
    name ∈ besideFile options parts ↔
      name = "--spec-path" ∧ options.specs ≠ [] ∨
      name = "--spec-root-path" ∧ isGiven options.specRoot = true ∨
      name = "--output-path" ∧ isGiven options.output = true ∨
      name = "--use-existing-output" ∧ options.reuse.isSome = true ∨
      name = "--generator" ∧ isGiven options.generator = true ∨
      name = marks ∧ (parts.old ≠ [] ∨ parts.new ≠ []) := by
  have kept (entries : List (Bool × String)) :
      name ∈ entries.filterMap
        (fun entry => if entry.1 then some entry.2 else none) ↔
        (true, name) ∈ entries := by
    simp
  rw [besideFile, kept]
  simp [and_comm, eq_comm (a := true)]

theorem marks_mem_besideFile_iff :
    marks ∈ besideFile options parts ↔ parts.old ≠ [] ∨ parts.new ≠ [] := by
  have unlisted : marks ∉ inlineOptions := by decide
  simp only [inlineOptions, List.mem_cons, List.not_mem_nil, or_false,
    not_or] at unlisted
  simp only [mem_besideFile_iff, unlisted, false_and, false_or, true_and]

/-- The values of an option with choices are among the choices. -/
theorem isSome_reuse_iff (used : compareForm.Uses rest uses)
    (read : compareCommand { options := uses } = .compare options) :
    options.reuse.isSome = true ↔
      ∃ value, ("--use-existing-output", value) ∈ uses := by
  cases read
  dsimp only
  cases found : Findings.value? { options := uses } "--use-existing-output" with
  | none =>
      have unused := value?_eq_none_iff.mp found
      simp [unused]
  | some word =>
      obtain ⟨before, after, split, _⟩ := value?_eq_some_iff.mp found
      have member : ("--use-existing-output", word) ∈ uses := by simp [split]
      obtain ⟨switch, listed, key, allows⟩ := used.exists_switch member
      have choice : word ∈ Reuse.all.map Reuse.word := by
        simp only [compareForm, List.mem_cons, List.not_mem_nil,
          or_false] at listed
        rcases listed with
          rfl | rfl | rfl | rfl | rfl | rfl | rfl | rfl | rfl | rfl
        all_goals first | exact allows rfl _ rfl | exact absurd key (by decide)
      have found : ∃ reuse ∈ Reuse.all, reuse.word = word :=
        List.mem_map.mp choice
      simpa [found] using ⟨word, member⟩

theorem mem_besideFile_option (used : compareForm.Uses rest uses)
    (read : compareCommand { options := uses } = .compare options)
    (inline : name ∈ inlineOptions) :
    name ∈ besideFile options parts ↔
      (∃ value, (name, value) ∈ uses) ∧
        ¬(name ∈ inlineTexts ∧ LastUse uses name "") := by
  have mark : name ≠ marks := by
    rintro rfl
    exact absurd inline (by decide)
  rw [mem_besideFile_iff, isSome_reuse_iff used read]
  cases read
  simp only [inlineOptions, List.mem_cons, List.not_mem_nil, or_false] at inline
  rcases inline with rfl | rfl | rfl | rfl | rfl
  · simp [mark, values_ne_nil_iff, inlineTexts]
  · simp [mark, isGiven_value?_iff, inlineTexts]
  · simp [mark, isGiven_value?_iff, inlineTexts]
  · simp [mark, inlineTexts]
  · simp [mark, isGiven_value?_iff, inlineTexts]

/-- Segments hold words only behind a mark. -/
theorem mark_mem_of_segments {words : List String}
    (left : (segments words).old ≠ [] ∨ (segments words).new ≠ []) :
    oldMark ∈ words ∨ newMark ∈ words := by
  obtain ⟨front, blocks, apart⟩ := exists_fallsApart words
  rw [apart.segments_eq] at left
  cases blocks with
  | nil => simp [wordsFor] at left
  | cons block later =>
      have member : block.mark.word ∈ words := by
        simp [apart.whole, Block.written]
      obtain ⟨mark, _⟩ := block
      cases mark with
      | old => exact .inl member
      | new => exact .inr member

/-- What is named beside a settings file is what is given and not emptied. -/
theorem mem_besideFile_iff_given {words : List String}
    (used : compareForm.Uses rest uses)
    (read : compareCommand { options := uses } = .compare options) :
    name ∈ besideFile options (segments words) ↔
      Given words uses name ∧ ¬Emptied words uses name := by
  have unlisted : marks ∉ inlineOptions := by decide
  constructor
  · intro named
    rcases List.mem_append.mp
      ((besideFile_sublist _ _).subset named) with inline | mark
    · obtain ⟨⟨value, member⟩, left⟩ :=
        (mem_besideFile_option used read inline).mp named
      refine ⟨.option inline member, ?_⟩
      rintro (⟨text, last⟩ | _)
      · exact left ⟨text, last⟩
      · exact unlisted inline
    · cases List.mem_singleton.mp mark
      have left := marks_mem_besideFile_iff.mp named
      refine ⟨.segment (mark_mem_of_segments left), ?_⟩
      rintro (⟨text, _⟩ | ⟨old, new⟩)
      · exact absurd text (by decide)
      · simp [old, new] at left
  · rintro ⟨given, left⟩
    cases given with
    | option inline member =>
        exact (mem_besideFile_option used read inline).mpr
          ⟨⟨_, member⟩, fun ⟨text, last⟩ => left (.option text last)⟩
    | segment _ =>
        refine marks_mem_besideFile_iff.mpr ?_
        by_contra none
        simp only [not_or, Classical.not_not] at none
        exact left (.segments none.1 none.2)

end Named

variable {words : List String} {options : CompareOptions} {parts : Segments}
  {file : String}

theorem run_of_besideFile {generator : Generator} {parse : Grammar.Parser}
    {session : Session}
    (read : Command.read words = .ok (.compare options, parts))
    (named : options.settingsFile = some file)
    (beside : besideFile options parts ≠ []) :
    (run generator words parse).run session =
      (.finished 1 ""
        ("error: " ++ (", ".intercalate (besideFile options parts) ++
        " cannot be combined with --config") ++ "\n"), session) := by
  have refused : compareSettings session.system options parts =
      .error (.settings (.besideFile (besideFile options parts))) := by
    rw [compareSettings, named]
    dsimp only
    split
    · rename_i none
      exact absurd none beside
    · rfl
  rw [run_of_read read, Command.run, runCompare, Run.on_bind, on_look, refused]
  rfl

/-- Beside a settings file every setting that is given and not emptied is named
in a fault, once and in a fixed order, before the file is read or a generator
started.  Where all of them are emptied, the settings are those of the file. -/
theorem besideFile_rejected
    (read : Command.read words = .ok (.compare options, parts))
    (named : options.settingsFile = some file) :
    ∃ rest uses,
      (segments words).program = "compare" :: rest ∧
      (∀ others, compareForm.Uses rest others ↔ others = uses) ∧
      compareCommand { options := uses } = .compare options ∧
      (besideFile options parts).Sublist (inlineOptions ++ [marks]) ∧
      (∀ name, name ∈ besideFile options parts ↔
        Given words uses name ∧ ¬Emptied words uses name) ∧
      ((∃ name, Given words uses name ∧ ¬Emptied words uses name) →
        ∀ generator parse session, (run generator words parse).run session =
          (.finished 1 ""
            ("error: " ++ (", ".intercalate (besideFile options parts) ++
            " cannot be combined with --config") ++ "\n"), session)) ∧
      ((∀ name, Given words uses name → Emptied words uses name) →
        ∀ system, compareSettings system options parts =
          settingsFromFile system file options.language options.debug) := by
  obtain ⟨rfl, rest, uses, program, used, same⟩ := uses_of_read_compare read
  have given (name : String) : name ∈ besideFile options (segments words) ↔
      Given words uses name ∧ ¬Emptied words uses name :=
    mem_besideFile_iff_given used same
  refine ⟨rest, uses, program, fun others => ⟨fun again => used.unique again, ?_⟩,
    same, besideFile_sublist _ _, given, ?_, ?_⟩
  · rintro rfl
    exact used
  · rintro ⟨name, here⟩ generator parse session
    exact run_of_besideFile read named
      (List.ne_nil_of_mem ((given name).mpr here))
  · intro emptied system
    have none : besideFile options (segments words) = [] := by
      refine List.eq_nil_iff_forall_not_mem.mpr fun name member => ?_
      obtain ⟨here, left⟩ := (given name).mp member
      exact left (emptied name here)
    rw [compareSettings, named]
    dsimp only
    rw [none]

/-- An option that is given twice and emptied, next to two that stay. -/
theorem besideFile_rejected_emptied :
    let words := ["compare", "--spec-path", "", "--config=c.toml", "--gen", "g",
      "--generator", "", "--old-args", "--new-args", "v"]
    let options : CompareOptions :=
      { settingsFile := some "c.toml", specs := [""], generator := some "" }
    let parts : Segments := { program := words.take 8, old := [], new := ["v"] }
    Command.read words = .ok (.compare options, parts) ∧
      besideFile options parts = ["--spec-path", marks] ∧
      ∀ generator parse session, (run generator words parse).run session =
        (.finished 1 "" ("error: --spec-path, --old-args/--new-args" ++
          " cannot be combined with --config\n"), session) := by
  intro words options parts
  have read : Command.read words = .ok (.compare options, parts) := by rfl
  have beside : besideFile options parts = ["--spec-path", marks] := by decide
  have file : options.settingsFile = some "c.toml" := rfl
  obtain ⟨_, _, _, _, _, _, given, rejected, _⟩ := besideFile_rejected read file
  have named : "--spec-path" ∈ besideFile options parts := by simp [beside]
  refine ⟨read, beside, fun generator parse session => ?_⟩
  rw [rejected ⟨_, (given _).mp named⟩ generator parse session, beside]
  rfl

/-- Not every setting that is given beside a settings file is noticed: an empty
generator goes by, and the file is read. -/
theorem emptied_generator_unnoticed :
    ¬∀ (words : List String) (options : CompareOptions) (parts : Segments)
      (file : String) (rest : List String) (uses : List (String × String))
      (name : String),
      Command.read words = .ok (.compare options, parts) →
      options.settingsFile = some file →
      (segments words).program = "compare" :: rest → compareForm.Uses rest uses →
      Given words uses name →
      ∀ generator session, ∃ given, name ∈ given ∧
        (run generator words).run session =
          (.finished 1 "" ("error: " ++ (", ".intercalate given ++
            " cannot be combined with --config") ++ "\n"), session) := by
  intro always
  let words := ["compare", "--config", "/c.toml", "--generator", ""]
  let options : CompareOptions :=
    { settingsFile := some "/c.toml", generator := some "" }
  let session : Session := {
    system := {
      top := .directory [("c.toml", .file ⟨#[0xff]⟩)]
      working := .ofString "/"
      home := .ofString "/" } }
  have read : Command.read words = .ok (.compare options, ⟨words, [], []⟩) := by
    rfl
  obtain ⟨_, rest, uses, program, used, same⟩ := uses_of_read_compare read
  have last : LastUse uses "--generator" "" := by
    rw [← value?_eq_some_iff]
    injection same with found
    exact congrArg CompareOptions.generator found
  obtain ⟨before, after, split, _⟩ := last
  have given : Given words uses "--generator" := .option (by decide)
    (show ("--generator", "") ∈ uses by simp [split])
  let idle : Generator := fun _ => .done (.exited 0 "" "")
  obtain ⟨_, _, finished⟩ := always words options _ "/c.toml" rest uses _ read rfl
    program used given idle session
  have readable : session.system.stat? (.ofString "/c.toml") =
      some (.file ⟨#[0xff]⟩) := by
    subst session
    cbv
  have expanded : Settings.expand session.system (.ofString "/c.toml") =
      .ok (.ofString "/c.toml") := by
    subst session
    cbv
  obtain ⟨base, stands⟩ := FileSystem.stat?_eq_file_iff.mp readable
  have failed := (Settings.load_eq_notText_iff stands).mpr (by cbv)
  have broken : (run idle words).run session = _ :=
    run_of_failure read (.compare rfl rfl) expanded failed
  rw [finished] at broken
  cases broken

end SymbolDiff.CommandLine
