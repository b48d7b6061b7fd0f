import SymbolDiff.Proofs.CommandLine.Rendering
import SymbolDiff.Proofs.Comparison.Summary

/-!
# Exit codes and reports

A command line that asks for a comparison and comes to an end has found
nothing, has found differences or has failed.  Exit code, report and messages
agree on which of the three it was, and a failure in any part of the work
leaves no report.
-/

namespace SymbolDiff

namespace Comparison

/-- Two steps succeed when the first does and the second does after it. -/
theorem Run.on_bind_eq_ok_iff {α β : Type} {part : Run α} {next : α → Run β}
    {session : Session} {result : β} :
    (Run.on (part >>= next) session).1 = .ok result ↔
      ∃ value, (Run.on part session).1 = .ok value ∧
        (Run.on (next value) (Run.on part session).2).1 = .ok result := by
  rw [Run.on_bind]
  cases Run.on part session with
  | mk outcome later =>
      cases outcome with
      | error failure => simp
      | ok value => simp

theorem Run.on_map {α β : Type} (change : α → β) (part : Run α)
    (session : Session) :
    Run.on (change <$> part) session =
      ((Run.on part session).1.map change, (Run.on part session).2) := by
  rw [map_eq_pure_bind, Run.on_bind]
  cases Run.on part session with
  | mk outcome later =>
      cases outcome with
      | error failure => rfl
      | ok value => rfl

/-- Comparisons that all succeed in their turns are carried out as one walk. -/
theorem Turns.on_mapM {generator : Generator} {parse : Grammar.Parser}
    {system last : FileSystem} {runs : List Planned} {specs : List SpecResult}
    (turns : Turns generator parse system runs specs last) {session : Session}
    (here : session.system = system) :
    (Run.on (runs.mapM (comparePlanned generator parse)) session).1 =
      .ok specs := by
  -- turns only see the file system; what else the session holds may be anything
  induction turns generalizing session with
  | nil system => rfl
  | @cons system last planned rest diff specs found following induction =>
      obtain ⟨outcome, left, _⟩ := on_turn generator planned parse session
      rw [here] at outcome left
      rw [found] at outcome
      rw [Run.on_mapM_cons]
      cases ended : Run.on (comparePlanned generator parse planned) session with
      | mk result later =>
          rw [ended] at outcome left
          dsimp only at outcome left
          rw [outcome]
          simp [induction left]

/-- Once the turns before it are over, a comparison of a sequence that succeeds
as a whole has its turn and succeeds in it. -/
theorem Turns.finding_next {generator : Generator} {parse : Grammar.Parser}
    {system reached last : FileSystem} {before after : List Planned}
    {planned : Planned} {earlier specs : List SpecResult}
    (first : Turns generator parse system before earlier reached)
    (turns : Turns generator parse system (before ++ planned :: after) specs
      last) :
    ∃ diff, planned.finding generator parse reached = .ok diff := by
  induction first generalizing specs last with
  | nil system =>
      cases turns with
      | cons found _ => exact ⟨_, found⟩
  | cons _ _ induction =>
      cases turns with
      | cons _ following => exact induction following

/-- A run succeeds exactly when all reused output is there and every planned
comparison succeeds in its turn. -/
theorem run_eq_ok_iff {generator : Generator} {parse : Grammar.Parser}
    {settings : Settings} {session : Session} {result : Result} :
    (Run.on (run generator settings parse) session).1 = .ok result ↔
    (∀ path ∈ (plan settings).flatMap Planned.reused,
        session.system.isDirectory path = true) ∧
      (∃ last,
        Turns generator parse session.system (plan settings) result.specs
          last) ∧
        result.diff = summary result.specs := by
  constructor
  · intro done
    have ended : Run.on (run generator settings parse) session =
        (.ok result, (Run.on (run generator settings parse) session).2) :=
      Prod.ext done rfl
    obtain ⟨last, turns, gathered⟩ := turns_of_run ended
    refine ⟨?_, ⟨last, turns⟩, gathered⟩
    rcases forM_require session.system
      ((plan settings).flatMap Planned.reused) with
      ⟨there, _⟩ | ⟨path, _, missing⟩
    · exact there
    · rw [on_run_of_missing missing] at done
      cases done
  · rintro ⟨there, ⟨last, turns⟩, gathered⟩
    have checked : checkReused session.system (plan settings) = .ok () := by
      apply Outcome.forM_eq_ok
      intro path member
      rw [Output.require, if_pos (there path member)]
    rw [on_run_of_checked checked, turns.on_mapM rfl, Outcome.map_ok, ← gathered]

end Comparison

namespace CommandLine

open Comparison

variable {generator : Generator} {parse : Grammar.Parser} {words : List String}
  {format : Format}

/-- The comparison that `compare` makes. -/
def generatedDiff (generator : Generator) (parse : Grammar.Parser)
    (options : CompareOptions) (parts : Segments) : Run (Option Node) := do
  let settings ← Run.look fun system => compareSettings system options parts
  let result ← Comparison.run generator settings parse
  return result.diff

/-- The comparison that `diff` makes. -/
def directoriesDiff (parse : Grammar.Parser) (options : DiffOptions) :
    Run (Option Node) := do
  let old ← Run.look fun system => directoryOf system options.old
  let new ← Run.look fun system => directoryOf system options.new
  Run.attempt fun system => Output.compareDirectories system old new parse

/-- A command that asks for a comparison, to be reported in a format. -/
inductive Asks (generator : Generator) (parse : Grammar.Parser) :
    Command × Segments → Format → Run (Option Node) → Prop where
  | compare (options : CompareOptions) (parts : Segments) :
      Asks generator parse (.compare options, parts) options.format
        (generatedDiff generator parse options parts)
  | diff (options : DiffOptions) (parts : Segments) :
      Asks generator parse (.diff options, parts) options.format
        (directoriesDiff parse options)

/-- What a finished comparison has to show. -/
def shown (format : Format) (diff : Option Node) : Shown :=
  { exitCode := if diff.isNone then 0 else 1, report := report format diff }

theorem shown_none (format : Format) :
    shown format none = { exitCode := 0, report := nothingFound format } := by
  cases format with
  | text => rfl
  | json => rfl

theorem runCompare_eq (options : CompareOptions) (parts : Segments) :
    runCompare generator parse options parts =
      shown options.format <$> generatedDiff generator parse options parts := by
  unfold runCompare generatedDiff
  simp only [map_bind, map_pure]
  rfl

theorem runDiff_eq (options : DiffOptions) :
    runDiff parse options =
      shown options.format <$> directoriesDiff parse options := by
  unfold runDiff directoriesDiff
  simp only [map_eq_pure_bind, bind_assoc]
  rfl

theorem run_of_read {command : Command} {parts : Segments}
    (read : Command.read words = .ok (command, parts)) (session : Session) :
    (run generator words parse).run session =
      (Outcome.ofResult (Run.on (command.run generator parse parts) session).1,
        (Run.on (command.run generator parse parts) session).2) := by
  unfold run
  rw [read]
  rfl

/-- What a comparison comes to is all that its command line shows. -/
theorem run_of_asks {command : Command × Segments} {work : Run (Option Node)}
    (read : Command.read words = .ok command)
    (asked : Asks generator parse command format work) (session : Session) :
    (run generator words parse).run session =
      (Outcome.ofResult ((Run.on work session).1.map (shown format)),
        (Run.on work session).2) := by
  cases asked with
  | compare options parts =>
      rw [run_of_read read, Command.run, runCompare_eq, Run.on_map]
  | diff options parts =>
      rw [run_of_read read, Command.run, runDiff_eq, Run.on_map]

/-- The outputs in both directories of a `diff`. -/
def listedOutputs (system : FileSystem) (options : DiffOptions) :
    Except Failure (Output × Output) := do
  let old ← directoryOf system options.old
  let new ← directoryOf system options.new
  let oldOutput ← Output.existing system old
  let newOutput ← Output.existing system new
  return (oldOutput, newOutput)

/-- All work for the answer of a command succeeds, and this is the answer. -/
inductive Answers (generator : Generator) (parse : Grammar.Parser)
    (session : Session) :
    Command × Segments → Option Node → Prop where
  | compare {options : CompareOptions} {parts : Segments} {settings : Settings}
      {specs : List SpecResult} {last : FileSystem}
      (ready : compareSettings session.system options parts = .ok settings)
      (there : ∀ path ∈ (plan settings).flatMap Planned.reused,
        session.system.isDirectory path = true)
      (turns : Turns generator parse session.system (plan settings) specs last) :
      Answers generator parse session (.compare options, parts) (summary specs)
  | diff {options : DiffOptions} {parts : Segments} {old new : Output}
      {diff : Option Node}
      (listed : listedOutputs session.system options = .ok (old, new))
      (compared : Attempt.outcome
        (Output.compare session.system old new parse) = .ok diff) :
      Answers generator parse session (.diff options, parts) diff

/-- The pairs of outputs that a command comes to compare, each with the file
system at that moment. -/
inductive Compares (generator : Generator) (parse : Grammar.Parser)
    (session : Session) :
    Command × Segments → FileSystem → Output → Output → Prop where
  | compare {options : CompareOptions} {parts : Segments} {settings : Settings}
      {before after : List Planned} {planned : Planned}
      {earlier : List SpecResult} {system : FileSystem} {old new : Output}
      (ready : compareSettings session.system options parts = .ok settings)
      (split : plan settings = before ++ planned :: after)
      (turns : Turns generator parse session.system before earlier system)
      (sides : planned.sides generator system = .ok (old, new)) :
      Compares generator parse session (.compare options, parts)
        (planned.left generator system) old new
  | diff {options : DiffOptions} {parts : Segments} {old new : Output}
      (listed : listedOutputs session.system options = .ok (old, new)) :
      Compares generator parse session (.diff options, parts) session.system
        old new

theorem generatedDiff_eq_ok_iff {options : CompareOptions} {parts : Segments}
    {session : Session} {diff : Option Node} :
    (Run.on (generatedDiff generator parse options parts) session).1 = .ok diff ↔
      ∃ settings, compareSettings session.system options parts = .ok settings ∧
        ∃ result,
          (Run.on (Comparison.run generator settings parse) session).1 =
            .ok result ∧
          result.diff = diff := by
  unfold generatedDiff
  simp only [Run.on_bind_eq_ok_iff, on_look, Run.on_pure, Except.ok.injEq]

theorem directoriesDiff_eq_ok_iff {options : DiffOptions} {session : Session}
    {diff : Option Node} :
    (Run.on (directoriesDiff parse options) session).1 = .ok diff ↔
      ∃ both, listedOutputs session.system options = .ok both ∧
        Attempt.outcome (Output.compare session.system both.1 both.2 parse) =
          .ok diff := by
  unfold directoriesDiff listedOutputs
  simp only [Run.on_bind_eq_ok_iff, on_look, on_attempt,
    outcome_compareDirectories_eq_ok_iff, Outcome.bind_eq_ok_iff,
    Outcome.pure_eq_ok, Except.ok.injEq]
  constructor
  · rintro ⟨oldPath, oldFound, newPath, newFound, old, oldListed, new, newListed,
      compared⟩
    exact ⟨(old, new), ⟨oldPath, oldFound, newPath, newFound, old, oldListed, new,
      newListed, rfl⟩, compared⟩
  · rintro ⟨both, ⟨oldPath, oldFound, newPath, newFound, old, oldListed, new,
      newListed, rfl⟩, compared⟩
    exact ⟨oldPath, oldFound, newPath, newFound, old, oldListed, new, newListed,
      compared⟩

/-- The comparison that is asked for gives an answer exactly when all work for
it succeeds. -/
theorem on_eq_ok_iff_answers {command : Command × Segments}
    {work : Run (Option Node)}
    (asked : Asks generator parse command format work) {session : Session}
    {diff : Option Node} :
    (Run.on work session).1 = .ok diff ↔
      Answers generator parse session command diff := by
  cases asked with
  | compare options parts =>
      rw [generatedDiff_eq_ok_iff]
      constructor
      · rintro ⟨settings, ready, result, done, rfl⟩
        obtain ⟨there, ⟨last, turns⟩, gathered⟩ := run_eq_ok_iff.mp done
        rw [gathered]
        exact .compare ready there turns
      · intro answers
        cases answers with
        | compare ready there turns =>
            exact ⟨_, ready, ⟨_, _⟩, run_eq_ok_iff.mpr ⟨there, ⟨_, turns⟩, rfl⟩,
              rfl⟩
  | diff options parts =>
      rw [directoriesDiff_eq_ok_iff]
      constructor
      · rintro ⟨both, listed, compared⟩
        exact .diff listed compared
      · intro answers
        cases answers with
        | diff listed compared => exact ⟨_, listed, compared⟩

/-- There is no answer unless every file of the outputs that are compared could
be compared. -/
theorem exists_outcome_of_answers {command : Command × Segments}
    {session : Session} {diff : Option Node}
    (answers : Answers generator parse session command diff)
    {system : FileSystem} {old new : Output}
    (compares : Compares generator parse session command system old new)
    {name : String} (inOld : name ∈ old.files) (inNew : name ∈ new.files) :
    ∃ entry, Attempt.outcome (OutputFile.compare system ⟨name, old.directory⟩
      ⟨name, new.directory⟩ parse) = .ok entry := by
  cases compares with
  | compare ready split turns sides =>
      cases answers with
      | compare readyToo _ all =>
          rw [ready] at readyToo
          cases readyToo
          rw [split] at all
          -- the run succeeds as a whole, and so does the turn of this comparison
          obtain ⟨diff, found⟩ := turns.finding_next all
          rw [Planned.finding, sides, Outcome.ok_bind] at found
          exact exists_outcome_of_compare found inOld inNew
  | diff listed =>
      cases answers with
      | diff listedToo compared =>
          rw [listed] at listedToo
          cases listedToo
          exact exists_outcome_of_compare compared inOld inNew

/-- A failure that is told to whoever started the run, with its text. -/
inductive Told : Failure → String → Prop where
  | settings (fault : Settings.Fault) : Told (.settings fault) fault.message
  | generator (fault : GeneratorFault) : Told (.generator fault) fault.message
  | extraction (fault : Extract.Fault) : Told (.extraction fault) fault.text

theorem told_iff {failure : Failure} {text : String} :
    Told failure text ↔ failure.report? = some text := by
  constructor
  · rintro (fault | fault | fault)
    · rfl
    · rfl
    · rfl
  · intro reported
    cases failure with
    | settings fault => cases reported; exact .settings fault
    | generator fault => cases reported; exact .generator fault
    | extraction fault => cases reported; exact .extraction fault
    | listing | reading | path | settingsNotText => cases reported

/-- What a comparison comes to. -/
inductive Verdict where
  | same
  | different
  | failed
  deriving DecidableEq, Repr

/-- Exit code, report and messages that go with a verdict on what was found. -/
inductive Ends (format : Format) :
    Verdict → Except Failure (Option Node) → Nat → String → String → Prop where
  | same : Ends format .same (.ok none) 0 (nothingFound format) ""
  | different {node : Node} {report : String}
      (renders : Renders node format report) :
      Ends format .different (.ok (some node)) 1 report ""
  | failed {failure : Failure} {text : String} (told : Told failure text) :
      Ends format .failed (.error failure) 1 "" ("error: " ++ text ++ "\n")

theorem Ends.verdict_unique {found : Except Failure (Option Node)}
    {code otherCode : Nat} {report messages otherReport otherMessages : String}
    {verdict other : Verdict}
    (ends : Ends format verdict found code report messages)
    (endsToo : Ends format other found otherCode otherReport otherMessages) :
    verdict = other := by
  cases ends with
  | same => cases endsToo; rfl
  | different => cases endsToo; rfl
  | failed => cases endsToo; rfl

theorem exists_ends {found : Except Failure (Option Node)}
    {code : Nat} {report messages : String}
    (shows : Outcome.ofResult (found.map (shown format)) =
      .finished code report messages) :
    ∃ verdict, Ends format verdict found code report messages := by
  cases found with
  | error failure =>
      rw [Outcome.map_error, Outcome.ofResult] at shows
      cases reported : failure.report? with
      | none =>
          rw [reported] at shows
          cases shows
      | some text =>
          rw [reported] at shows
          cases shows
          exact ⟨.failed, .failed (told_iff.mpr reported)⟩
  | ok diff =>
      cases diff with
      | none =>
          rw [Outcome.map_ok, shown_none] at shows
          cases shows
          exact ⟨.same, .same⟩
      | some node =>
          rw [Outcome.map_ok] at shows
          cases shows
          exact ⟨.different, .different (renders_report node format)⟩

namespace Ends

variable {verdict : Verdict} {found : Except Failure (Option Node)} {code : Nat}
  {report messages : String}

theorem code_eq_zero_iff (ends : Ends format verdict found code report messages) :
    code = 0 ↔ found = .ok none := by
  cases ends with
  | same => simp
  | different => simp
  | failed => simp

theorem report_eq_empty_iff
    (ends : Ends format verdict found code report messages) :
    report = "" ↔ ∃ failure, found = .error failure := by
  cases ends with
  | same =>
      cases format with
      | text => simp [nothingFound]
      | json => simp [nothingFound]
  | different renders => simp [renders.ne_empty]
  | failed => simp

theorem report_eq_nothingFound_iff
    (ends : Ends format verdict found code report messages) :
    report = nothingFound format ↔ found = .ok none := by
  cases ends with
  | same => simp
  | different renders => simp [renders.ne_nothingFound format]
  | failed =>
      cases format with
      | text => simp [nothingFound]
      | json => simp [nothingFound]

theorem renders {node : Node}
    (ends : Ends format verdict (.ok (some node)) code report messages) :
    Renders node format report := by
  cases ends with
  | different renders => exact renders

theorem code_of_error {failure : Failure}
    (ends : Ends format verdict (.error failure) code report messages) :
    code = 1 ∧ report = "" := by
  cases ends with
  | failed => exact ⟨rfl, rfl⟩

end Ends

/-- A command line that asks for a comparison and comes to an end has found
nothing, has found differences or has failed, and exit code, report and
messages all say the same of these.  The code is zero only when all work for
the answer has succeeded, and one file that could not be compared leaves no
report at all.  The report tells whether there are differences and, for
machines or where each line is legible, which ones. -/
theorem code_agrees_with_report
    (generator : Generator) (parse : Grammar.Parser) (words : List String)
    (command : Command × Segments) (format : Format) (work : Run (Option Node))
    (session later : Session) (code : Nat) (report messages : String)
    (read : Command.read words = .ok command)
    (asked : Asks generator parse command format work)
    (returned : (run generator words parse).run session =
      (.finished code report messages, later)) :
    let found := (Run.on work session).1
    (∃! verdict, Ends format verdict found code report messages) ∧
    (∀ diff, found = .ok diff ↔ Answers generator parse session command diff) ∧
    (code = 0 ↔ Answers generator parse session command none) ∧
    (report = "" ↔ ∃ failure, found = .error failure) ∧
    (report = nothingFound format ↔ found = .ok none) ∧
    (∀ node, found = .ok (some node) → Renders node format report ∧
      ∀ other, Renders other format report →
        Telling node format → Telling other format → other = node) ∧
    (∀ system old new, Compares generator parse session command system old new →
      ∀ name ∈ old.files, name ∈ new.files →
      ∀ failure, Attempt.outcome (OutputFile.compare system
          ⟨name, old.directory⟩ ⟨name, new.directory⟩ parse) = .error failure →
        code = 1 ∧ report = "") := by
  intro found
  rw [run_of_asks read asked] at returned
  obtain ⟨verdict, ends⟩ := exists_ends (congrArg Prod.fst returned)
  have answered (diff : Option Node) :
      found = .ok diff ↔ Answers generator parse session command diff :=
    on_eq_ok_iff_answers asked
  change Ends format verdict found code report messages at ends
  refine ⟨⟨verdict, ends, fun other endsToo => endsToo.verdict_unique ends⟩,
    answered, ends.code_eq_zero_iff.trans (answered none),
    ends.report_eq_empty_iff, ends.report_eq_nothingFound_iff, ?_, ?_⟩
  · intro node differs
    rw [differs] at ends
    refine ⟨ends.renders, fun other rendersToo telling tellingToo => ?_⟩
    exact rendersToo.unique ends.renders tellingToo telling
  · intro system old new compares name inOld inNew failure failed
    cases ended : found with
    | error other =>
        rw [ended] at ends
        exact ends.code_of_error
    | ok diff =>
        obtain ⟨entry, compared⟩ :=
          exists_outcome_of_answers ((answered diff).mp ended) compares inOld
            inNew
        rw [failed] at compared
        cases compared

/-- One of two files is gone: the code is one, and the report shows the file in
both formats. -/
theorem code_agrees_with_report_removal :
    let file (name : String) : String × Entry := (name, .file .empty)
    let session : Session := {
      system := {
        top := .directory [("old", .directory [file "a.txt", file "b.txt"]),
          ("new", .directory [file "b.txt"])]
        working := .ofString "/"
        home := .ofString "/" } }
    let idle : Generator := fun _ => .done (.exited 0 "" "")
    let node : Node := .mk "Generated Output Files" .outline [.removed "a.txt"]
    let Shows (format : Format) (words : List String) (report : String) : Prop :=
      let options : DiffOptions :=
        { old := "old", new := "new", format := format }
      let command := (Command.diff options, ({ program := words } : Segments))
      let found := (Run.on (directoriesDiff Grammar.treeOf options) session).1
      Command.read words = .ok command ∧
        (∃ later, (run idle words).run session = (.finished 1 report "", later)) ∧
        found = .ok (some node) ∧
        (∃! verdict, Ends format verdict found 1 report "") ∧
        Renders node format report ∧ report ≠ nothingFound format ∧
        ¬Answers idle Grammar.treeOf session command none
    Shows .text ["diff", "old", "new"] "• Generated Output Files\n  - a.txt\n" ∧
      Shows .json ["diff", "old", "new", "--format", "json"]
        ("\x7b\n  \"label\": \"Generated Output Files\",\n" ++
          "  \"kind\": \"outline\",\n  \"children\": [\n    \x7b\n" ++
          "      \"label\": \"a.txt\",\n      \"kind\": \"removed\"\n" ++
          "    \x7d\n  ]\n\x7d\n") := by
  intro file session idle node Shows
  have general (format : Format) (words : List String) (report : String)
      (read : Command.read words =
        .ok (.diff ⟨"old", "new", format⟩, ⟨words, [], []⟩))
      (written : CommandLine.report format (some node) = report) :
      Shows format words report := by
    unfold Shows
    intro options command found
    have asked : Asks idle Grammar.treeOf command format
        (directoriesDiff Grammar.treeOf options) := .diff options _
    have listed : listedOutputs session.system options =
        .ok ({ directory := .ofString "/old", files := ["a.txt", "b.txt"] },
          { directory := .ofString "/new", files := ["b.txt"] }) := by cbv
    have compared : Attempt.outcome (Output.compare session.system
        { directory := .ofString "/old", files := ["a.txt", "b.txt"] }
        { directory := .ofString "/new", files := ["b.txt"] }) =
          .ok (some node) := by
      rw [compare_eq (by decide) (by decide)]
      rfl
    have done := (on_eq_ok_iff_answers asked).mpr (.diff listed compared)
    have returned : (run idle words).run session = (.finished 1 report "",
        (Run.on (directoriesDiff Grammar.treeOf options) session).2) := by
      rw [run_of_asks read asked, done, ← written]
      rfl
    obtain ⟨verdict, _, clean, _, nothing, differs, _⟩ :=
      code_agrees_with_report idle Grammar.treeOf words command format _
        session _ 1 report "" read asked returned
    refine ⟨read, ⟨_, returned⟩, done, verdict, (differs node done).1, ?_, ?_⟩
    · rw [Ne, nothing, done]
      simp
    · exact fun answers => one_ne_zero (clean.mpr answers)
  exact ⟨general _ _ _ rfl rfl, general _ _ _ rfl (by cbv)⟩

end CommandLine

end SymbolDiff
