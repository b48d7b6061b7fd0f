import SymbolDiff.CommandLine.Command
import SymbolDiff.Comparison.Run
import SymbolDiff.Report.Json
import SymbolDiff.Report.Text
import SymbolDiff.Settings.Load

/-!
# Carrying commands out

A command ends with an exit code, a report and messages.  The report is written
only once the work is done, so a failure leaves none.  Failures that are not
meant to be reported break the program.
-/

namespace SymbolDiff.CommandLine

open Comparison

/-- How a command line came to its end. -/
inductive Outcome where
  /-- The command line was not understood, or only asked for help. -/
  | halted (halt : Halt)
  | finished (exitCode : Nat) (report messages : String)
  | broken (failure : Failure)

/-- What is said when nothing differs. -/
def noDifferences : String := "No differences found.\n"

/-- The report on a comparison. -/
def report (format : Format) (diff : Option Node) : String :=
  match format, diff with
  | .json, _ => Node.json diff
  | .text, none => noDifferences
  | .text, some node => node.text

/-- The settings that are given on the command line itself. -/
def inlineSettings (options : CompareOptions) (parts : Segments)
    (language : Language) (output : String) : Settings :=
  { debug := options.debug
    generator := (options.generator.map Text.words).getD defaultGenerator
    specs :=
      [{ root := options.specRoot.map Path.ofString, paths := options.specs }]
    languages :=
      [{ language := language, output := .ofString output,
         oldArguments := parts.old,
         newArguments := parts.new, reuse := options.reuse.getD .nothing }] }

/-- Settings for a run from the command line itself. -/
def settingsFromOptions (system : FileSystem) (options : CompareOptions)
    (parts : Segments) : Except Failure Settings :=
  match options.language, options.output with
  | none, _ => .error (.settings .noLanguage)
  | some _, none => .error (.settings .noOutput)
  | some language, some output => do
    let settings ←
      Settings.orFail (inlineSettings options parts language output).ready
    settings.resolvePaths system system.working

/-- Settings for a run from a file, for one language if one is chosen. -/
def settingsFromFile (system : FileSystem) (file : String)
    (language : Option Language) (debug : Bool) : Except Failure Settings := do
  let path ← Settings.expand system (.ofString file)
  let settings ← Settings.load system path
  let settings ← match language with
    | none => .ok settings
    | some chosen => Settings.orFail (settings.forLanguage chosen.word)
  if debug && !settings.debug then
    return Settings.withDebugArguments { settings with debug := true }
  else return settings

/-- A text that is there and not empty. -/
def isGiven (text : Option String) : Bool :=
  text.any fun value => !value.isEmpty

/-- The settings on the command line that a settings file already provides. -/
def besideFile (options : CompareOptions) (parts : Segments) : List String :=
  [(!options.specs.isEmpty, "--spec-path"),
    (isGiven options.specRoot, "--spec-root-path"),
    (isGiven options.output, "--output-path"),
    (options.reuse.isSome, "--use-existing-output"),
    (isGiven options.generator, "--generator"),
    (!(parts.old.isEmpty && parts.new.isEmpty), marks)].filterMap fun entry =>
      if entry.1 then some entry.2 else none

/-- Settings for `compare`: from a file or from the command line, not from
both. -/
def compareSettings (system : FileSystem) (options : CompareOptions)
    (parts : Segments) : Except Failure Settings :=
  match options.settingsFile with
  | none => settingsFromOptions system options parts
  | some file =>
    match besideFile options parts with
    | [] => settingsFromFile system file options.language options.debug
    | given => .error (.settings (.besideFile given))

/-- What a finished command has to show. -/
structure Shown where
  exitCode : Nat
  report : String := ""
  messages : String := ""

/-- Carries out `compare`. -/
def runCompare (generator : Generator) (parse : Grammar.Parser)
    (options : CompareOptions) (parts : Segments) : Run Shown := do
  let settings ← Run.look fun system => compareSettings system options parts
  let result ← Comparison.run generator settings parse
  return { exitCode := result.exitCode,
           report := report options.format result.diff }

/-- Carries out `baseline`. -/
def runBaseline (generator : Generator) (options : BaselineOptions) :
    Run Shown := do
  let settings ← Run.look fun system =>
    settingsFromFile system options.settingsFile options.language options.debug
  let outputs ← generateBaseline generator settings
  let lines :=
    outputs.map fun output => "baseline: " ++ output.directory.toText ++ "\n"
  return { exitCode := 0, messages := "".intercalate lines }

/-- A directory that is named on the command line. -/
def directoryOf (system : FileSystem) (text : String) :
    Except Failure Path := do
  let expanded ← Settings.expand system (.ofString text)
  Settings.resolveWritten system expanded

/-- Carries out `diff`. -/
def runDiff (parse : Grammar.Parser) (options : DiffOptions) : Run Shown := do
  let old ← Run.look fun system => directoryOf system options.old
  let new ← Run.look fun system => directoryOf system options.new
  let diff ←
    Run.attempt fun system => Output.compareDirectories system old new parse
  return { exitCode := if diff.isNone then 0 else 1,
           report := report options.format diff }

/-- Carries a command out. -/
def Command.run (generator : Generator) (parse : Grammar.Parser)
    (parts : Segments) : Command → Run Shown
  | .compare options => runCompare generator parse options parts
  | .baseline options => runBaseline generator options
  | .diff options => runDiff parse options

/-- The end of a command: a failure that is reported gives the exit code one
and no report. -/
def Outcome.ofResult : Except Failure Shown → Outcome
  | .ok shown => .finished shown.exitCode shown.report shown.messages
  | .error failure =>
    match failure.report? with
    | some text => .finished 1 "" ("error: " ++ text ++ "\n")
    | none => .broken failure

/-- Carries a command line out. -/
def run (generator : Generator) (words : List String)
    (parse : Grammar.Parser := Grammar.treeOf) : StateM Session Outcome :=
  match Command.read words with
  | .error halt => pure (.halted halt)
  | .ok (command, parts) => do
    let result ← (command.run generator parse parts).run
    return Outcome.ofResult result

end SymbolDiff.CommandLine
