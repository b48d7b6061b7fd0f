import SymbolDiff.CommandLine.Option
import SymbolDiff.CommandLine.Segment
import SymbolDiff.Settings.Basic

/-!
# The commands of the program

There are three commands: `compare` generates and compares, `baseline`
generates the old side alone and `diff` compares two directories.  The name of
the command comes first; each has a form of its own, and words that no form
knows are faults of the program as a whole.
-/

namespace SymbolDiff.CommandLine

/-- The name under which the program is started. -/
def programName : String := "codegen-compare"

/-- How a report is written. -/
inductive Format where
  | text
  | json
  deriving DecidableEq, Repr

/-- What is asked of `compare`. -/
structure CompareOptions where
  settingsFile : Option String := none
  language : Option Language := none
  specs : List String := []
  specRoot : Option String := none
  output : Option String := none
  reuse : Option Reuse := none
  generator : Option String := none
  format : Format := .text
  debug : Bool := false
  deriving DecidableEq, Repr

/-- What is asked of `baseline`. -/
structure BaselineOptions where
  settingsFile : String
  language : Option Language := none
  debug : Bool := false
  deriving DecidableEq, Repr

/-- What is asked of `diff`. -/
structure DiffOptions where
  old : String
  new : String
  format : Format := .text
  deriving DecidableEq, Repr

/-- A command with what is asked of it. -/
inductive Command where
  | compare (options : CompareOptions)
  | baseline (options : BaselineOptions)
  | diff (options : DiffOptions)
  deriving DecidableEq, Repr

def languageSwitch : Switch :=
  { names := ["--language"], choices := some (Language.all.map Language.word) }

def formatSwitch : Switch :=
  { names := ["--format"], choices := some ["text", "json"] }

def debugSwitch : Switch :=
  { names := ["--debug"], takesValue := false }

def compareForm : Form where
  program := programName ++ " compare"
  switches :=
    [helpSwitch, { names := ["--config"] }, languageSwitch,
      { names := ["--spec-path"] },
      { names := ["--spec-root-path"] }, { names := ["--output-path"] },
      { names := ["--use-existing-output"],
        choices := some (Reuse.all.map Reuse.word) },
      { names := ["--generator"] }, formatSwitch, debugSwitch]
  positionals := []

def baselineForm : Form where
  program := programName ++ " baseline"
  switches :=
    [helpSwitch, { names := ["--config"], isRequired := true }, languageSwitch,
      debugSwitch]
  positionals := []

def diffForm : Form where
  program := programName ++ " diff"
  switches := [helpSwitch, formatSwitch, debugSwitch]
  positionals := ["old_dir", "new_dir"]

/-- The language of a word. -/
def languageOf? (findings : Findings) : Option Language :=
  (findings.value? "--language").bind fun word =>
    Language.all.find? fun entry => entry.word = word

/-- The format that is asked for; text when none is. -/
def formatOf (findings : Findings) : Format :=
  if findings.value? "--format" = some "json" then .json else .text

def compareCommand (findings : Findings) : Command :=
  .compare
    { settingsFile := findings.value? "--config"
      language := languageOf? findings
      specs := findings.values "--spec-path"
      specRoot := findings.value? "--spec-root-path"
      output := findings.value? "--output-path"
      reuse := (findings.value? "--use-existing-output").bind fun word =>
        Reuse.all.find? fun entry => entry.word = word
      generator := findings.value? "--generator"
      format := formatOf findings
      debug := findings.uses "--debug" }

def baselineCommand (findings : Findings) : Command :=
  .baseline
    { settingsFile := (findings.value? "--config").getD ""
      language := languageOf? findings
      debug := findings.uses "--debug" }

def diffCommand (findings : Findings) : Command :=
  .diff
    { old := findings.positionals.headD ""
      new := (findings.positionals.drop 1).headD ""
      format := formatOf findings }

/-- The commands by name: the form of each and what its findings stand for. -/
def commands : List (String × Form × (Findings → Command)) :=
  [("compare", compareForm, compareCommand),
    ("baseline", baselineForm, baselineCommand),
    ("diff", diffForm, diffCommand)]

/-- The form of the program itself, before the name of a command. -/
def programForm : Form where
  program := programName
  switches := [helpSwitch]
  positionals := ["command"]

/-- Reads the words from the name of a command on. -/
def readNamed (name : String) (words : List String) :
    Except Halt (Command × List String) :=
  match commands.find? fun entry => entry.1 = name with
  | some (_, form, command) => do
    let findings ← form.read words
    return (command findings, findings.leftOver)
  | none =>
    .error (programForm.badChoice "command" (commands.map Prod.fst) name)

/-- Reads a command line up to the name of the command and then the command.  A
separator is no name of a command. -/
def readProgram (leftOver : List String) :
    List String → Except Halt (Command × List String)
  | [] => .error (programForm.requires programForm.positionals)
  | text :: rest =>
    if text = "--" then
      if rest.isEmpty then .error (programForm.requires programForm.positionals)
      else readNamed text rest
    else
      match programForm.classify text with
      | .ok (.plain name) => do
        let (command, further) ← readNamed name rest
        return (command, leftOver ++ further)
      | .ok (.option switch attached) => do
        let _ ← programForm.collect {} false [.option switch attached]
        readProgram leftOver rest
      | .ok _ => readProgram (leftOver ++ [text]) rest
      | .error misuse => .error (.misused misuse)

/-- A fault of the program as a whole. -/
def misused (reason : String) : Halt :=
  .misused ⟨programName, reason⟩

/-- Both marks, as they are named in faults. -/
def marks : String := oldMark ++ "/" ++ newMark

/-- What a command line asks for, with the arguments for the generators. -/
def Command.read (words : List String) : Except Halt (Command × Segments) := do
  let parts := segments words
  let (command, leftOver) ← readProgram [] parts.program
  if !leftOver.isEmpty then
    .error (misused ("unrecognized arguments: " ++ " ".intercalate leftOver))
  else
    match command with
    | .compare _ => return (command, parts)
    | _ =>
      if parts.old.isEmpty && parts.new.isEmpty then return (command, parts)
      else .error (misused (marks ++ " only apply to compare"))

end SymbolDiff.CommandLine
