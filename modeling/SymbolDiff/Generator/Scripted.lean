import SymbolDiff.Generator.Basic
import SymbolDiff.Text.Quoted

/-!
# Scripted generators

A generator that follows a script: the first rule that fits the command line
says what is written and how the program ends.  It serves to rehearse runs
without a real generator.
-/

namespace SymbolDiff

/-- Something that is put at a path. -/
inductive Deposit where
  | entry (entry : Entry)
  | directory

/-- Puts something at a path. -/
def FileSystem.deposit (system : FileSystem) (path : Path) :
    Deposit → FileSystem
  | .entry entry => system.put path entry
  | .directory => system.makeDirectory path

/-- Puts things below a directory, one after the other. -/
def FileSystem.depositAll (system : FileSystem) (base : Path)
    (deposits : List (String × Deposit)) : FileSystem :=
  deposits.foldl
    (fun current item => current.deposit (base.child item.1) item.2) system

/-- One rule of a script. -/
structure Rule where
  /-- The output folder for which the rule is meant. -/
  folder : Option String := none
  /-- A word of the command line for which the rule is meant. -/
  word : Option String := none
  cannotStart : Bool := false
  /-- What is written into the folder; without it the folder is not touched. -/
  deposits : Option (List (String × Deposit)) := none
  exitCode : Int := 0
  output : String := ""
  errors : String := ""

/-- The mark before the output folder in a word of a command line. -/
def folderMark : List Char := ".output-folder=".toList

/-- Whether some characters stand somewhere in others. -/
def occursIn (part : List Char) : List Char → Bool
  | [] => part.isEmpty
  | c :: rest => part.isPrefixOf (c :: rest) || occursIn part rest

/-- The output folder that a command line names. -/
def folderOf (command : List String) : String :=
  match command.find? fun word => occursIn folderMark word.toList with
  | some word => String.ofList ((word.toList.dropWhile (· ≠ '=')).drop 1)
  | none => ""

/-- A folder as seen from a directory that encloses it. -/
def seenFrom (base folder : String) : String :=
  let leading := (base ++ "/").toList
  if leading.isPrefixOf folder.toList then
    String.ofList (folder.toList.drop leading.length)
  else folder

/-- Whether a rule is meant for a command line. -/
def Rule.fits (base : String) (command : List String) (rule : Rule) : Bool :=
  rule.folder.all (· = seenFrom base (folderOf command)) &&
    rule.word.all command.contains

/-- Why a program of a name cannot be started. -/
def noSuchProgram (name : String) : String :=
  "[Errno 2] No such file or directory: " ++ Text.quoted name

/-- What a rule does. -/
def Rule.process (command : List String) (rule : Rule) : Process Ending :=
  if rule.cannotStart then
    .done (.notStarted (noSuchProgram (command.headD "")))
  else
    let ending : Process Ending :=
      .done (.exited rule.exitCode rule.output rule.errors)
    match rule.deposits with
    | none => ending
    | some deposits =>
      let folder := Path.ofString (folderOf command)
      Process.act
        (fun system => (system.makeDirectory folder).depositAll folder deposits)
        ending

/-- The generator that follows a script; where no rule fits it does nothing and
succeeds. -/
def Generator.scripted (base : String) (rules : List Rule) : Generator :=
  fun command =>
  match rules.find? fun rule => rule.fits base command with
  | some rule => rule.process command
  | none => .done (.exited 0 "" "")

end SymbolDiff
