import SymbolDiff.Extract.Fault
import SymbolDiff.Listing
import SymbolDiff.Settings.Fault

/-!
# Failures

Everything that can end a run before it has a result.  Faults of the settings,
of the generator and of extraction are reported to whoever started the run; the
others are breakdowns of the surroundings.
-/

namespace SymbolDiff

/-- A generator that did not do its work. -/
structure GeneratorFault where
  command : List String
  exitCode : Int
  output : String
  deriving DecidableEq, Repr

def GeneratorFault.message (fault : GeneratorFault) : String :=
  fault.command.headD "" ++ " exited with non-zero code " ++
    toString fault.exitCode ++ ":\n\n" ++ fault.output

/-- Why a path leads to nothing that can be used. -/
inductive PathFault where
  | unknownHome (user : String)
  | linkLoop (path : Path)
  /-- The path is one that no file can have. -/
  | holdsNul (path : Path)
  /-- The settings file at the path holds a number of too many digits. -/
  | longNumber (path : Path)
  /-- The settings file at the path holds values that are nested too deeply. -/
  | deepNesting (path : Path)
  deriving DecidableEq, Repr

/-- Why a run ended without a result. -/
inductive Failure where
  | settings (fault : Settings.Fault)
  | generator (fault : GeneratorFault)
  | extraction (fault : Extract.Fault)
  | listing (fault : Listing.Fault)
  | reading (fault : FileSystem.ReadFault)
  | path (fault : PathFault)
  /-- A settings file whose bytes are no text. -/
  | settingsNotText (path : Path)
  deriving DecidableEq, Repr

/-- The text of a failure that is reported; a breakdown has none. -/
def Failure.report? : Failure → Option String
  | .settings fault => some fault.message
  | .generator fault => some fault.message
  | .extraction fault => some fault.text
  | .listing _ => none
  | .reading _ => none
  | .path _ => none
  | .settingsNotText _ => none

end SymbolDiff
