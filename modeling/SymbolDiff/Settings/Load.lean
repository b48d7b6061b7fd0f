import SymbolDiff.Failure
import SymbolDiff.Settings.Record
import SymbolDiff.Toml.Document

/-!
# Settings for a run

Settings come from loosely typed data or from a settings file.  The paths in a
file are seen from the directory that really holds it.
-/

namespace SymbolDiff.Settings

/-- A path with the home directory in place of a leading `~`. -/
def expand (system : FileSystem) (path : Path) : Except Failure Path :=
  match path.expandHome system.home with
  | .ok expanded => .ok expanded
  | .error fault =>
    if fault.user.toList.contains Path.nul then .error (.path (.holdsNul path))
    else .error (.path (.unknownHome fault.user))

/-- A path without links and `..`. -/
def resolve (system : FileSystem) (path : Path) : Except Failure Path :=
  match system.resolve path with
  | .ok resolved => .ok resolved
  | .error _ => .error (.path (.linkLoop path))

/-- A path that someone has written, without links and `..`; it may be one that
no file can have. -/
def resolveWritten (system : FileSystem) (path : Path) : Except Failure Path :=
  if path.holdsNul then .error (.path (.holdsNul path)) else resolve system path

/-- A path as seen from a directory, without links and `..`. -/
def resolveFrom (system : FileSystem) (base path : Path) :
    Except Failure Path := do
  let expanded ← expand system path
  resolveWritten system (base.join expanded)

def resolveSpec (system : FileSystem) (base : Path) (spec : SpecSettings) :
    Except Failure SpecSettings :=
  match spec.root with
  | none => .ok spec
  | some root => do
    let resolved ← resolveFrom system base root
    return { spec with root := some resolved }

def resolveLanguage (system : FileSystem) (base : Path)
    (entry : LanguageSettings) : Except Failure LanguageSettings := do
  let resolved ← resolveFrom system base entry.output
  return { entry with output := resolved }

/-- The settings with all their paths seen from a directory. -/
def resolvePaths (system : FileSystem) (base : Path) (settings : Settings) :
    Except Failure Settings := do
  let specs ← settings.specs.mapM (resolveSpec system base)
  let languages ← settings.languages.mapM (resolveLanguage system base)
  return { settings with specs := specs, languages := languages }

/-- A fault of the settings as a failure of the run. -/
def orFail {α : Type} (result : Except Fault α) : Except Failure α :=
  match result with
  | .ok value => .ok value
  | .error fault => .error (.settings fault)

/-- Settings that were read, or the fault that they are not of the right
shape. -/
def ofChecked (file : Option Path) (settings : Checked Settings) :
    Except Failure Settings :=
  match settings with
  | .valid value => .ok value
  | .invalid problems => .error (.settings (.invalid file problems))

/-- Settings for a run from loosely typed data. -/
def build (data : Data) : Except Failure Settings := do
  let settings ← ofChecked none (Settings.ofData data)
  orFail settings.ready

/-- A settings file from which no data could be read.  Only a text that is not
in the format is a fault of the settings. -/
def unread (path : Path) : Toml.Fault → Failure
  | .malformed => .settings (.malformedFile path)
  | .longNumber => .path (.longNumber path)
  | .deepNesting => .path (.deepNesting path)

/-- Settings for a run from a settings file. -/
def load (system : FileSystem) (path : Path) : Except Failure Settings :=
  match system.stat? path with
  | some (.file content) =>
    match String.fromUTF8? content with
    | none => .error (.settingsNotText path)
    | some source =>
      match Toml.read system.stack source with
      | .error fault => .error (unread path fault)
      | .ok data => do
        let settings ← ofChecked (some path) (Settings.ofData data)
        let resolved ← resolve system path
        let settings ← resolvePaths system resolved.parent settings
        orFail settings.ready
  | _ => .error (.settings (.missingFile path))

end SymbolDiff.Settings
