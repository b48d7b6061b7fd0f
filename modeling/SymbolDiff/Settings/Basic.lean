import SymbolDiff.Data.Problem
import SymbolDiff.Path

/-!
# Settings of a run

Settings name the specifications to generate from and, for each target
language, where the output goes, which arguments the old and the new generation
get and whether earlier output is reused.  A run needs at least one language
and one specification; `Settings.checked` is where this is decided.
-/

namespace SymbolDiff

/-- The languages for which code can be generated. -/
inductive Language where
  | typescript
  | python
  | java
  | csharp
  | powershell
  | go
  deriving DecidableEq, Repr

/-- All languages, in the order in which they are offered. -/
def Language.all : List Language :=
  [.typescript, .python, .java, .csharp, .powershell, .go]

def Language.word : Language → String
  | .typescript => "typescript"
  | .python => "python"
  | .java => "java"
  | .csharp => "csharp"
  | .powershell => "powershell"
  | .go => "go"

/-- Which sides of a comparison are taken from earlier output. -/
inductive Reuse where
  | nothing
  | old
  | both
  deriving DecidableEq, Repr

/-- All ways of reuse, in the order in which they are offered. -/
def Reuse.all : List Reuse :=
  [.nothing, .old, .both]

def Reuse.word : Reuse → String
  | .nothing => "none"
  | .old => "old"
  | .both => "all"

/-- The specifications to generate from, with the directory that holds them. -/
structure SpecSettings where
  root : Option Path := none
  paths : List String := []
  deriving DecidableEq, Repr

/-- What is generated for one language. -/
structure LanguageSettings where
  language : Language
  output : Path
  oldArguments : List String := []
  newArguments : List String := []
  reuse : Reuse := .nothing
  deriving DecidableEq, Repr

/-- The command that is used when no other is set. -/
def defaultGenerator : List String := ["autorest"]

/-- Everything that a run needs to know. -/
structure Settings where
  debug : Bool := false
  generator : List String := defaultGenerator
  specs : List SpecSettings := []
  languages : List LanguageSettings := []
  deriving DecidableEq, Repr

/-- Why settings cannot be used. -/
inductive Settings.Fault where
  | noLanguage
  | noSpec
  | noOutput
  | languageNotSet (language : String)
  | missingFile (path : Path)
  | malformedFile (path : Path)
  | invalid (file : Option Path) (problems : List Problem)
  | missingOutput (path : Path)
  | besideFile (given : List String)
  deriving DecidableEq, Repr

/-- The file of a specification. -/
def SpecSettings.file (spec : SpecSettings) (path : String) : Path :=
  match spec.root with
  | none => .ofString path
  | some root => root.join (.ofString path)

/-- Where the output for a specification goes, below the directory of its
language.  With a root the place of the specification below it is kept;
otherwise its name alone decides. -/
def SpecSettings.outputSubpath (spec : SpecSettings) (path : String) : Path :=
  let written := Path.ofString path
  if spec.root.isNone || written.isAbsolute then .ofString written.stem
  else written.parent.child written.stem

/-- The argument that makes a generator explain itself. -/
def debugArgument : String := "--debug"

/-- Asks both generations of a language to explain themselves. -/
def LanguageSettings.debugged (entry : LanguageSettings) : LanguageSettings :=
  { entry with
    oldArguments := entry.oldArguments ++ [debugArgument]
    newArguments := entry.newArguments ++ [debugArgument] }

namespace Settings

/-- The settings for the entries of one language alone. -/
def forLanguage (settings : Settings) (language : String) :
    Except Fault Settings :=
  match settings.languages.filter fun entry =>
      entry.language.word = language with
  | [] => .error (.languageNotSet language)
  | selected => .ok { settings with languages := selected }

/-- Passes debugging on to every generation, when it is set. -/
def withDebugArguments (settings : Settings) : Settings :=
  if settings.debug then
    { settings with
      languages := settings.languages.map LanguageSettings.debugged }
  else settings

/-- Settings that name a language and a specification. -/
def checked (settings : Settings) : Except Fault Settings :=
  if settings.languages.isEmpty then .error .noLanguage
  else if settings.specs.all fun spec => spec.paths.isEmpty then .error .noSpec
  else .ok settings

/-- Settings that are ready for a run. -/
def ready (settings : Settings) : Except Fault Settings :=
  settings.checked.map withDebugArguments

end Settings

end SymbolDiff
