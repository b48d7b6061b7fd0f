import SymbolDiff.Generator.Basic

/-!
# The plan of a run

Settings stand for a sequence of planned comparisons: for every language, every
specification in turn.  Both generations of a comparison get directories of
their own next to each other.
-/

namespace SymbolDiff.Comparison

/-- The directory of the old generation. -/
def oldDirectory : String := "old"

/-- The directory of the new generation. -/
def newDirectory : String := "new"

/-- One comparison that is to be made. -/
structure Planned where
  language : LanguageSettings
  spec : String
  old : Request
  new : Request
  deriving DecidableEq, Repr

/-- The comparison for one language and one specification. -/
def planSpec (settings : Settings) (language : LanguageSettings)
    (specs : SpecSettings) (spec : String) : Planned :=
  let base := language.output.join (specs.outputSubpath spec)
  let request (directory : String) (arguments : List String) : Request :=
    { spec := specs.file spec, output := base.child directory,
      command := settings.generator,
      language := language.language.word, arguments := arguments }
  { language := language, spec := spec,
    old := request oldDirectory language.oldArguments,
    new := request newDirectory language.newArguments }

/-- All comparisons that settings stand for, in order. -/
def plan (settings : Settings) : List Planned :=
  settings.languages.flatMap fun language =>
    settings.specs.flatMap fun specs =>
      specs.paths.map (planSpec settings language specs)

end SymbolDiff.Comparison
