import SymbolDiff.Settings.Basic

/-!
# What is said about unusable settings

The texts by which a fault of the settings is reported.  Problems of loosely
typed settings are counted in the first line and listed after it.
-/

namespace SymbolDiff.Settings

/-- The steps to a place, with dots between them. -/
def placeText (location : List Place) : String :=
  ".".intercalate (location.map Place.text)

/-- How many problems there are and, line by line, what they are. -/
def problemsText (problems : List Problem) : String :=
  let count := toString problems.length ++
    (if problems.length = 1 then " validation error"
      else " validation errors") ++
    " for RunConfiguration"
  let lines := (Problem.inOrder problems).map fun problem =>
    placeText problem.location ++ "\n  " ++ problem.defect.message ++
      " [type=" ++ problem.defect.code ++ "]"
  "\n".intercalate (count :: lines)

def Fault.message : Fault → String
  | .noLanguage =>
    "Missing language parameter. Please use one of: " ++
      ", ".intercalate (Language.all.map Language.word)
  | .noSpec => "A spec path must be provided with the --spec-path parameter."
  | .noOutput =>
    "An output path must be provided with the --output-path parameter."
  | .languageNotSet language =>
    "No configuration for language '" ++ language ++ "'"
  | .missingFile path => "Configuration file does not exist: " ++ path.toText
  | .malformedFile path =>
    "Invalid TOML in " ++ path.toText ++ ": not a valid document"
  | .invalid none problems => "Invalid configuration: " ++ problemsText problems
  | .invalid (some path) problems =>
    "Invalid config in " ++ path.toText ++ ": " ++ problemsText problems
  | .missingOutput path =>
    "Existing output directory does not exist: " ++ path.toText
  | .besideFile given =>
    ", ".intercalate given ++ " cannot be combined with --config"

end SymbolDiff.Settings
