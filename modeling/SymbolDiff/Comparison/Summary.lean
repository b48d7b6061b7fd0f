import SymbolDiff.Report.Node
import SymbolDiff.Settings.Basic

/-!
# The summary of a run

The differences found for single specifications are gathered under their
specification, their language and one common heading.  Languages stand in the
order in which they were first met.
-/

namespace SymbolDiff.Comparison

/-- What was found for one language and one specification. -/
structure SpecResult where
  language : Language
  spec : String
  diff : Option Node
  deriving Repr

/-- The heading over all differences. -/
def label : String := "Comparison Results"

/-- The differences of one specification under its path. -/
def specNode (result : SpecResult) : Option Node :=
  Node.gather result.spec .outline [result.diff]

/-- What was found for the languages that were met, in the order in which they
were first met. -/
abbrev Groups := List (Language × List (Option Node))

namespace Groups

/-- Adds an entry to those of a language; one that was not met before comes
last. -/
def enter (language : Language) (entry : Option Node) : Groups → Groups
  | [] => [(language, [entry])]
  | (other, entries) :: rest =>
    if other = language then (other, entries ++ [entry]) :: rest
    else (other, entries) :: enter language entry rest

/-- Adds what was found for one specification. -/
def add (groups : Groups) (result : SpecResult) : Groups :=
  groups.enter result.language (specNode result)

end Groups

/-- The differences of one language under its name. -/
def languageNode (group : Language × List (Option Node)) : Option Node :=
  Node.gather group.1.word .outline group.2

/-- All differences under one heading. -/
def summary (results : List SpecResult) : Option Node :=
  Node.gather label .outline ((results.foldl Groups.add []).map languageNode)

end SymbolDiff.Comparison
