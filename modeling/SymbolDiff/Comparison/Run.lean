import SymbolDiff.Comparison.Plan
import SymbolDiff.Comparison.Summary

/-!
# Runs

A run carries a plan out on a file system with a generator.  Earlier output
that is to be reused is looked for before anything is started.  The two
generations of one comparison do not depend on each other: both are always
carried out, and the failure of the old one is reported first.  The first
comparison that fails ends the run.
-/

namespace SymbolDiff.Comparison

/-- What a run has done so far. -/
structure Session where
  system : FileSystem
  /-- The command lines that were started, in order. -/
  started : List (List String) := []
  remarks : List Remark := []

/-- A part of a run: it may fail, and what it has done until then remains done.
-/
abbrev Run := ExceptT Failure (StateM Session)

namespace Run

/-- Fails where a result is missing. -/
def ofExcept {α : Type} (result : Except Failure α) : Run α :=
  ExceptT.mk (pure result)

/-- Looks at the file system. -/
def look {α : Type} (view : FileSystem → Except Failure α) : Run α :=
  ExceptT.mk fun session => (view session.system, session)

/-- Makes an attempt on the file system as it is, keeping its remarks. -/
def attempt {α : Type} (attempted : FileSystem → Attempt α) : Run α :=
  ExceptT.mk fun session =>
    let traced := (attempted session.system).run
    (traced.value,
      { session with remarks := session.remarks ++ traced.remarks })

end Run

/-- Starts the generator for a request and waits for its end. -/
def start (generator : Generator) (request : Request) :
    StateM Session (Except Failure Output) :=
  fun session =>
    let (outcome, system) := (request.generate generator).run session.system
    (outcome,
      { session with
        system := system, started := session.started ++ [request.commandLine] })

/-- One generation. -/
def runRequest (generator : Generator) (request : Request) : Run Output :=
  ExceptT.mk (start generator request)

/-- An old and a new generation, both of which are carried out. -/
def runPair (generator : Generator) (old new : Request) :
    Run (Output × Output) :=
  ExceptT.mk do
    let oldOutcome ← start generator old
    let newOutcome ← start generator new
    return do
      let oldOutput ← oldOutcome
      let newOutput ← newOutcome
      return (oldOutput, newOutput)

/-- The directories of earlier output that a comparison needs. -/
def Planned.reused (planned : Planned) : List Path :=
  match planned.language.reuse with
  | .nothing => []
  | .old => [planned.old.output]
  | .both => [planned.old.output, planned.new.output]

/-- All earlier output that is to be reused is there. -/
def checkReused (system : FileSystem) (runs : List Planned) :
    Except Failure Unit :=
  (runs.flatMap Planned.reused).forM (Output.require system)

/-- Both outputs of a comparison, generated or reused. -/
def outputs (generator : Generator) (planned : Planned) :
    Run (Output × Output) :=
  match planned.language.reuse with
  | .nothing => runPair generator planned.old planned.new
  | .old => do
    let old ← Run.look fun system => Output.existing system planned.old.output
    let new ← runRequest generator planned.new
    return (old, new)
  | .both => do
    let old ← Run.look fun system => Output.existing system planned.old.output
    let new ← Run.look fun system => Output.existing system planned.new.output
    return (old, new)

/-- One comparison of the plan. -/
def comparePlanned (generator : Generator) (parse : Grammar.Parser)
    (planned : Planned) : Run SpecResult := do
  let (old, new) ← outputs generator planned
  let diff ← Run.attempt fun system => Output.compare system old new parse
  return ⟨planned.language.language, planned.spec, diff⟩

/-- What a run has found. -/
structure Result where
  diff : Option Node
  specs : List SpecResult

/-- Nothing differs. -/
def Result.isClean (result : Result) : Bool :=
  result.diff.isNone

/-- The exit code that tells whether something differs. -/
def Result.exitCode (result : Result) : Nat :=
  if result.isClean then 0 else 1

/-- Generates and compares everything that the settings name. -/
def run (generator : Generator) (settings : Settings)
    (parse : Grammar.Parser := Grammar.treeOf) : Run Result := do
  let runs := plan settings
  Run.look fun system => checkReused system runs
  let specs ← runs.mapM (comparePlanned generator parse)
  return ⟨summary specs, specs⟩

/-- Generates the old side alone, to be reused later. -/
def generateBaseline (generator : Generator) (settings : Settings) :
    Run (List Output) :=
  (plan settings).mapM fun planned => runRequest generator planned.old

end SymbolDiff.Comparison
