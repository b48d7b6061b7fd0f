import Mathlib.Logic.Relation
import SymbolDiff.Generator.Basic
import SymbolDiff.Proofs.FileSystem.Change

/-!
# Two generations at the same time

The old and the new generation act on one file system, step by step and in any
order.  Their caller waits for the old one, then for the new one, and only then
ends.  When each of them keeps to its own place and takes no notice of the
other's, both come to the results that they have alone, however their steps are
mixed.
-/

namespace SymbolDiff

open FileSystem

namespace Process

variable {α β : Type} {own other : List String} {alone system later : FileSystem}

/-- On its way from a file system that a process has for itself, it changes
nothing but its own place, and it goes on and acts in the same way whatever
stands at the other place. -/
def Confined (own other : List String) : Process α → FileSystem → Prop
  | .done _, _ => True
  | .step act next, alone =>
      (∀ system, ChangedAt other alone system →
        ChangedAt own system (act system) ∧
          ChangedAt other (act alone) (act system) ∧ next system = next alone) ∧
      (next alone).Confined own other (act alone)

theorem Confined.run {process : Process α}
    (confined : process.Confined own other alone)
    (differs : ChangedAt other alone system) :
    (process.run system).1 = (process.run alone).1 ∧
      ChangedAt own system (process.run system).2 := by
  induction process generalizing alone system with
  | done result => exact ⟨rfl, .refl system⟩
  | step act next induction =>
      obtain ⟨here, onward⟩ := confined
      obtain ⟨within, alike, same⟩ := here system differs
      rw [run_step, run_step, same]
      obtain ⟨outcome, kept⟩ := induction alone onward alike
      exact ⟨outcome, within.trans kept⟩

theorem Confined.andThen {process : Process α} {next : α → Process β}
    (confined : process.Confined own other alone)
    (onward : (next (process.run alone).1).Confined own other
      (process.run alone).2) :
    (process.andThen next).Confined own other alone := by
  induction process generalizing alone with
  | done result => exact onward
  | step act following induction =>
      obtain ⟨here, rest⟩ := confined
      refine ⟨?_, induction alone rest onward⟩
      intro system differs
      obtain ⟨within, alike, same⟩ := here system differs
      exact ⟨within, alike, congrArg (Process.andThen next) same⟩

theorem confined_look {view : FileSystem → β} {next : β → Process α}
    (same : ∀ system, ChangedAt other alone system → view system = view alone)
    (onward : (next (view alone)).Confined own other alone) :
    (Process.look view next).Confined own other alone := by
  refine ⟨?_, onward⟩
  intro system differs
  exact ⟨.refl system, differs, congrArg next (same system differs)⟩

/-- A process on its way to the result that it has alone. -/
def OnCourse (own other : List String) (process : Process α) (system : FileSystem)
    (result : α) : Prop :=
  ∃ alone, ChangedAt other alone system ∧ process.Confined own other alone ∧
    (process.run alone).1 = result

theorem OnCourse.eq_of_done {reached result : α}
    (onCourse : OnCourse own other (.done reached) system result) :
    reached = result := by
  obtain ⟨_, _, _, same⟩ := onCourse
  exact same

theorem OnCourse.step {act : FileSystem → FileSystem}
    {next : FileSystem → Process α} {result : α}
    (onCourse : OnCourse own other (.step act next) system result) :
    OnCourse own other (next system) (act system) result ∧
      ChangedAt own system (act system) := by
  obtain ⟨alone, differs, ⟨here, onward⟩, same⟩ := onCourse
  obtain ⟨within, alike, follows⟩ := here system differs
  refine ⟨⟨act alone, alike, ?_, ?_⟩, within⟩
  · rwa [follows]
  · rw [follows, ← same, run_step]

/-- What happens at the other place does not put a process off its course. -/
theorem OnCourse.elsewhere {process : Process α} {result : α}
    (onCourse : OnCourse own other process system result)
    (changed : ChangedAt other system later) :
    OnCourse own other process later result := by
  obtain ⟨alone, differs, confined, same⟩ := onCourse
  exact ⟨alone, differs.trans changed, confined, same⟩

end Process

/-- What the caller of two generations does. -/
inductive Caller where
  | awaitsOld
  | awaitsNew (old : Except Failure Output)
  | ended (outcome : Except Failure (Output × Output))

/-- Both results, the old one first; the failure of the old one comes first as
well. -/
def bothOf (old new : Except Failure Output) :
    Except Failure (Output × Output) := do
  let oldOutput ← old
  let newOutput ← new
  return (oldOutput, newOutput)

/-- Two generations on one file system and what is left for each to do. -/
structure Concurrent where
  system : FileSystem
  old : Process (Except Failure Output)
  new : Process (Except Failure Output)
  caller : Caller

namespace Concurrent

/-- Both generations are about to start. -/
def start (system : FileSystem) (old new : Process (Except Failure Output)) :
    Concurrent :=
  ⟨system, old, new, .awaitsOld⟩

/-- Either generation makes a step, or the caller learns of an end. -/
inductive Step : Concurrent → Concurrent → Prop where
  | old {act : FileSystem → FileSystem}
      {next : FileSystem → Process (Except Failure Output)}
      {new : Process (Except Failure Output)} {caller : Caller}
      (system : FileSystem) :
      Step ⟨system, .step act next, new, caller⟩
        ⟨act system, next system, new, caller⟩
  | new {act : FileSystem → FileSystem}
      {next : FileSystem → Process (Except Failure Output)}
      {old : Process (Except Failure Output)} {caller : Caller}
      (system : FileSystem) :
      Step ⟨system, old, .step act next, caller⟩
        ⟨act system, old, next system, caller⟩
  | oldSeen {new : Process (Except Failure Output)}
      {result : Except Failure Output}
      (system : FileSystem) :
      Step ⟨system, .done result, new, .awaitsOld⟩
        ⟨system, .done result, new, .awaitsNew result⟩
  | newSeen {old : Process (Except Failure Output)}
      {first result : Except Failure Output} (system : FileSystem) :
      Step ⟨system, old, .done result, .awaitsNew first⟩
        ⟨system, old, .done result, .ended (bothOf first result)⟩

/-- The states to which steps lead. -/
def Reaches : Concurrent → Concurrent → Prop :=
  Relation.ReflTransGen Step

/-- From here the steps come to an end. -/
def Ends (state : Concurrent) : Prop :=
  Acc (fun later earlier => Step earlier later) state

theorem ends_of_sides {old new : Process (Except Failure Output)}
    (oldEnds : ∀ act next, old = .step act next → ∀ system caller,
      Ends ⟨act system, next system, new, caller⟩)
    (newEnds : ∀ act next, new = .step act next → ∀ system caller,
      Ends ⟨act system, old, next system, caller⟩)
    (system : FileSystem) (caller : Caller) :
    Ends ⟨system, old, new, caller⟩ := by
  -- while neither side moves the caller moves on twice at most
  have ended : ∀ outcome, Ends ⟨system, old, new, .ended outcome⟩ := by
    intro outcome
    constructor
    intro later step
    cases step with
    | old => exact oldEnds _ _ rfl _ _
    | new => exact newEnds _ _ rfl _ _
  have awaitsNew : ∀ first, Ends ⟨system, old, new, .awaitsNew first⟩ := by
    intro first
    constructor
    intro later step
    cases step with
    | old => exact oldEnds _ _ rfl _ _
    | new => exact newEnds _ _ rfl _ _
    | newSeen => exact ended _
  cases caller with
  | ended outcome => exact ended outcome
  | awaitsNew first => exact awaitsNew first
  | awaitsOld =>
      constructor
      intro later step
      cases step with
      | old => exact oldEnds _ _ rfl _ _
      | new => exact newEnds _ _ rfl _ _
      | oldSeen => exact awaitsNew _

theorem ends_of_old {old : Process (Except Failure Output)}
    (oldEnds : ∀ act next, old = .step act next → ∀ system new caller,
      Ends ⟨act system, next system, new, caller⟩)
    (new : Process (Except Failure Output)) (system : FileSystem)
    (caller : Caller) :
    Ends ⟨system, old, new, caller⟩ := by
  induction new generalizing system caller with
  | done result =>
      apply ends_of_sides
      · intro act next same system caller
        exact oldEnds act next same system _ caller
      · intro _ _ same
        cases same
  | step act next newEnds =>
      apply ends_of_sides
      · intro act next same system caller
        exact oldEnds act next same system _ caller
      · intro _ _ same system caller
        cases same
        exact newEnds system _ caller

/-- Processes make finitely many steps, so that every order of them ends. -/
theorem ends (old new : Process (Except Failure Output)) (system : FileSystem)
    (caller : Caller) : Ends ⟨system, old, new, caller⟩ := by
  induction old generalizing new system caller with
  | done result =>
      apply ends_of_old
      intro _ _ same
      cases same
  | step act next oldEnds =>
      apply ends_of_old
      intro _ _ same system new caller
      cases same
      exact oldEnds system new _ caller

/-- As long as the caller has not ended there is a step to make. -/
theorem ended_or_step (state : Concurrent) :
    (∃ outcome, state.caller = .ended outcome) ∨ ∃ later, Step state later := by
  obtain ⟨system, old, new, caller⟩ := state
  cases old with
  | step act next => exact .inr ⟨_, .old system⟩
  | done oldResult =>
      cases new with
      | step act next => exact .inr ⟨_, .new system⟩
      | done newResult =>
          cases caller with
          | awaitsOld => exact .inr ⟨_, .oldSeen system⟩
          | awaitsNew first => exact .inr ⟨_, .newSeen system⟩
          | ended outcome => exact .inl ⟨outcome, rfl⟩

/-- What the caller knows is true, and it ends after both generations. -/
def Informed (oldResult newResult : Except Failure Output) (state : Concurrent) :
    Prop :=
  match state.caller with
  | .awaitsOld => True
  | .awaitsNew first => first = oldResult ∧ state.old = .done oldResult
  | .ended outcome =>
      outcome = bothOf oldResult newResult ∧ state.old = .done oldResult ∧
        state.new = .done newResult

/-- Both generations are on their courses, and the caller is informed. -/
structure Sound (oldPlace newPlace : List String)
    (oldResult newResult : Except Failure Output) (state : Concurrent) :
    Prop where
  old : Process.OnCourse oldPlace newPlace state.old state.system oldResult
  new : Process.OnCourse newPlace oldPlace state.new state.system newResult
  informed : Informed oldResult newResult state

theorem Sound.step {oldPlace newPlace : List String}
    {oldResult newResult : Except Failure Output} {state later : Concurrent}
    (sound : Sound oldPlace newPlace oldResult newResult state)
    (step : Step state later) :
    Sound oldPlace newPlace oldResult newResult later := by
  obtain ⟨old, new, informed⟩ := sound
  cases step with
  | @old act next _ caller system =>
      obtain ⟨onward, changed⟩ := old.step
      refine ⟨onward, new.elsewhere changed, ?_⟩
      -- a caller that has the old result has seen the old side end
      cases caller with
      | awaitsOld => trivial
      | awaitsNew first => cases informed.2
      | ended outcome => cases informed.2.1
  | @new act next _ caller system =>
      obtain ⟨onward, changed⟩ := new.step
      refine ⟨old.elsewhere changed, onward, ?_⟩
      cases caller with
      | awaitsOld => trivial
      | awaitsNew first => exact informed
      | ended outcome => cases informed.2.2
  | oldSeen system =>
      have same := old.eq_of_done
      exact ⟨old, new, same, congrArg _ same⟩
  | newSeen system =>
      have same := new.eq_of_done
      obtain ⟨first, done⟩ := informed
      refine ⟨old, new, ?_, done, congrArg _ same⟩
      rw [first, same]

theorem Sound.reaches {oldPlace newPlace : List String}
    {oldResult newResult : Except Failure Output} {state later : Concurrent}
    (sound : Sound oldPlace newPlace oldResult newResult state)
    (reaches : Reaches state later) :
    Sound oldPlace newPlace oldResult newResult later := by
  induction reaches with
  | refl => exact sound
  | tail _ step induction => exact induction.step step

end Concurrent

end SymbolDiff
