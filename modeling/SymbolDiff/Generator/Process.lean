import SymbolDiff.FileSystem

/-!
# Processes on a file system

A process acts on a file system in steps and chooses how to go on from what it
finds there.  Between two steps other processes may act, so a process is not
one function of the file system but a tree of steps.  `run` carries a process
out without interruption.
-/

namespace SymbolDiff

/-- A process that ends with a result. -/
inductive Process (α : Type) where
  /-- The process has ended. -/
  | done (result : α)
  /-- One step: the file system is changed, and what it was before decides how
  to go on. -/
  | step (act : FileSystem → FileSystem) (next : FileSystem → Process α)

namespace Process

variable {α β : Type}

/-- A step that only looks. -/
def look (view : FileSystem → β) (next : β → Process α) : Process α :=
  .step id fun system => next (view system)

/-- A step that only acts. -/
def act (change : FileSystem → FileSystem) (next : Process α) : Process α :=
  .step change fun _ => next

/-- Goes on with another process after the end. -/
def andThen (next : α → Process β) : Process α → Process β
  | .done result => next result
  | .step act following =>
    .step act fun system => (following system).andThen next

/-- Carries a process out without interruption. -/
def run : Process α → FileSystem → α × FileSystem
  | .done result, system => (result, system)
  | .step act next, system => (next system).run (act system)

@[simp] theorem run_done (result : α) (system : FileSystem) :
    (Process.done result).run system = (result, system) :=
  rfl

@[simp] theorem run_step (act : FileSystem → FileSystem)
    (next : FileSystem → Process α) (system : FileSystem) :
    (Process.step act next).run system = (next system).run (act system) :=
  rfl

/-- The second process starts where the first one ends. -/
theorem run_andThen (process : Process α) (next : α → Process β)
    (system : FileSystem) :
    (process.andThen next).run system =
      (next (process.run system).1).run (process.run system).2 := by
  induction process generalizing system with
  | done result => rfl
  | step act following ih => exact ih system (act system)

end Process

end SymbolDiff
