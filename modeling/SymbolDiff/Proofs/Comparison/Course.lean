import Mathlib
import SymbolDiff.Proofs.Comparison.Baseline

/-!
# The course of a run

After the look for reused output the comparisons of a plan have their turns,
one after the other.  A turn starts the generator for the sides that are not
reused and then compares both sides.  This file says for every run which
generations are started, in which order, and where the run ends.
-/

namespace SymbolDiff.Comparison

theorem Run.on_mapM_cons {α β : Type} (step : α → Run β) (item : α)
    (rest : List α) (session : Session) :
    Run.on ((item :: rest).mapM step) session =
      match Run.on (step item) session with
      | (.error failure, later) => (.error failure, later)
      | (.ok value, later) =>
          ((Run.on (rest.mapM step) later).1.map (value :: ·),
            (Run.on (rest.mapM step) later).2) := by
  rw [List.mapM_cons, on_bind]
  cases Run.on (step item) session with
  | mk outcome later =>
      cases outcome with
      | error failure => rfl
      | ok value =>
          dsimp only
          rw [on_bind]
          cases Run.on (rest.mapM step) later with
          | mk others last =>
              cases others with
              | error failure => rfl
              | ok values => rfl

namespace Planned

/-- The generations of the sides that are not reused. -/
def launched (planned : Planned) : List Request :=
  match planned.language.reuse with
  | .nothing => [planned.old, planned.new]
  | .old => [planned.new]
  | .both => []

/-- The generations that are started when the turn of a comparison comes.  A
reused old side is listed first, and without it the new side is not started. -/
def startedIn (planned : Planned) (system : FileSystem) : List Request :=
  match planned.language.reuse, Output.existing system planned.old.output with
  | .old, .error _ => []
  | _, _ => planned.launched

/-- The file system that a turn leaves. -/
def left (generator : Generator) (planned : Planned) (system : FileSystem) :
    FileSystem :=
  (planned.startedIn system).foldl
    (fun current request => generated generator request current) system

/-- Both sides of a comparison as its turn finds or makes them; the failure of
the old side comes before that of the new one. -/
def sides (generator : Generator) (planned : Planned) (system : FileSystem) :
    Except Failure (Output × Output) :=
  match planned.language.reuse with
  | .nothing => do
      let old ← ((planned.old.generate generator).run system).1
      let new ← ((planned.new.generate generator).run
        (generated generator planned.old system)).1
      return (old, new)
  | .old => do
      let old ← Output.existing system planned.old.output
      let new ← ((planned.new.generate generator).run system).1
      return (old, new)
  | .both => do
      let old ← Output.existing system planned.old.output
      let new ← Output.existing system planned.new.output
      return (old, new)

/-- What a comparison finds in its turn. -/
def finding (generator : Generator) (parse : Grammar.Parser) (planned : Planned)
    (system : FileSystem) : Except Failure (Option Node) := do
  let both ← planned.sides generator system
  Attempt.outcome
    (Output.compare (planned.left generator system) both.1 both.2 parse)

end Planned

/-- Comparisons that have their turns one after the other and all succeed,
with their results and the file system at the end. -/
inductive Turns (generator : Generator) (parse : Grammar.Parser) :
    FileSystem → List Planned → List SpecResult → FileSystem → Prop where
  | nil (system : FileSystem) : Turns generator parse system [] [] system
  | cons {system last : FileSystem} {planned : Planned} {rest : List Planned}
      {diff : Option Node} {specs : List SpecResult} :
      planned.finding generator parse system = .ok diff →
      Turns generator parse (planned.left generator system) rest specs last →
      Turns generator parse system (planned :: rest)
        (planned.result diff :: specs) last

section Turn

variable (generator : Generator) (planned : Planned)

variable {generator planned} in
theorem startedIn_of_sides {system : FileSystem} {both : Output × Output}
    (found : planned.sides generator system = .ok both) :
    planned.startedIn system = planned.launched := by
  unfold Planned.startedIn
  split
  · rename_i reuse missing
    rw [Planned.sides, reuse] at found
    dsimp only at found
    rw [missing] at found
    cases found
  · rfl

theorem on_look {α : Type} (view : FileSystem → Except Failure α)
    (session : Session) :
    Run.on (Run.look view) session = (view session.system, session) :=
  rfl

theorem on_runRequest (request : Request) (session : Session) :
    Run.on (runRequest generator request) session =
      (((request.generate generator).run session.system).1,
        { session with
          system := generated generator request session.system
          started := session.started ++ [request.commandLine] }) :=
  rfl

theorem on_attempt {α : Type} (attempted : FileSystem → Attempt α)
    (session : Session) :
    Run.on (Run.attempt attempted) session =
      (Attempt.outcome (attempted session.system),
        { session with
          remarks := session.remarks ++
            (attempted session.system).run.remarks }) :=
  rfl

theorem on_outputs (session : Session) :
    (Run.on (outputs generator planned) session).1 =
        planned.sides generator session.system ∧
      (Run.on (outputs generator planned) session).2.system =
        planned.left generator session.system ∧
      (Run.on (outputs generator planned) session).2.started =
        session.started ++
          (planned.startedIn session.system).map Request.commandLine := by
  unfold Planned.left Planned.startedIn Planned.sides Planned.launched outputs
  cases planned.language.reuse with
  | nothing =>
      refine ⟨rfl, rfl, ?_⟩
      exact List.append_assoc session.started [_] [_]
  | old =>
      dsimp only
      rw [Run.on_bind, on_look]
      cases Output.existing session.system planned.old.output with
      | error failure => simp
      | ok old =>
          dsimp only
          rw [Run.on_bind, on_runRequest]
          cases ((planned.new.generate generator).run session.system).1 with
          | error failure => exact ⟨rfl, rfl, rfl⟩
          | ok new => exact ⟨rfl, rfl, rfl⟩
  | both =>
      dsimp only
      rw [Run.on_bind, on_look]
      cases Output.existing session.system planned.old.output with
      | error failure => simp
      | ok old =>
          dsimp only
          rw [Run.on_bind, on_look]
          cases Output.existing session.system planned.new.output with
          | error failure => simp
          | ok new => simp

/-- One turn: its outcome, the file system it leaves and what it starts. -/
theorem on_turn (parse : Grammar.Parser) (session : Session) :
    (Run.on (comparePlanned generator parse planned) session).1 =
        (planned.finding generator parse session.system).map planned.result ∧
      (Run.on (comparePlanned generator parse planned) session).2.system =
        planned.left generator session.system ∧
      (Run.on (comparePlanned generator parse planned) session).2.started =
        session.started ++
          (planned.startedIn session.system).map Request.commandLine := by
  obtain ⟨outcome, system, started⟩ := on_outputs generator planned session
  rw [Planned.finding, ← outcome, ← system, ← started]
  unfold comparePlanned
  rw [Run.on_bind]
  cases Run.on (outputs generator planned) session with
  | mk ended later =>
      cases ended with
      | error failure => exact ⟨rfl, rfl, rfl⟩
      | ok both =>
          rw [Outcome.ok_bind]
          dsimp only
          rw [Run.on_bind, on_attempt]
          cases Attempt.outcome (Output.compare later.system both.1 both.2
              parse) with
          | ok diff => exact ⟨rfl, rfl, rfl⟩
          | error failure => exact ⟨rfl, rfl, rfl⟩

variable {generator planned} in
theorem startedIn_of_finding {parse : Grammar.Parser} {system : FileSystem}
    {diff : Option Node}
    (found : planned.finding generator parse system = .ok diff) :
    planned.startedIn system = planned.launched := by
  obtain ⟨both, sides, _⟩ := Outcome.bind_eq_ok_iff.mp found
  exact startedIn_of_sides sides

end Turn

/-- The turns of a run: either all of them succeed, or the first that fails
ends the run. -/
theorem on_turns (generator : Generator) (parse : Grammar.Parser)
    (runs : List Planned) (session : Session) :
    let ended := Run.on (runs.mapM (comparePlanned generator parse)) session
    (∃ specs last, Turns generator parse session.system runs specs last ∧
      ended.1 = .ok specs ∧
      ended.2.started = session.started ++
        (runs.flatMap Planned.launched).map Request.commandLine) ∨
    ∃ before planned after specs system failure,
      runs = before ++ planned :: after ∧
      Turns generator parse session.system before specs system ∧
      planned.finding generator parse system = .error failure ∧
      ended.1 = .error failure ∧
      ended.2.started = session.started ++
        (before.flatMap Planned.launched ++
          planned.startedIn system).map Request.commandLine := by
  induction runs generalizing session with
  | nil => exact .inl ⟨[], session.system, .nil _, rfl, by simp⟩
  | cons planned rest induction =>
      obtain ⟨outcome, system, started⟩ := on_turn generator planned parse session
      rw [Run.on_mapM_cons]
      generalize Run.on (comparePlanned generator parse planned) session =
        turn at *
      obtain ⟨result, later⟩ := turn
      dsimp only at outcome system started
      subst outcome
      cases found : planned.finding generator parse session.system with
      | error failure =>
          refine .inr ⟨[], planned, rest, [], session.system, failure, rfl,
            .nil _, found, rfl, ?_⟩
          simpa using started
      | ok diff =>
          have launched := startedIn_of_finding found
          rw [launched] at started
          have continued : session.started ++
              planned.launched.map Request.commandLine = later.started :=
            started.symm
          rcases induction later with
            ⟨specs, last, turns, done, ended⟩ |
            ⟨before, stopped, after, specs, reached, failure, split, turns,
              failed, done, ended⟩
          · refine .inl ⟨planned.result diff :: specs, last, ?_, ?_, ?_⟩
            · exact .cons found (system ▸ turns)
            · simp [done]
            · simp [ended, ← continued]
          · refine .inr ⟨planned :: before, stopped, after,
              planned.result diff :: specs, reached, failure, ?_, ?_, failed,
              ?_, ?_⟩
            · rw [split, List.cons_append]
            · exact .cons found (system ▸ turns)
            · simp [done]
            · simp [ended, ← continued]

section Reused

variable {system : FileSystem} {paths : List Path}

/-- The first of some directories that is not there. -/
def FirstMissing (system : FileSystem) (paths : List Path) (path : Path) : Prop :=
  ∃ earlier later, paths = earlier ++ path :: later ∧
    (∀ other ∈ earlier, system.isDirectory other = true) ∧
    system.isDirectory path = false

theorem forM_require (system : FileSystem) (paths : List Path) :
    ((∀ path ∈ paths, system.isDirectory path = true) ∧
      paths.forM (Output.require system) = .ok ()) ∨
    ∃ path, FirstMissing system paths path ∧
      paths.forM (Output.require system) =
        .error (.settings (.missingOutput path)) := by
  induction paths with
  | nil => exact .inl ⟨by simp, rfl⟩
  | cons first rest induction =>
      have walk : (first :: rest).forM (Output.require system) =
          (Output.require system first >>= fun _ =>
            rest.forM (Output.require system)) := rfl
      cases there : system.isDirectory first with
      | false =>
          refine .inr ⟨first, ⟨[], rest, rfl, by simp, there⟩, ?_⟩
          rw [walk, Output.require, if_neg (by simp [there])]
          rfl
      | true =>
          rw [walk, Output.require, if_pos there, Outcome.ok_bind]
          rcases induction with ⟨all, done⟩ | ⟨path, missing, failed⟩
          · exact .inl ⟨by simpa [there] using all, done⟩
          · obtain ⟨earlier, later, split, present, absent⟩ := missing
            refine .inr ⟨path, ⟨first :: earlier, later, ?_, ?_, absent⟩, failed⟩
            · rw [split, List.cons_append]
            · simpa [there] using present

end Reused

theorem on_run_of_missing {generator : Generator} {parse : Grammar.Parser}
    {settings : Settings} {session : Session} {failure : Failure}
    (missing : checkReused session.system (plan settings) = .error failure) :
    Run.on (run generator settings parse) session =
      (.error failure, session) := by
  unfold run
  dsimp only
  rw [Run.on_bind, on_look, missing]

/-- Every run, from its start to its end.  A reused directory that is not there
ends it before anything is started.  Otherwise the comparisons have their turns
in the order of the plan, and the generator is started for every side that is
not reused, up to the first comparison that fails. -/
theorem run_launches (generator : Generator) (parse : Grammar.Parser)
    (settings : Settings) (session : Session) :
    let runs := plan settings
    let ended := Run.on (run generator settings parse) session
    (∃ path, FirstMissing session.system (runs.flatMap Planned.reused) path ∧
      ended = (.error (.settings (.missingOutput path)), session)) ∨
    (∀ path ∈ runs.flatMap Planned.reused,
        session.system.isDirectory path = true) ∧
      ((∃ specs last, Turns generator parse session.system runs specs last ∧
          ended.1 = .ok ⟨summary specs, specs⟩ ∧
          ended.2.started = session.started ++
            (runs.flatMap Planned.launched).map Request.commandLine) ∨
        ∃ before planned after specs system failure,
          runs = before ++ planned :: after ∧
          Turns generator parse session.system before specs system ∧
          planned.finding generator parse system = .error failure ∧
          ended.1 = .error failure ∧
          ended.2.started = session.started ++
            (before.flatMap Planned.launched ++
              planned.startedIn system).map Request.commandLine) := by
  intro runs ended
  rcases forM_require session.system (runs.flatMap Planned.reused) with
    ⟨there, checked⟩ | ⟨path, missing, failed⟩
  · refine .inr ⟨there, ?_⟩
    have course : ended = _ := on_run_of_checked checked
    rw [course]
    rcases on_turns generator parse runs session with
      ⟨specs, last, turns, done, started⟩ |
      ⟨before, planned, after, specs, system, failure, split, turns, found,
        failed, started⟩
    · refine .inl ⟨specs, last, turns, ?_, started⟩
      rw [done, Outcome.map_ok]
    · refine .inr ⟨before, planned, after, specs, system, failure, split, turns,
        found, ?_, started⟩
      rw [failed, Outcome.map_error]
  · exact .inl ⟨path, missing, on_run_of_missing failed⟩

/-- A reused old side that is there but cannot be listed keeps the new side
from being started. -/
theorem run_launches_less :
    ¬∀ (generator : Generator) (settings : Settings) (session : Session),
      (∀ command system path, system.isDirectory path = true →
        ((generator command).run system).2.isDirectory path = true) →
      (∀ path ∈ (plan settings).flatMap Planned.reused,
        session.system.isDirectory path = true) →
      let ended := Run.on (run generator settings) session
      ((∃ result, ended.1 = .ok result) ∧
        ended.2.started = session.started ++
          ((plan settings).flatMap Planned.launched).map Request.commandLine) ∨
      ∃ before planned after failure,
        plan settings = before ++ planned :: after ∧
        ended.1 = .error failure ∧
        ended.2.started = session.started ++
          ((before ++ [planned]).flatMap Planned.launched).map
            Request.commandLine := by
  intro launches
  let specs : SpecSettings := { paths := ["x.json"] }
  let language : LanguageSettings :=
    { language := .python, output := .ofString "out", reuse := .old }
  let settings : Settings := { specs := [specs], languages := [language] }
  let old : Entry := .directory [(".gitignore", .file "**/".toUTF8)]
  let session : Session := {
    system := {
      top := .directory [("out", .directory [("x", .directory [("old", old)])])]
      working := ⟨.root, []⟩
      home := .ofString "/" } }
  let idle : Generator := fun _ => .done (.exited 0 "" "")
  let only := planSpec settings language specs "x.json"
  have planned : plan settings = [only] := rfl
  have reused : [only].flatMap Planned.reused = [only.old.output] := rfl
  have there : session.system.isDirectory only.old.output = true := by cbv
  have stopped : Run.on (run idle settings) session =
      (.error (.listing (.ignoreFile .emptyPattern)), session) := by cbv
  have claimed := launches idle settings session (fun _ _ _ stands => stands)
    (by simpa [planned, reused] using there)
  rw [planned, stopped] at claimed
  rcases claimed with
    ⟨⟨_, done⟩, _⟩ | ⟨before, found, after, _, split, _, started⟩
  · cases done
  · have member : found ∈ [only] := by simp [split]
    rw [List.mem_singleton.mp member] at started
    have launched : only.launched = [only.new] := rfl
    simp [launched] at started

end SymbolDiff.Comparison
