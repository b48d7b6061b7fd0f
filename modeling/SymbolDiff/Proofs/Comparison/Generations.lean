import Mathlib.Data.List.Pairwise
import SymbolDiff.Comparison.Run
import SymbolDiff.Proofs.Output.Folder

/-!
# Generations that do not disturb each other

Every planned generation writes into a directory of its own.  Where these
directories lie apart and a generator changes nothing but the one it is asked
for, what a generation has left stays as it is whatever is generated later,
and the way there stays the same.
-/

namespace SymbolDiff.Comparison

open FileSystem

/-- All generations that settings stand for, the old and the new ones. -/
def requests (settings : Settings) : List Request :=
  (plan settings).flatMap fun planned => [planned.old, planned.new]

def generated (generator : Generator) (request : Request) (system : FileSystem) :
    FileSystem :=
  ((request.generate generator).run system).2

/-- The file systems to which generations lead. -/
inductive Reached (generator : Generator) (asked : List Request)
    (start : FileSystem) : FileSystem → Prop where
  | start : Reached generator asked start start
  | generated {system : FileSystem} {request : Request} :
      Reached generator asked start system → request ∈ asked →
      Reached generator asked start (generated generator request system)

/-- The directories of all generations are different and lie apart, and no way
to one of them comes into another, as it might over a symbolic link or by
`..`. -/
structure Separate (start : FileSystem) (asked : List Request) : Prop where
  leads : ∀ request ∈ asked, start.follow request.output =
    .ok ⟨.root, start.destination request.output⟩
  apart : asked.Pairwise fun first second =>
    Path.Apart (start.destination first.output) (start.destination second.output)
  ways : ∀ request ∈ asked, ∀ other ∈ asked,
    ∀ position ∈ start.way request.output,
      start.destination other.output <+: position →
        position = start.destination request.output

/-- Nothing but directories stands above a place. -/
def OpenAbove (system : FileSystem) (place : List String) : Prop :=
  ∀ names, names <+: place → names ≠ place →
    system.top.find? names = none ∨
      ∃ inner, system.top.find? names = some (.directory inner)

/-- A change of the file system leaves a directory at a place and touches
nothing else; only directories may be made on the way to it. -/
structure Writes (place : List String) (entries : List (String × Entry))
    (before after : FileSystem) : Prop where
  there : after.top.find? place = some (.directory entries)
  elsewhere : ∀ names, Path.Apart names place →
    after.top.find? names = before.top.find? names
  above : OpenAbove before place
  working : after.working = before.working

/-- The folder that a generation leaves. -/
def folderOf (start : FileSystem) (content : List String → List (String × Entry))
    (request : Request) : Folder where
  path := request.output
  place := start.destination request.output
  left := start.linksLeft request.output
  entries := content request.commandLine

/-- The generator succeeds whenever it is asked, touches its own directory
only and leaves there what its command line stands for, without symbolic links
that lead away. -/
structure Dependable (generator : Generator) (asked : List Request)
    (start : FileSystem) (content : List String → List (String × Entry)) :
    Prop where
  succeeds : ∀ system, Reached generator asked start system →
    ∀ request ∈ asked,
      ∃ output, ((request.generate generator).run system).1 = .ok output
  writes : ∀ system, Reached generator asked start system →
    ∀ request ∈ asked,
      Writes (start.destination request.output) (content request.commandLine)
        system (generated generator request system)
  proper : ∀ request ∈ asked, Entry.ProperEach (content request.commandLine)
  inward : ∀ request ∈ asked, (folderOf start content request).Inward

namespace Writes

variable {place : List String} {entries : List (String × Entry)}
variable {before after : FileSystem} {position : List String}

theorem linkAt?_eq (writes : Writes place entries before after)
    (outside : ¬place <+: position) :
    after.top.linkAt? position = before.top.linkAt? position := by
  rcases Path.apart_or_below_or_above position place with
    away | ⟨names, rfl⟩ | ⟨above, proper⟩
  · rw [Entry.linkAt?, Entry.linkAt?, writes.elsewhere position away]
  · exact absurd (List.prefix_append place names) outside
  · obtain ⟨_, later⟩ := Entry.directory_of_find? writes.there above proper
    rw [Entry.linkAt?_of_directory later]
    rcases writes.above position above proper with missing | ⟨_, earlier⟩
    · rw [Entry.linkAt?_of_none missing]
    · rw [Entry.linkAt?_of_directory earlier]

theorem firm (writes : Writes place entries before after)
    (outside : ¬place <+: position) (firm : Firm before.top position) :
    Firm after.top position := by
  rcases Path.apart_or_below_or_above position place with
    away | ⟨names, rfl⟩ | ⟨above, proper⟩
  · rw [Firm, writes.elsewhere position away]
    exact firm
  · exact absurd (List.prefix_append place names) outside
  · exact .inl (Entry.directory_of_find? writes.there above proper)

end Writes

section Request

variable {generator : Generator} {request : Request} {system : FileSystem}
variable {output : Output}

theorem run_inspect (said errors : String) :
    (request.inspect said errors).run system =
      if system.isDirectory request.output then
        ((Output.existing system request.output).map fun found =>
          { found with messages := said }, system)
      else
        (.error (request.failure 0
          ("generator produced no output folder at " ++ request.output.toText ++
            "\n" ++ Request.said said errors)), system) := by
  rw [Request.inspect, Process.look, Process.run_step]
  split
  · rfl
  · rfl

theorem run_conclude_system (ending : Ending) :
    ((request.conclude ending).run system).2 = system := by
  cases ending with
  | notStarted reason => rfl
  | exited code said errors =>
      rw [Request.conclude]
      split
      · rw [run_inspect]
        split
        · rfl
        · rfl
      · rfl

theorem existing_of_conclude {ending : Ending}
    (done : ((request.conclude ending).run system).1 = .ok output) :
    system.isDirectory request.output = true ∧
      ∃ found, Output.existing system request.output = .ok found ∧
        output.directory = found.directory ∧ output.files = found.files := by
  cases ending with
  | notStarted reason => cases done
  | exited code said errors =>
      rw [Request.conclude] at done
      split at done
      · rw [run_inspect] at done
        split at done
        · rename_i isThere
          obtain ⟨found, listed, rfl⟩ := Outcome.map_eq_ok_iff.mp done
          exact ⟨isThere, found, listed, rfl, rfl⟩
        · cases done
      · cases done

theorem generated_eq :
    generated generator request system =
      ((generator request.commandLine).run system).2 := by
  rw [generated, Request.generate, Process.run_andThen, run_conclude_system]

theorem existing_of_generate
    (done : ((request.generate generator).run system).1 = .ok output) :
    (generated generator request system).isDirectory request.output = true ∧
      ∃ found, Output.existing (generated generator request system)
          request.output = .ok found ∧
        output.directory = found.directory ∧ output.files = found.files := by
  rw [Request.generate, Process.run_andThen] at done
  rw [generated_eq]
  exact existing_of_conclude done

end Request

section Ways

variable {generator : Generator} {asked : List Request}
variable {start system : FileSystem}
variable {content : List String → List (String × Entry)}

theorem Separate.apart_of_ne (separate : Separate start asked)
    {request other : Request} (inAsked : request ∈ asked)
    (otherInAsked : other ∈ asked)
    (different : request ≠ other) :
    Path.Apart (start.destination request.output)
      (start.destination other.output) := by
  have symmetric : Std.Symm fun first second : Request =>
      Path.Apart (start.destination first.output)
        (start.destination second.output) := ⟨fun _ _ apart => apart.symm⟩
  exact separate.apart.forall inAsked otherInAsked different

/-- Without links and `..` directories that lie apart are separate. -/
theorem Separate.of_linkless (linkless : start.Linkless)
    (downward : ∀ request ∈ asked, ".." ∉ (start.absolute request.output).names)
    (apart : asked.Pairwise fun first second =>
      Path.Apart (Path.place start.working first.output)
        (Path.place start.working second.output)) :
    Separate start asked := by
  have places := destination_of_linkless linkless
  have straight : ∀ request ∈ asked, ∀ position ∈ start.way request.output,
      position <+: Path.place start.working request.output := by
    intro request inAsked position onWay
    have below := prefix_of_mem_trail (linkAt?_of_linkless linkless)
      (downward request inAsked) onWay
    rw [Path.place_of_downward (downward request inAsked)]
    exact below
  have symmetric : Std.Symm fun first second : Request =>
      Path.Apart (Path.place start.working first.output)
        (Path.place start.working second.output) :=
    ⟨fun _ _ apart => apart.symm⟩
  refine ⟨?_, ?_, ?_⟩
  · intro request _
    rw [places, follow_of_linkless linkless]
  · simpa only [places] using apart
  · intro request inAsked other otherInAsked position onWay inside
    rw [places] at inside ⊢
    have above := straight request inAsked position onWay
    by_cases own : other = request
    · subst own
      exact above.eq_of_length_le inside.length_le
    · have away := apart.forall otherInAsked inAsked own
      exact absurd (inside.trans above) away.1

/-- The ways to all directories are as they were at the start. -/
structure SameWays (start : FileSystem) (asked : List Request)
    (system : FileSystem) : Prop where
  working : system.working = start.working
  arrives : ∀ request ∈ asked,
    arrival system.top linkLimit [] (system.absolute request.output).names =
      .ok (start.linksLeft request.output,
        (start.destination request.output).reverse)
  ways : ∀ request ∈ asked,
    system.way request.output = start.way request.output

theorem Separate.sameWays (separate : Separate start asked) :
    SameWays start asked start where
  working := rfl
  arrives request inAsked := arrival_of_follow (separate.leads request inAsked)
  ways _ _ := rfl

/-- Writing one of the directories meets no way but at its end. -/
theorem SameWays.step (separate : Separate start asked)
    {before after : FileSystem}
    (same : SameWays start asked before) {request : Request}
    (inAsked : request ∈ asked) {entries : List (String × Entry)}
    (writes : Writes (start.destination request.output) entries before after) :
    SameWays start asked after := by
  have absolute : ∀ path, after.absolute path = before.absolute path := by
    intro path
    rw [FileSystem.absolute, FileSystem.absolute, writes.working]
  have links : ∀ other ∈ asked, ∀ position ∈ before.way other.output,
      position ≠ [] →
        after.top.linkAt? position = before.top.linkAt? position := by
    intro other otherInAsked position onWay some
    by_cases inside : start.destination request.output <+: position
    · rw [same.ways other otherInAsked] at onWay
      have last := separate.ways other otherInAsked request inAsked position
        onWay inside
      by_cases own : request = other
      · -- before and after, the end of a way is not a link
        subst own
        have plain := plain_of_arrival (same.arrives request inAsked) plain_nil
        rw [last, Entry.linkAt?_of_directory writes.there]
        rw [last] at some
        refine (plain _ some ?_).symm
        rw [List.reverse_reverse]
      · have apart := separate.apart_of_ne inAsked otherInAsked own
        rw [last] at inside
        exact absurd inside apart.1
    · exact writes.linkAt?_eq inside
  have ways : ∀ other ∈ asked,
      arrival after.top linkLimit [] (after.absolute other.output).names =
        arrival before.top linkLimit [] (before.absolute other.output).names ∧
      after.way other.output = before.way other.output := by
    intro other otherInAsked
    rw [FileSystem.way, absolute]
    exact way_congr (links other otherInAsked)
  refine ⟨writes.working.trans same.working, ?_, ?_⟩
  · intro other otherInAsked
    rw [(ways other otherInAsked).1, same.arrives other otherInAsked]
  · intro other otherInAsked
    rw [(ways other otherInAsked).2, same.ways other otherInAsked]

theorem sameWays_of_reached (separate : Separate start asked)
    (dependable : Dependable generator asked start content)
    (reached : Reached generator asked start system) :
    SameWays start asked system := by
  induction reached with
  | start => exact separate.sameWays
  | generated earlier inAsked induction =>
      exact induction.step separate inAsked
        (dependable.writes _ earlier _ inAsked)

theorem stands_generated (separate : Separate start asked)
    (dependable : Dependable generator asked start content)
    (reached : Reached generator asked start system) {request : Request}
    (inAsked : request ∈ asked) :
    (folderOf start content request).In (generated generator request system) := by
  have ways := sameWays_of_reached separate dependable
    (reached.generated inAsked)
  have writes := dependable.writes system reached request inAsked
  obtain ⟨output, done⟩ := dependable.succeeds system reached request inAsked
  have isThere := (existing_of_generate done).1
  refine ⟨ways.arrives request inAsked, ?_, writes.there⟩
  rw [FileSystem.isDirectory, FileSystem.stat?] at isThere
  cases leads : (generated generator request system).locate request.output with
  | error fault => simp [leads] at isThere
  | ok place =>
      rw [leads] at isThere
      dsimp only at isThere
      split at isThere
      · rename_i entries found
        exact firm_of_walk leads found
      · cases isThere

/-- A folder stays as it is whatever is generated later. -/
theorem stands_kept (separate : Separate start asked)
    (dependable : Dependable generator asked start content)
    (reached : Reached generator asked start system) {request other : Request}
    (inAsked : request ∈ asked) (otherInAsked : other ∈ asked)
    (stands : (folderOf start content request).In system) :
    (folderOf start content request).In (generated generator other system) := by
  by_cases own : other = request
  · subst own
    exact stands_generated separate dependable reached otherInAsked
  · have before := sameWays_of_reached separate dependable reached
    have after := sameWays_of_reached separate dependable
      (reached.generated otherInAsked)
    have writes := dependable.writes system reached other otherInAsked
    have apart := separate.apart_of_ne otherInAsked inAsked own
    refine ⟨after.arrives request inAsked, ?_, ?_⟩
    · intro position onWay
      have same : (generated generator other system).way request.output =
          system.way request.output := by
        rw [after.ways request inAsked, before.ways request inAsked]
      have onOldWay : position ∈ system.way request.output := same ▸ onWay
      apply writes.firm _ (stands.firm position onOldWay)
      intro inside
      rw [before.ways request inAsked] at onOldWay
      have last := separate.ways request inAsked other otherInAsked position
        onOldWay inside
      rw [last] at inside
      exact apart.1 inside
    · have untouched := writes.elsewhere _ apart.symm
      rw [folderOf, untouched]
      exact stands.there

end Ways

end SymbolDiff.Comparison
