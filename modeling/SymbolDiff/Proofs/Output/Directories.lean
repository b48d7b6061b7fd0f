import Mathlib.Data.List.Permutation
import SymbolDiff.Proofs.Listing.Order
import SymbolDiff.Proofs.Output.Snapshot
import SymbolDiff.Proofs.Reconcile.Distinct

/-!
# Comparing directories

Two directories of output are compared file by file along the new listing,
and the first fault ends everything.  What comes out depends on the two
listings and on the files that stand in both of them and are written in a
known dialect.
-/

namespace SymbolDiff

open Outcome

section Directories

variable {system : FileSystem} {parse : Grammar.Parser}

/-- What becomes of a file of the new side. -/
def attemptAt (system : FileSystem) (parse : Grammar.Parser)
    (old new : Path) (files : List String) (name : String) :
    Attempt (Option Node) :=
  if name ∈ files then
    OutputFile.compare system ⟨name, old⟩ ⟨name, new⟩ parse
  else pure (some (.added name))

theorem map_name_members (output : Output) :
    output.members.map Named.name = output.files := by
  rw [Output.members, List.map_map]
  exact List.map_id _

theorem removedNames_members (old new : Output) :
    removedNames old.members new.members =
      (old.files.filter fun name => name ∉ new.files).map .removed := by
  rw [removedNames, map_name_members, Output.members, List.filter_map,
    List.map_map]
  rfl

theorem find?_members (output : Output) (name : String) :
    (output.members.find? fun file => Named.name file = name) =
      if name ∈ output.files then some ⟨name, output.directory⟩ else none := by
  rw [Output.members]
  induction output.files with
  | nil => rfl
  | cons first rest induction =>
      by_cases same : first = name
      · simp [same, Named.name]
      · have different : ¬name = first := fun equal => same equal.symm
        simpa [Named.name, same, different] using induction

theorem entryFor_members (old new : Output) (name : String) :
    entryFor (fun first second => first.compare system second parse)
        old.members ⟨name, new.directory⟩ =
      attemptAt system parse old.directory new.directory old.files name := by
  have partner : (old.members.find? fun other => Named.name other =
      Named.name (OutputFile.mk name new.directory)) = _ :=
    find?_members old name
  unfold entryFor attemptAt
  rw [partner]
  by_cases member : name ∈ old.files
  · rw [if_pos member, if_pos member]
  · rw [if_neg member, if_neg member]
    rfl

/-- Files of two outputs without repetition are compared along the new
listing. -/
theorem compare_eq {old new : Output}
    (oldDistinct : old.files.Nodup) (newDistinct : new.files.Nodup) :
    Output.compare system old new parse = (do
      Attempt.remark (.comparing old.files.length new.files.length)
      let later ← new.files.mapM
        (attemptAt system parse old.directory new.directory old.files)
      return outlined Output.label
        ((old.files.filter fun name => name ∉ new.files).map .removed ++
          later.filterMap id)) := by
  have oldMembers : Distinct old.members := by
    rw [Distinct, map_name_members]
    exact oldDistinct
  have newMembers : Distinct new.members := by
    rw [Distinct, map_name_members]
    exact newDistinct
  have walk : new.members.mapM
        (entryFor (fun first second => first.compare system second parse)
          old.members) =
      new.files.mapM
        (attemptAt system parse old.directory new.directory old.files) := by
    have listed : new.members =
        new.files.map fun name => ⟨name, new.directory⟩ := rfl
    rw [listed, List.mapM_map]
    congr 1
    funext name
    exact entryFor_members old new name
  unfold Output.compare
  rw [compareItems_of_distinct Attempt.remark _ Output.label oldMembers
    newMembers, walk, removedNames_members]

/-- A directory that can be listed is there and holds what is listed. -/
theorem existing_of_listed {directory : Path} {files : List String}
    (listed : Listing.outputFiles system directory [] true = .ok files) :
    Output.require system directory = .ok () ∧
      Output.existing system directory = .ok { directory, files } := by
  obtain ⟨_, _, _, reached, _⟩ := Listing.outputFiles_eq_ok listed
  constructor
  · rw [Output.require, FileSystem.isDirectory, reached]
    rfl
  · rw [Output.existing, listed]

theorem compareDirectories_eq {old new : Path} {oldFiles newFiles : List String}
    (oldListed : Listing.outputFiles system old [] true = .ok oldFiles)
    (newListed : Listing.outputFiles system new [] true = .ok newFiles) :
    Output.compareDirectories system old new parse =
      Output.compare system { directory := old, files := oldFiles }
        { directory := new, files := newFiles } parse := by
  obtain ⟨oldThere, oldExisting⟩ := existing_of_listed oldListed
  obtain ⟨newThere, newExisting⟩ := existing_of_listed newListed
  unfold Output.compareDirectories
  rw [oldThere, newThere, oldExisting, newExisting]
  rfl

theorem listed_of_existing {system : FileSystem} {directory : Path}
    {output : Output}
    (found : Output.existing system directory = .ok output) :
    ∃ files, Listing.outputFiles system directory [] true = .ok files ∧
      output = { directory, files } := by
  rw [Output.existing] at found
  cases listed : Listing.outputFiles system directory [] true with
  | error fault =>
      rw [listed] at found
      cases found
  | ok files =>
      rw [listed] at found
      cases found
      exact ⟨files, rfl, rfl⟩

theorem outcome_compareDirectories_eq_ok_iff {system : FileSystem}
    {old new : Path}
    {diff : Option Node} :
    Attempt.outcome (Output.compareDirectories system old new parse) = .ok diff ↔
      ∃ oldOutput, Output.existing system old = .ok oldOutput ∧
        ∃ newOutput, Output.existing system new = .ok newOutput ∧
          Attempt.outcome (Output.compare system oldOutput newOutput parse) =
            .ok diff := by
  constructor
  · intro done
    rw [Output.compareDirectories] at done
    simp only [Attempt.outcome_bind, bind_eq_ok_iff] at done
    obtain ⟨_, _, _, _, compared⟩ := done
    exact compared
  · rintro ⟨oldOutput, oldFound, newOutput, newFound, compared⟩
    obtain ⟨_, oldListed, rfl⟩ := listed_of_existing oldFound
    obtain ⟨_, newListed, rfl⟩ := listed_of_existing newFound
    rw [compareDirectories_eq oldListed newListed]
    exact compared

end Directories

section Pairs

variable {α : Type} [Named α]

/-- Two collections have been compared only when each matched pair has been. -/
theorem exists_outcome_of_compareItems
    {compare : α → α → Attempt (Option Node)} {orderSensitive : Bool}
    {label : String} {old new : List α} {diff : Option Node}
    (done : Attempt.outcome (compareItems Attempt.remark compare orderSensitive
      label old new) = .ok diff)
    {key : Key} {first second : α × Nat}
    (inOld : occurrence? old key = some first)
    (inNew : occurrence? new key = some second) :
    ∃ answer, Attempt.outcome (compare first.1 second.1) = .ok answer := by
  obtain ⟨listed, keyed⟩ := (occurrence?_eq_some_iff new key second).mp inNew
  rw [compareItems_eq_entries] at done
  simp only [entries, Attempt.outcome_bind, Attempt.outcome_mapM] at done
  obtain ⟨_, _, done⟩ := bind_eq_ok_iff.mp done
  obtain ⟨_, _, done⟩ := bind_eq_ok_iff.mp done
  obtain ⟨_, walked, _⟩ := bind_eq_ok_iff.mp done
  obtain ⟨results, walk, _⟩ := bind_eq_ok_iff.mp walked
  -- the pair is compared where the new item has its place in the walk
  obtain ⟨before, after, split⟩ := List.append_of_mem listed
  rw [split] at walk
  obtain ⟨_, _, _, own, _⟩ := mapM_append_eq_ok_iff.mp walk
  rw [List.mapM_cons] at own
  obtain ⟨_, own, _⟩ := bind_eq_ok_iff.mp own
  rw [entriesAt, keyed, inOld, Attempt.outcome_bind] at own
  obtain ⟨answer, compared, _⟩ := bind_eq_ok_iff.mp own
  exact ⟨answer, compared⟩

theorem occurrence?_members {output : Output} {name : String}
    (listed : name ∈ output.files) :
    ∃ position, occurrence? output.members ⟨name, 1⟩ =
      some (⟨name, output.directory⟩, position) := by
  have first := map_fst_occurrence?_one output.members name
  rw [find?_members, if_pos listed, Option.map_eq_some_iff] at first
  obtain ⟨⟨file, position⟩, found, rfl⟩ := first
  exact ⟨position, found⟩

/-- Two outputs have been compared only when each file that stands in both has
been. -/
theorem exists_outcome_of_compare {system : FileSystem} {parse : Grammar.Parser}
    {old new : Output} {diff : Option Node}
    (done : Attempt.outcome (Output.compare system old new parse) = .ok diff)
    {name : String} (inOld : name ∈ old.files) (inNew : name ∈ new.files) :
    ∃ answer, Attempt.outcome (OutputFile.compare system ⟨name, old.directory⟩
      ⟨name, new.directory⟩ parse) = .ok answer := by
  obtain ⟨_, first⟩ := occurrence?_members inOld
  obtain ⟨_, second⟩ := occurrence?_members inNew
  rw [Output.compare, Attempt.outcome_bind, Attempt.outcome_remark,
    ok_bind] at done
  obtain ⟨answer, compared⟩ := exists_outcome_of_compareItems done first second
  exact ⟨answer, compared⟩

end Pairs

section Snapshots

private theorem mapM_congr {α β : Type} {m : Type → Type} [Monad m]
    [LawfulMonad m] {step other : α → m β} {items : List α}
    (same : ∀ item ∈ items, step item = other item) :
    items.mapM step = items.mapM other := by
  induction items with
  | nil => simp
  | cons item rest induction =>
      have others := induction fun next member =>
        same next (List.mem_cons_of_mem item member)
      rw [List.mapM_cons, List.mapM_cons, same item List.mem_cons_self, others]

variable {system : FileSystem} {parse : Grammar.Parser}
variable {old new : Snapshot}

/-- A file that stands in both listings fails to be reduced on some side. -/
def Snapshot.FailsAt (old new : Snapshot) (parse : Grammar.Parser)
    (name : String) : Prop :=
  name ∈ old.files ∧ name ∈ new.files ∧
    ∃ fault, old.Fails parse name fault ∨ new.Fails parse name fault

theorem Snapshot.failsAt_iff (name : String) :
    old.FailsAt new parse name ↔
      name ∈ old.files ∧ name ∈ new.files ∧
        ∃ fault, old.FaultAt new parse name fault := by
  refine and_congr_right fun _ => and_congr_right fun _ => ?_
  constructor
  · rintro ⟨fault, failed⟩
    by_cases oldFails : ∃ other, old.Fails parse name other
    · obtain ⟨other, first⟩ := oldFails
      exact ⟨other, .inl first⟩
    · have sound := not_exists.mp oldFails
      rcases failed with first | second
      · exact absurd first (sound fault)
      · exact ⟨fault, .inr ⟨sound, second⟩⟩
  · rintro ⟨fault, first | ⟨_, second⟩⟩
    · exact ⟨fault, .inl first⟩
    · exact ⟨fault, .inr second⟩

theorem outcome_attemptAt_of_sound
    (oldStands : old.In system) (newStands : new.In system)
    {name : String} (inNew : name ∈ new.files)
    (sound : ¬old.FailsAt new parse name) :
    Attempt.outcome (attemptAt system parse old.directory new.directory
        old.files name) =
      .ok (if name ∈ old.files then old.difference? new parse name
        else some (.added name)) := by
  rw [attemptAt]
  by_cases inOld : name ∈ old.files
  · rw [if_pos inOld, if_pos inOld]
    apply outcome_compare_of_sound oldStands newStands inOld inNew
    intro fault faulty
    exact sound ((Snapshot.failsAt_iff name).mpr ⟨inOld, inNew, fault, faulty⟩)
  · rw [if_neg inOld, if_neg inOld]
    rfl

theorem outcome_compareDirectories
    (oldStands : old.In system) (newStands : new.In system)
    (oldDistinct : old.files.Nodup) (newDistinct : new.files.Nodup) :
    Attempt.outcome (Output.compareDirectories system old.directory
        new.directory parse) =
      (new.files.mapM fun name => Attempt.outcome
          (attemptAt system parse old.directory new.directory old.files
            name)).map
        fun later => outlined Output.label
          ((old.files.filter fun name => name ∉ new.files).map .removed ++
            later.filterMap id) := by
  rw [compareDirectories_eq oldStands.listed newStands.listed,
    compare_eq oldDistinct newDistinct]
  simp only [Attempt.outcome_bind, Attempt.outcome_remark, ok_bind,
    Attempt.outcome_mapM, Attempt.outcome_pure]
  exact bind_pure_eq_map _ _

theorem outcome_of_sound
    (oldStands : old.In system) (newStands : new.In system)
    (oldDistinct : old.files.Nodup) (newDistinct : new.files.Nodup)
    (sound : ∀ name, ¬old.FailsAt new parse name) :
    Attempt.outcome (Output.compareDirectories system old.directory
        new.directory parse) =
      .ok (outlined Output.label (old.report new parse)) := by
  have walk := mapM_eq_ok fun name (inNew : name ∈ new.files) =>
    outcome_attemptAt_of_sound oldStands newStands inNew (sound name)
  rw [outcome_compareDirectories oldStands newStands oldDistinct newDistinct,
    walk, map_ok, List.filterMap_map]
  rfl

/-- The first file that fails decides how the comparison ends. -/
theorem outcome_of_first_fault
    (oldStands : old.In system) (newStands : new.In system)
    (oldDistinct : old.files.Nodup) (newSorted : new.files.Pairwise (· < ·))
    {name : String} (inOld : name ∈ old.files) (inNew : name ∈ new.files)
    {fault : Extract.Fault} (faulty : old.FaultAt new parse name fault)
    (first : ∀ earlier, old.FailsAt new parse earlier → ¬earlier < name) :
    Attempt.outcome (Output.compareDirectories system old.directory
        new.directory parse) =
      .error (.extraction fault) := by
  have newDistinct : new.files.Nodup := newSorted.nodup
  obtain ⟨before, after, split⟩ := List.append_of_mem inNew
  have failed : Attempt.outcome (attemptAt system parse old.directory
      new.directory old.files name) = .error (.extraction fault) := by
    rw [attemptAt, if_pos inOld]
    exact outcome_compare_of_faultAt oldStands newStands inOld inNew faulty
  have earlier : ∀ other ∈ before, ∃ result, Attempt.outcome
      (attemptAt system parse old.directory new.directory old.files other) =
        .ok result := by
    intro other member
    have inFiles : other ∈ new.files := by
      rw [split]
      exact List.mem_append_left _ member
    -- the listing is sorted, so what is compared before comes earlier in order
    have less : other < name := by
      rw [split, List.pairwise_append] at newSorted
      exact newSorted.2.2 other member name List.mem_cons_self
    have sound : ¬old.FailsAt new parse other := fun fails =>
      first other fails less
    exact ⟨_, outcome_attemptAt_of_sound oldStands newStands inFiles sound⟩
  have walk := mapM_eq_error earlier failed after
  rw [← split] at walk
  rw [outcome_compareDirectories oldStands newStands oldDistinct newDistinct,
    walk]
  rfl

theorem exists_first_failing (newSorted : new.files.Pairwise (· < ·))
    {name : String} (fails : old.FailsAt new parse name) :
    ∃ first, old.FailsAt new parse first ∧
      ∀ earlier, old.FailsAt new parse earlier → ¬earlier < first := by
  classical
  have found : (new.files.find? fun other =>
      old.FailsAt new parse other).isSome = true := by
    rw [List.find?_isSome]
    exact ⟨name, fails.2.1, by simpa using fails⟩
  obtain ⟨first, located⟩ := Option.isSome_iff_exists.mp found
  obtain ⟨firstFails, before, after, split, passed⟩ :=
    List.find?_eq_some_iff_append.mp located
  refine ⟨first, by simpa using firstFails, ?_⟩
  intro earlier earlierFails less
  have listed := earlierFails.2.1
  rw [split, List.mem_append, List.mem_cons] at listed
  rw [split, List.pairwise_append, List.pairwise_cons] at newSorted
  rcases listed with inBefore | rfl | inAfter
  · have passedOver := passed earlier inBefore
    simp [earlierFails] at passedOver
  · exact String.lt_irrefl _ less
  · exact String.lt_asymm less (newSorted.2.1.1 earlier inAfter)

theorem report_eq_nil_iff
    (oldSorted : old.files.Pairwise (· < ·))
    (newSorted : new.files.Pairwise (· < ·)) :
    old.report new parse = [] ↔
      old.files = new.files ∧
        ∀ name ∈ new.files, old.difference? new parse name = none := by
  rw [Snapshot.report, List.append_eq_nil_iff, List.map_eq_nil_iff,
    List.filter_eq_nil_iff, List.filterMap_eq_nil_iff]
  constructor
  · rintro ⟨kept, quiet⟩
    have both : ∀ name, name ∈ old.files ↔ name ∈ new.files := by
      intro name
      constructor
      · intro member
        simpa using kept name member
      · intro member
        by_contra gone
        have entry := quiet name member
        rw [if_neg gone] at entry
        cases entry
    -- the same names in sorted order are the same list
    have perm := (List.perm_ext_iff_of_nodup oldSorted.nodup
      newSorted.nodup).mpr both
    have same : old.files = new.files := by
      apply List.Perm.eq_of_pairwise _ oldSorted newSorted perm
      intro first second _ _ less more
      exact absurd more (String.lt_asymm less)
    refine ⟨same, fun name member => ?_⟩
    have entry := quiet name member
    rwa [if_pos ((both name).mpr member)] at entry
  · rintro ⟨same, quiet⟩
    constructor
    · intro name member
      simpa [← same] using member
    · intro name member
      rw [if_pos (same ▸ member)]
      exact quiet name member

/-- A file is not looked at unless it stands on both sides in a known
dialect. -/
theorem attemptAt_eq_of_sharedBy
    (oldStands : old.In system) (newStands : new.In system)
    {other : FileSystem} {parser : Grammar.Parser}
    {name : String} (inNew : name ∈ new.files)
    (shared : name ∈ old.files → ∀ dialect, dialectOf? name = some dialect →
      old.SharedBy parse other parser dialect name ∧
        new.SharedBy parse other parser dialect name) :
    attemptAt other parser old.directory new.directory old.files name =
      attemptAt system parse old.directory new.directory old.files name := by
  rw [attemptAt, attemptAt]
  by_cases inOld : name ∈ old.files
  · rw [if_pos inOld, if_pos inOld]
    cases known : dialectOf? name with
    | none => rw [compare_unknown _ _ known, compare_unknown _ _ known]
    | some dialect =>
        obtain ⟨oldShared, newShared⟩ := shared inOld dialect known
        rw [compare_known _ _ known, compare_known _ _ known,
          symbols_eq_of_sharedBy oldStands inOld oldShared,
          symbols_eq_of_sharedBy newStands inNew newShared]
  · rw [if_neg inOld, if_neg inOld]

/-- Where two file systems and parsers agree on the files that are looked at,
the whole run is the same, remarks included. -/
theorem compareDirectories_eq_of_sharedBy
    (oldStands : old.In system) (newStands : new.In system)
    (oldDistinct : old.files.Nodup) (newDistinct : new.files.Nodup)
    {other : FileSystem} {parser : Grammar.Parser}
    (oldListed : Listing.outputFiles other old.directory [] true =
      .ok old.files)
    (newListed : Listing.outputFiles other new.directory [] true =
      .ok new.files)
    (shared : ∀ name ∈ old.files, name ∈ new.files →
      ∀ dialect, dialectOf? name = some dialect →
        old.SharedBy parse other parser dialect name ∧
          new.SharedBy parse other parser dialect name) :
    Output.compareDirectories other old.directory new.directory parser =
      Output.compareDirectories system old.directory new.directory parse := by
  have walk : new.files.mapM
        (attemptAt other parser old.directory new.directory old.files) =
      new.files.mapM
        (attemptAt system parse old.directory new.directory old.files) := by
    apply mapM_congr
    intro name inNew
    exact attemptAt_eq_of_sharedBy oldStands newStands inNew
      fun inOld => shared name inOld inNew
  rw [compareDirectories_eq oldListed newListed,
    compareDirectories_eq oldStands.listed newStands.listed,
    compare_eq oldDistinct newDistinct, compare_eq oldDistinct newDistinct,
    walk]

/-- Comparing two directories ends in a fault exactly when a file of both
fails, and then in that of the first such file; otherwise it gives the report
of the two listings, or nothing where they agree.  Other files are not
reduced. -/
theorem compareDirectories_outcome
    (system : FileSystem) (parse : Grammar.Parser) (old new : Snapshot)
    (proper : system.top.Proper)
    (oldStands : old.In system) (newStands : new.In system) :
    let outcome := Attempt.outcome (Output.compareDirectories system
      old.directory new.directory parse)
    (old.files.Pairwise (· < ·) ∧ new.files.Pairwise (· < ·)) ∧
    (∀ name, (∃ dialect, dialectOf? name = some dialect) ↔
      (Path.ofString name).extension ∈ ["ts", "tsx", "py", "pyi"]) ∧
    ((∃ fault, outcome = .error (.extraction fault)) ↔
      ∃ name, old.FailsAt new parse name) ∧
    ((∃ name, old.FailsAt new parse name) →
      ∃ name fault, old.FailsAt new parse name ∧
        (∀ earlier, old.FailsAt new parse earlier → name ≤ earlier) ∧
        old.FaultAt new parse name fault ∧
        outcome = .error (.extraction fault)) ∧
    ((¬∃ name, old.FailsAt new parse name) →
      (outcome = .ok none ↔
        old.files = new.files ∧
          ∀ name ∈ new.files, old.difference? new parse name = none) ∧
      (outcome ≠ .ok none →
        outcome = .ok (some (.mk "Generated Output Files" .outline
          (old.report new parse))))) ∧
    (∀ (other : FileSystem) (parser : Grammar.Parser),
      Listing.outputFiles other old.directory [] true = .ok old.files →
      Listing.outputFiles other new.directory [] true = .ok new.files →
      (∀ name ∈ old.files, name ∈ new.files →
        ∀ dialect, dialectOf? name = some dialect →
          old.SharedBy parse other parser dialect name ∧
            new.SharedBy parse other parser dialect name) →
      Output.compareDirectories other old.directory new.directory parser =
        Output.compareDirectories system old.directory new.directory
          parse) := by
  intro outcome
  have oldSorted := Listing.pairwise_outputFiles proper oldStands.listed
  have newSorted := Listing.pairwise_outputFiles proper newStands.listed
  have firstFault : (∃ name, old.FailsAt new parse name) →
      ∃ name fault, old.FailsAt new parse name ∧
        (∀ earlier, old.FailsAt new parse earlier → name ≤ earlier) ∧
        old.FaultAt new parse name fault ∧
        outcome = .error (.extraction fault) := by
    rintro ⟨some, someFails⟩
    obtain ⟨name, fails, first⟩ := exists_first_failing newSorted someFails
    obtain ⟨inOld, inNew, fault, faulty⟩ :=
      (Snapshot.failsAt_iff name).mp fails
    exact ⟨name, fault, fails, first, faulty,
      outcome_of_first_fault oldStands newStands oldSorted.nodup newSorted
        inOld inNew faulty first⟩
  have reported (sound : ¬∃ name, old.FailsAt new parse name) :
      outcome = .ok (outlined Output.label (old.report new parse)) :=
    outcome_of_sound oldStands newStands oldSorted.nodup newSorted.nodup
      (not_exists.mp sound)
  refine ⟨⟨oldSorted, newSorted⟩, exists_dialectOf?_iff, ⟨?_, ?_⟩, firstFault,
    fun sound => ⟨?_, ?_⟩, ?_⟩
  · rintro ⟨fault, failed⟩
    by_contra sound
    rw [reported sound] at failed
    cases failed
  · intro failing
    obtain ⟨_, fault, _, _, _, failed⟩ := firstFault failing
    exact ⟨fault, failed⟩
  · rw [reported sound, ← report_eq_nil_iff oldSorted newSorted]
    cases old.report new parse with
    | nil => simp [outlined]
    | cons node rest => simp [outlined]
  · rw [reported sound]
    cases old.report new parse with
    | nil => simp [outlined]
    | cons node rest => simp [outlined, Output.label]
  · intro other parser oldListed newListed shared
    exact compareDirectories_eq_of_sharedBy oldStands newStands
      oldSorted.nodup newSorted.nodup oldListed newListed shared

/-- One file changes, one goes and one comes; only the changed one is
reduced. -/
theorem compareDirectories_outcome_alias :
    let leaf (start : Nat) (role : String) : Tree :=
      .node { kind := "type_identifier", start, stop := start + 1, role } []
    let tree : Tree :=
      .node { kind := "program", stop := 10 }
        [.node { kind := "type_alias_declaration", stop := 10 }
          [leaf 5 "name", leaf 9 "value"]]
    let parse : Grammar.Parser := fun _ _ => tree
    let oldText := "type A = X".toUTF8
    let newText := "type A = Y".toUTF8
    let system : FileSystem := {
      top := .directory
        [("new", .directory [("c.py", .file newText), ("a.ts", .file newText)]),
          ("old", .directory [("b.md", .file oldText), ("a.ts", .file oldText)])]
      working := ⟨.root, []⟩
      home := .ofString "/" }
    let old : Snapshot := ⟨.ofString "/old", ["a.ts", "b.md"], fun _ => oldText⟩
    let new : Snapshot := ⟨.ofString "/new", ["a.ts", "c.py"], fun _ => newText⟩
    system.top.Proper ∧ old.In system ∧ new.In system ∧
      Attempt.outcome (Output.compareDirectories system old.directory
          new.directory parse) =
        .ok (some (.mk "Generated Output Files" .outline
          [.removed "b.md",
            .mk "a.ts" .changed
              [.mk "Type Aliases" .outline
                [.mk "A" .changed [.replaced "Type" "X" "Y"]]],
            .added "c.py"])) := by
  intro leaf tree parse oldText newText system old new
  have proper : system.top.Proper := by
    simp [system, Entry.Proper, Entry.ProperEach, Entry.IsName]
  have oldStands : old.In system := by
    refine ⟨by cbv, fun name listed => ?_⟩
    rcases List.mem_pair.mp listed with rfl | rfl
    · cbv
    · cbv
  have newStands : new.In system := by
    refine ⟨by cbv, fun name listed => ?_⟩
    rcases List.mem_pair.mp listed with rfl | rfl
    · cbv
    · cbv
  have known : dialectOf? "a.ts" = some .typescript := by cbv
  have first : old.symbols parse .typescript "a.ts" =
      .ok { types := [{ name := "A", type := "X" }] } := by decide +kernel
  have second : new.symbols parse .typescript "a.ts" =
      .ok { types := [{ name := "A", type := "Y" }] } := by decide +kernel
  have sound : ¬∃ name, old.FailsAt new parse name := by
    rintro ⟨name, inOld, inNew, fault, failed⟩
    have common : name = "a.ts" := by
      rcases List.mem_pair.mp inOld with rfl | rfl
      · rfl
      · exact absurd inNew (by decide)
    subst common
    rw [Snapshot.fails_iff known, Snapshot.fails_iff known, first,
      second] at failed
    simp at failed
  have difference : old.difference? new parse "a.ts" =
      some (.mk "a.ts" .changed [.mk "Type Aliases" .outline
        [.mk "A" .changed [.replaced "Type" "X" "Y"]]]) := by
    unfold Snapshot.difference?
    simp only [known, first, second]
    cbv
  obtain ⟨_, _, _, _, reported, _⟩ :=
    compareDirectories_outcome system parse old new proper oldStands newStands
  obtain ⟨agrees, report⟩ := reported sound
  have differs : old.files ≠ new.files := by decide
  refine ⟨proper, oldStands, newStands, ?_⟩
  rw [report fun nothing => differs (agrees.mp nothing).1]
  have oldFiles : old.files = ["a.ts", "b.md"] := rfl
  have newFiles : new.files = ["a.ts", "c.py"] := rfl
  rw [Snapshot.report, oldFiles, newFiles]
  simp [difference]

end Snapshots

end SymbolDiff
