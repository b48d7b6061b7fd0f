import SymbolDiff.Output
import SymbolDiff.Proofs.Outcome

/-!
# Snapshots of output

A snapshot is a directory with the files listed in it and what each of them
holds.  For two snapshots of one file system this file says how the comparison
of a single file ends: in the fault of its old version, else in that of its
new version, else in the difference of the two.
-/

namespace SymbolDiff

open Outcome

namespace Attempt

variable {α β : Type}

/-- What an attempt ends with, without the remarks made on the way. -/
def outcome (attempt : Attempt α) : Except Failure α :=
  attempt.run.value

@[simp] theorem outcome_pure (value : α) :
    outcome (pure value : Attempt α) = .ok value :=
  rfl

@[simp] theorem outcome_throw (failure : Failure) :
    outcome (throw failure : Attempt α) = .error failure :=
  rfl

@[simp] theorem outcome_lift (traced : Traced α) :
    outcome (ExceptT.lift traced : Attempt α) = .ok traced.value :=
  rfl

@[simp] theorem outcome_remark (remark : Remark) :
    outcome (Attempt.remark remark) = .ok () :=
  rfl

@[simp] theorem outcome_bind (first : Attempt α) (next : α → Attempt β) :
    outcome (first >>= next) =
      outcome first >>= fun result => outcome (next result) := by
  rw [outcome, ExceptT.run_bind, Traced.value_bind, outcome]
  cases first.run.value with
  | ok result => rfl
  | error failure => rfl

@[simp] theorem outcome_mapM (step : α → Attempt β) (items : List α) :
    outcome (items.mapM step) = items.mapM fun item => outcome (step item) := by
  induction items with
  | nil => rfl
  | cons item rest induction =>
      simp only [List.mapM_cons, outcome_bind, outcome_pure, induction]
      rfl

end Attempt

/-- The dialect of a file, going by the ending of its name. -/
def dialectOf? (name : String) : Option Dialect :=
  Dialect.ofExtension? (Path.ofString name).extension

theorem exists_dialectOf?_iff (name : String) :
    (∃ dialect, dialectOf? name = some dialect) ↔
      (Path.ofString name).extension ∈ ["ts", "tsx", "py", "pyi"] := by
  rw [dialectOf?, ← Option.isSome_iff_exists]
  generalize (Path.ofString name).extension = ending
  simp only [Dialect.ofExtension?, dialectsByExtension, Option.isSome_map,
    List.find?_isSome]
  simp [eq_comm, or_comm, or_left_comm]

/-- An output directory as it stands, with what its files hold. -/
structure Snapshot where
  directory : Path
  files : List String
  content : String → ByteArray

namespace Snapshot

/-- The snapshot shows the directory of a file system. -/
structure In (snapshot : Snapshot) (system : FileSystem) : Prop where
  listed : Listing.outputFiles system snapshot.directory [] true =
    .ok snapshot.files
  readable : ∀ name ∈ snapshot.files,
    system.read (snapshot.directory.child name) = .ok (snapshot.content name)

/-- The symbols of a file in a dialect. -/
def symbols (snapshot : Snapshot) (parse : Grammar.Parser) (dialect : Dialect)
    (name : String) : Except Extract.Fault Source :=
  Extract.ofRoot dialect (snapshot.content name)
    (parse dialect (snapshot.content name))

/-- A file in a known dialect cannot be reduced to its symbols; the fault
tells its path. -/
def Fails (snapshot : Snapshot) (parse : Grammar.Parser) (name : String)
    (fault : Extract.Fault) : Prop :=
  ∃ dialect found, dialectOf? name = some dialect ∧
    snapshot.symbols parse dialect name = .error found ∧
    fault = found.inFile (snapshot.directory.child name)

/-- Another file system holds a file as the snapshot shows it, and another
parser makes the same tree of it. -/
structure SharedBy (snapshot : Snapshot) (parse : Grammar.Parser)
    (other : FileSystem) (parser : Grammar.Parser) (dialect : Dialect)
    (name : String) : Prop where
  content : other.read (snapshot.directory.child name) =
    .ok (snapshot.content name)
  tree : parser dialect (snapshot.content name) =
    parse dialect (snapshot.content name)

variable (old new : Snapshot) (parse : Grammar.Parser)

/-- The fault of a file that stands on both sides: the one of the old side if
there is one, else that of the new side. -/
def FaultAt (name : String) (fault : Extract.Fault) : Prop :=
  old.Fails parse name fault ∨
    (∀ other, ¬old.Fails parse name other) ∧ new.Fails parse name fault

/-- How the two versions of a file differ, if it is in a known dialect. -/
def difference? (name : String) : Option Node :=
  match dialectOf? name with
  | none => none
  | some dialect =>
      match old.symbols parse dialect name, new.symbols parse dialect name with
      | .ok first, .ok second => (compareSource name first second).value
      | _, _ => none

/-- Removed files first, then what becomes of the new files in their order. -/
def report : List Node :=
  (old.files.filter fun name => name ∉ new.files).map .removed ++
    new.files.filterMap fun name =>
      if name ∈ old.files then old.difference? new parse name
      else some (.added name)

end Snapshot

section Files

variable {system : FileSystem} {parse : Grammar.Parser}
variable {old new : Snapshot} {name : String}

theorem value_ofSource (dialect : Dialect) (source : ByteArray) :
    (Extract.ofSource dialect source parse).value =
      Extract.ofRoot dialect source (parse dialect source) := by
  rw [Extract.ofSource, Extract.ofTree]
  cases Extract.firstErrorLine source (parse dialect source) with
  | none => rfl
  | some line => rfl

/-- The symbols of a file, or the fault with its path. -/
theorem outcome_symbols {snapshot : Snapshot} (stands : snapshot.In system)
    (listed : name ∈ snapshot.files) (dialect : Dialect) :
    Attempt.outcome
        (OutputFile.symbols system dialect ⟨name, snapshot.directory⟩ parse) =
      (snapshot.symbols parse dialect name).mapError fun fault =>
        .extraction (fault.inFile (snapshot.directory.child name)) := by
  have content := stands.readable name listed
  rw [OutputFile.symbols, OutputFile.path, content]
  simp only [Attempt.outcome_bind, Attempt.outcome_lift, value_ofSource, ok_bind,
    Snapshot.symbols]
  cases Extract.ofRoot dialect (snapshot.content name)
      (parse dialect (snapshot.content name)) with
  | ok source => rfl
  | error fault => rfl

/-- A shared file has the same symbols, with the same remarks. -/
theorem symbols_eq_of_sharedBy {snapshot : Snapshot}
    (stands : snapshot.In system) (listed : name ∈ snapshot.files)
    {other : FileSystem} {parser : Grammar.Parser} {dialect : Dialect}
    (shared : snapshot.SharedBy parse other parser dialect name) :
    OutputFile.symbols other dialect ⟨name, snapshot.directory⟩ parser =
      OutputFile.symbols system dialect ⟨name, snapshot.directory⟩ parse := by
  rw [OutputFile.symbols, OutputFile.symbols, OutputFile.path, shared.content,
    stands.readable name listed]
  dsimp only
  rw [Extract.ofSource, Extract.ofSource, shared.tree]

theorem ofExtension?_extension (name : String) (base : Path) :
    Dialect.ofExtension? (OutputFile.extension ⟨name, base⟩) =
      dialectOf? name :=
  rfl

theorem compare_unknown (first second : Path)
    (unknown : dialectOf? name = none) :
    OutputFile.compare system ⟨name, first⟩ ⟨name, second⟩ parse = (do
      Attempt.remark (.noComparer name)
      return none) := by
  unfold OutputFile.compare
  rw [ofExtension?_extension, unknown]

/-- In a known dialect the old version is reduced first, then the new one. -/
theorem compare_known (first second : Path) {dialect : Dialect}
    (known : dialectOf? name = some dialect) :
    OutputFile.compare system ⟨name, first⟩ ⟨name, second⟩ parse = (do
      let oldSymbols ← OutputFile.symbols system dialect ⟨name, first⟩ parse
      let newSymbols ← OutputFile.symbols system dialect ⟨name, second⟩ parse
      ExceptT.lift (compareSource name oldSymbols newSymbols)) := by
  unfold OutputFile.compare
  rw [ofExtension?_extension, known]

theorem outcome_compare_known
    (oldStands : old.In system) (newStands : new.In system)
    (inOld : name ∈ old.files) (inNew : name ∈ new.files)
    {dialect : Dialect} (known : dialectOf? name = some dialect) :
    Attempt.outcome
        (OutputFile.compare system ⟨name, old.directory⟩
          ⟨name, new.directory⟩ parse) = (do
      let first ← (old.symbols parse dialect name).mapError fun fault =>
        .extraction (fault.inFile (old.directory.child name))
      let second ← (new.symbols parse dialect name).mapError fun fault =>
        .extraction (fault.inFile (new.directory.child name))
      return (compareSource name first second).value) := by
  rw [compare_known _ _ known]
  simp only [Attempt.outcome_bind, Attempt.outcome_lift,
    outcome_symbols oldStands inOld, outcome_symbols newStands inNew]
  rfl

theorem Snapshot.fails_iff {snapshot : Snapshot} {dialect : Dialect}
    (known : dialectOf? name = some dialect) (fault : Extract.Fault) :
    snapshot.Fails parse name fault ↔
      ∃ found, snapshot.symbols parse dialect name = .error found ∧
        fault = found.inFile (snapshot.directory.child name) := by
  simp [Fails, known]

/-- A file that stands on both sides ends in its fault, if it has one. -/
theorem outcome_compare_of_faultAt
    (oldStands : old.In system) (newStands : new.In system)
    (inOld : name ∈ old.files) (inNew : name ∈ new.files)
    {fault : Extract.Fault} (faulty : old.FaultAt new parse name fault) :
    Attempt.outcome
        (OutputFile.compare system ⟨name, old.directory⟩
          ⟨name, new.directory⟩ parse) =
      .error (.extraction fault) := by
  rcases faulty with ⟨dialect, found, known, failed, rfl⟩ |
    ⟨sound, dialect, found, known, failed, rfl⟩
  · rw [outcome_compare_known oldStands newStands inOld inNew known, failed]
    rfl
  · rw [outcome_compare_known oldStands newStands inOld inNew known, failed]
    cases reduced : old.symbols parse dialect name with
    | ok source => rfl
    | error other =>
        have fails := (Snapshot.fails_iff known _).mpr ⟨other, reduced, rfl⟩
        exact absurd fails (sound _)

/-- Without a fault on either side the versions are compared. -/
theorem outcome_compare_of_sound
    (oldStands : old.In system) (newStands : new.In system)
    (inOld : name ∈ old.files) (inNew : name ∈ new.files)
    (sound : ∀ fault, ¬old.FaultAt new parse name fault) :
    Attempt.outcome
        (OutputFile.compare system ⟨name, old.directory⟩
          ⟨name, new.directory⟩ parse) =
      .ok (old.difference? new parse name) := by
  unfold Snapshot.difference?
  cases known : dialectOf? name with
  | none =>
      rw [compare_unknown _ _ known]
      rfl
  | some dialect =>
      rw [outcome_compare_known oldStands newStands inOld inNew known]
      cases first : old.symbols parse dialect name with
      | error found =>
          have fails := (Snapshot.fails_iff known _).mpr ⟨found, first, rfl⟩
          exact absurd (.inl fails) (sound _)
      | ok source =>
          cases second : new.symbols parse dialect name with
          | ok other =>
              simp only [first, second]
              rfl
          | error found =>
              have fails := (Snapshot.fails_iff known _).mpr
                ⟨found, second, rfl⟩
              refine absurd (.inr ⟨fun other failed => ?_, fails⟩) (sound _)
              obtain ⟨impossible, same, _⟩ :=
                (Snapshot.fails_iff known other).mp failed
              rw [first] at same
              cases same

end Files

end SymbolDiff
