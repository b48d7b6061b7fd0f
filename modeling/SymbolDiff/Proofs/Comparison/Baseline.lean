import SymbolDiff.Proofs.Comparison.Depositing

/-!
# Reusing a baseline

A run that generates both sides and a run that reuses an earlier baseline
start the generator in different orders.  With directories that lie apart and
a dependable generator each comparison finds the same two folders in both, so
that the two runs end alike.
-/

namespace SymbolDiff

/-- The settings with the same reuse for every language. -/
def Settings.withReuse (settings : Settings) (reuse : Reuse) : Settings :=
  { settings with
    languages := settings.languages.map fun entry =>
      { entry with reuse := reuse } }

namespace Comparison

namespace Run

variable {α β : Type}

/-- A part of a run from where a session stands: its outcome, and the session
after it. -/
def on (part : Run α) (session : Session) : Except Failure α × Session :=
  ExceptT.run part session

@[simp] theorem on_pure (value : α) (session : Session) :
    on (pure value) session = (.ok value, session) :=
  rfl

theorem on_bind (part : Run α) (next : α → Run β) (session : Session) :
    on (part >>= next) session =
      match on part session with
      | (.ok value, later) => on (next value) later
      | (.error failure, later) => (.error failure, later) := by
  unfold on
  rw [ExceptT.run_bind]
  change StateT.bind _ _ session = _
  unfold StateT.bind
  cases ended : ExceptT.run part session with
  | mk outcome later =>
      cases outcome with
      | ok value => rfl
      | error failure => rfl

theorem on_bind_of_ok {part : Run α} {session later : Session} {value : α}
    (ended : on part session = (.ok value, later)) (next : α → Run β) :
    on (part >>= next) session = on (next value) later := by
  rw [on_bind, ended]

/-- Where each step keeps an invariant and its outcome depends on the item
alone, a walk along the items does so as well. -/
theorem on_mapM {step : α → Run β} {answer : α → Except Failure β}
    {keeps : Session → Prop} {items : List α}
    (each : ∀ item ∈ items, ∀ session, keeps session →
      (on (step item) session).1 = answer item ∧
        keeps (on (step item) session).2)
    {session : Session} (kept : keeps session) :
    (on (items.mapM step) session).1 = items.mapM answer ∧
      keeps (on (items.mapM step) session).2 := by
  induction items generalizing session with
  | nil =>
      rw [List.mapM_nil, List.mapM_nil, on_pure]
      exact ⟨rfl, kept⟩
  | cons item rest induction =>
      obtain ⟨answered, keptLater⟩ := each item List.mem_cons_self session kept
      rw [List.mapM_cons, List.mapM_cons, on_bind, ← answered]
      cases ended : on (step item) session with
      | mk outcome later =>
          rw [ended] at keptLater
          cases outcome with
          | error failure => exact ⟨rfl, keptLater⟩
          | ok value =>
              obtain ⟨restAnswered, keptLast⟩ := induction
                (fun next member => each next (List.mem_cons_of_mem item member))
                keptLater
              dsimp only
              rw [on_bind, Outcome.ok_bind, ← restAnswered]
              cases restEnded : on (rest.mapM step) later with
              | mk restOutcome last =>
                  rw [restEnded] at keptLast
                  cases restOutcome with
                  | error failure => exact ⟨rfl, keptLast⟩
                  | ok values => exact ⟨rfl, keptLast⟩

end Run

def Planned.withReuse (planned : Planned) (reuse : Reuse) : Planned :=
  { planned with language := { planned.language with reuse := reuse } }

def Planned.result (planned : Planned) (diff : Option Node) : SpecResult :=
  ⟨planned.language.language, planned.spec, diff⟩

section Steps

variable {generator : Generator} {parse : Grammar.Parser}
  {session later : Session}

theorem on_outputs_nothing {planned : Planned} {old new : Output}
    (oldDone : ((planned.old.generate generator).run session.system).1 = .ok old)
    (newDone : ((planned.new.generate generator).run
      (generated generator planned.old session.system)).1 = .ok new) :
    ∃ after, Run.on (outputs generator (planned.withReuse .nothing)) session =
        (.ok (old, new), after) ∧
      after.system = generated generator planned.new
        (generated generator planned.old session.system) := by
  have ended : (Run.on (outputs generator (planned.withReuse .nothing))
      session).1 = (do
        let first ← ((planned.old.generate generator).run session.system).1
        let second ← ((planned.new.generate generator).run
          (generated generator planned.old session.system)).1
        return (first, second)) := rfl
  rw [oldDone, newDone] at ended
  exact ⟨_, Prod.ext ended rfl, rfl⟩

theorem on_outputs_old {planned : Planned} {old new : Output}
    (existing : Output.existing session.system planned.old.output = .ok old)
    (newDone : ((planned.new.generate generator).run session.system).1 =
      .ok new) :
    ∃ after, Run.on (outputs generator (planned.withReuse .old)) session =
        (.ok (old, new), after) ∧
      after.system = generated generator planned.new session.system := by
  have looked : Run.on (Run.look fun system =>
      Output.existing system (planned.withReuse .old).old.output) session =
        (.ok old, session) := Prod.ext existing rfl
  have ran : Run.on (runRequest generator (planned.withReuse .old).new) session =
      (.ok new, (Run.on (runRequest generator planned.new) session).2) :=
    Prod.ext newDone rfl
  have ended : Run.on (outputs generator (planned.withReuse .old)) session =
      (.ok (old, new),
        (Run.on (runRequest generator planned.new) session).2) := by
    change Run.on (_ >>= _) session = _
    rw [Run.on_bind_of_ok looked, Run.on_bind_of_ok ran]
    rfl
  exact ⟨_, ended, rfl⟩

theorem on_comparePlanned {planned : Planned} {old new : Output}
    (ended : Run.on (outputs generator planned) session =
      (.ok (old, new), later)) :
    (Run.on (comparePlanned generator parse planned) session).1 =
        (Attempt.outcome (Output.compare later.system old new parse)).map
          planned.result ∧
      (Run.on (comparePlanned generator parse planned) session).2.system =
        later.system := by
  unfold comparePlanned
  rw [Run.on_bind_of_ok ended, Run.on_bind]
  have attempted : Run.on (Run.attempt fun system =>
      Output.compare system old new parse) later =
        (Attempt.outcome (Output.compare later.system old new parse),
          { later with remarks := later.remarks ++
              (Output.compare later.system old new parse).run.remarks }) := rfl
  rw [attempted]
  cases Attempt.outcome (Output.compare later.system old new parse) with
  | ok diff => exact ⟨rfl, rfl⟩
  | error failure => exact ⟨rfl, rfl⟩

end Steps

theorem plan_withReuse (settings : Settings) (reuse : Reuse) :
    plan (settings.withReuse reuse) =
      (plan settings).map fun planned => planned.withReuse reuse := by
  simp only [plan, Settings.withReuse, List.flatMap_map, List.map_flatMap,
    List.map_map]
  rfl

section Outcomes

variable {generator : Generator} (parse : Grammar.Parser) {settings : Settings}
variable {start system : FileSystem}
variable {content : List String → List (String × Entry)}

theorem old_mem_requests {planned : Planned} (member : planned ∈ plan settings) :
    planned.old ∈ requests settings :=
  List.mem_flatMap.mpr ⟨planned, member, List.mem_cons_self⟩

theorem new_mem_requests {planned : Planned} (member : planned ∈ plan settings) :
    planned.new ∈ requests settings :=
  List.mem_flatMap.mpr ⟨planned, member,
    List.mem_cons_of_mem _ List.mem_cons_self⟩

/-- An output shows the files that are listed in the directory of a request. -/
structure Shows (request : Request) (system : FileSystem) (output : Output) :
    Prop where
  directory : output.directory = request.output
  listed : Listing.outputFiles system request.output [] true = .ok output.files

theorem shows_of_existing {request : Request} {output : Output}
    (listed : Output.existing system request.output = .ok output) :
    Shows request system output := by
  unfold Output.existing at listed
  split at listed
  · rename_i files found
    cases listed
    exact ⟨rfl, found⟩
  · cases listed

theorem shows_of_generate {request : Request} {output : Output}
    (done : ((request.generate generator).run system).1 = .ok output) :
    Shows request (generated generator request system) output := by
  obtain ⟨_, found, existing, directory, files⟩ := existing_of_generate done
  have shows := shows_of_existing existing
  exact ⟨directory.trans shows.directory, files ▸ shows.listed⟩

theorem Shows.elsewhere {request : Request} {output : Output} {other : FileSystem}
    (shows : Shows request system output)
    (stands : (folderOf start content request).In system)
    (standsToo : (folderOf start content request).In other)
    (inward : (folderOf start content request).Inward) :
    Shows request other output := by
  have same := Folder.outputFiles_eq stands standsToo inward
  exact ⟨shows.directory, same.trans shows.listed⟩

/-- What the comparison of a pair finds when nothing else is generated. -/
def verdict (generator : Generator) (parse : Grammar.Parser) (start : FileSystem)
    (planned : Planned) : Except Failure (Option Node) :=
  let alone :=
    generated generator planned.new (generated generator planned.old start)
  Attempt.outcome
    (Output.compareDirectories alone planned.old.output planned.new.output parse)

/-- What is reported of a pair. -/
def answer (generator : Generator) (parse : Grammar.Parser) (start : FileSystem)
    (planned : Planned) : Except Failure SpecResult :=
  (verdict generator parse start planned).map planned.result

variable (separate : Separate start (requests settings))
variable (dependable : Dependable generator (requests settings) start content)

include separate dependable

theorem stands_pair
    (reached : Reached generator (requests settings) start system)
    {planned : Planned} (member : planned ∈ plan settings) :
    let later :=
      generated generator planned.new (generated generator planned.old system)
    Reached generator (requests settings) start later ∧
      (folderOf start content planned.old).In later ∧
      (folderOf start content planned.new).In later ∧
      ∃ old new,
        ((planned.old.generate generator).run system).1 = .ok old ∧
        ((planned.new.generate generator).run
          (generated generator planned.old system)).1 = .ok new ∧
        Shows planned.old later old ∧ Shows planned.new later new := by
  intro later
  have oldAsked := old_mem_requests member
  have newAsked := new_mem_requests member
  have between := reached.generated oldAsked
  have oldFirst := stands_generated separate dependable reached oldAsked
  have oldStands := stands_kept separate dependable between oldAsked newAsked
    oldFirst
  have newStands := stands_generated separate dependable between newAsked
  obtain ⟨old, oldDone⟩ := dependable.succeeds _ reached _ oldAsked
  obtain ⟨new, newDone⟩ := dependable.succeeds _ between _ newAsked
  have oldShows := (shows_of_generate oldDone).elsewhere oldFirst oldStands
    (dependable.inward _ oldAsked)
  exact ⟨between.generated newAsked, oldStands, newStands, old, new, oldDone,
    newDone, oldShows, shows_of_generate newDone⟩

/-- Wherever both folders of a pair stand, they are compared with one
outcome. -/
theorem outcome_compare_eq_verdict {planned : Planned}
    (member : planned ∈ plan settings) {old new : Output}
    (oldStands : (folderOf start content planned.old).In system)
    (newStands : (folderOf start content planned.new).In system)
    (oldShows : Shows planned.old system old)
    (newShows : Shows planned.new system new) :
    Attempt.outcome (Output.compare system old new parse) =
      verdict generator parse start planned := by
  have oldAsked := old_mem_requests member
  have newAsked := new_mem_requests member
  obtain ⟨_, oldAlone, newAlone, _⟩ :=
    stands_pair separate dependable .start member
  have alike := Folder.compareDirectories_eq_of_in parse oldStands newStands
    (dependable.proper _ oldAsked) (dependable.proper _ newAsked)
    oldShows.listed newShows.listed oldAlone newAlone
    (dependable.inward _ oldAsked) (dependable.inward _ newAsked)
  have shown : Output.compare system old new parse =
      Output.compareDirectories system planned.old.output planned.new.output
        parse := by
    rw [compareDirectories_eq oldShows.listed newShows.listed,
      ← oldShows.directory, ← newShows.directory]
    rfl
  rw [shown, verdict]
  exact congrArg Attempt.outcome alike.symm

/-- A pair is left without an answer only where a file cannot be reduced. -/
theorem answer_decided {planned : Planned} (member : planned ∈ plan settings) :
    Outcome.Decided (∃ diff, verdict generator parse start planned = .ok diff)
      (fun failure => ∃ fault, failure = .extraction fault)
      (answer generator parse start planned) := by
  obtain ⟨_, oldStands, newStands, _, _, _, _, oldShows, newShows⟩ :=
    stands_pair separate dependable .start member
  have ends := Folder.compareDirectories_ends parse oldStands newStands
    (dependable.proper _ (old_mem_requests member))
    (dependable.proper _ (new_mem_requests member))
    oldShows.listed newShows.listed
  have decided :
      Outcome.Decided (∃ diff, verdict generator parse start planned = .ok diff)
      (fun failure => ∃ fault, failure = .extraction fault)
      (verdict generator parse start planned) := by
    rcases ends with ⟨diff, found⟩ | ⟨fault, failed⟩
    · have found : verdict generator parse start planned = .ok diff := found
      rw [found]
      exact ⟨diff, rfl⟩
    · have failed : verdict generator parse start planned =
          .error (.extraction fault) := failed
      rw [failed]
      exact ⟨by simp, fault, rfl⟩
  exact decided.map planned.result

/-- A pair that is generated gets its answer, whatever was generated before. -/
theorem on_comparePlanned_nothing {planned : Planned}
    (member : planned ∈ plan settings) {session : Session}
    (reached : Reached generator (requests settings) start session.system) :
    (Run.on (comparePlanned generator parse (planned.withReuse .nothing))
      session).1 =
        answer generator parse start planned ∧
      Reached generator (requests settings) start
        (Run.on (comparePlanned generator parse (planned.withReuse .nothing))
          session).2.system := by
  obtain ⟨later, oldStands, newStands, old, new, oldDone, newDone, oldShows,
    newShows⟩ := stands_pair separate dependable reached member
  obtain ⟨after, both, system⟩ := on_outputs_nothing oldDone newDone
  obtain ⟨outcome, last⟩ := on_comparePlanned both
  rw [outcome, last, system, outcome_compare_eq_verdict parse separate dependable
    member     oldStands newStands oldShows newShows]
  exact ⟨rfl, later⟩

/-- A pair whose old side is there gets the same answer, and no old side is
lost. -/
theorem on_comparePlanned_old {planned : Planned}
    (member : planned ∈ plan settings) {session : Session}
    (reached : Reached generator (requests settings) start session.system)
    (baseline : ∀ other ∈ plan settings,
      (folderOf start content other.old).In session.system) :
    (Run.on (comparePlanned generator parse (planned.withReuse .old)) session).1 =
        answer generator parse start planned ∧
      Reached generator (requests settings) start
        (Run.on (comparePlanned generator parse (planned.withReuse .old))
          session).2.system ∧
      ∀ other ∈ plan settings, (folderOf start content other.old).In
        (Run.on (comparePlanned generator parse (planned.withReuse .old))
          session).2.system := by
  have oldAsked := old_mem_requests member
  have newAsked := new_mem_requests member
  -- the old side is listed as it was when it was generated
  obtain ⟨first, firstDone⟩ := dependable.succeeds _ .start _ oldAsked
  have firstShows := (shows_of_generate firstDone).elsewhere
    (stands_generated separate dependable .start oldAsked)
    (baseline planned member) (dependable.inward _ oldAsked)
  have existing := (existing_of_listed firstShows.listed).2
  obtain ⟨new, newDone⟩ := dependable.succeeds _ reached _ newAsked
  obtain ⟨after, both, system⟩ := on_outputs_old existing newDone
  have kept : ∀ other ∈ plan settings, (folderOf start content other.old).In
      (generated generator planned.new session.system) := by
    intro other otherMember
    exact stands_kept separate dependable reached
      (old_mem_requests otherMember) newAsked (baseline other otherMember)
  have oldShows := (shows_of_existing existing).elsewhere
    (baseline planned member) (kept planned member) (dependable.inward _ oldAsked)
  obtain ⟨outcome, last⟩ := on_comparePlanned both
  rw [outcome, last, system, outcome_compare_eq_verdict parse separate dependable
    member     (kept planned member)
    (stands_generated separate dependable reached newAsked) oldShows
    (shows_of_generate newDone)]
  exact ⟨rfl, reached.generated newAsked, kept⟩

/-- After a baseline the old side of every pair stands. -/
theorem on_baseline {runs : List Planned} (within : ∀ planned ∈ runs,
      planned ∈ plan settings) {session : Session}
    (reached : Reached generator (requests settings) start session.system) :
    ∃ outputs later,
      Run.on (runs.mapM fun planned => runRequest generator planned.old) session =
        (.ok outputs, later) ∧
      Reached generator (requests settings) start later.system ∧
      (∀ request ∈ requests settings,
        (folderOf start content request).In session.system →
          (folderOf start content request).In later.system) ∧
      ∀ planned ∈ runs, (folderOf start content planned.old).In later.system := by
  induction runs generalizing session with
  | nil => exact ⟨[], session, rfl, reached, fun _ _ stands => stands, by simp⟩
  | cons planned rest induction =>
      rw [List.forall_mem_cons] at within
      have asked := old_mem_requests within.1
      obtain ⟨output, done⟩ := dependable.succeeds _ reached _ asked
      have ran : Run.on (runRequest generator planned.old) session =
          (.ok output, (Run.on (runRequest generator planned.old) session).2) :=
        Prod.ext done rfl
      have onward : Reached generator (requests settings) start
          (Run.on (runRequest generator planned.old) session).2.system :=
        reached.generated asked
      obtain ⟨outputs, later, ended, reachedLater, kept, stand⟩ :=
        induction within.2 onward
      refine ⟨output :: outputs, later, ?_, reachedLater, ?_, ?_⟩
      · rw [List.mapM_cons, Run.on_bind_of_ok ran, Run.on_bind_of_ok ended]
        rfl
      · intro request requestAsked stands
        apply kept request requestAsked
        exact stands_kept separate dependable reached requestAsked asked stands
      · rw [List.forall_mem_cons]
        refine ⟨kept planned.old asked ?_, stand⟩
        exact stands_generated separate dependable reached asked

end Outcomes

theorem on_run_of_checked {generator : Generator} {parse : Grammar.Parser}
    {settings : Settings} {session : Session}
    (checked : checkReused session.system (plan settings) = .ok ()) :
    Run.on (run generator settings parse) session =
      ((Run.on ((plan settings).mapM (comparePlanned generator parse))
          session).1.map fun specs => ⟨summary specs, specs⟩,
        (Run.on ((plan settings).mapM (comparePlanned generator parse))
          session).2) := by
  have looked : Run.on (Run.look fun system =>
      checkReused system (plan settings)) session = (.ok (), session) :=
    Prod.ext checked rfl
  unfold run
  dsimp only
  rw [Run.on_bind_of_ok looked, Run.on_bind]
  cases Run.on ((plan settings).mapM (comparePlanned generator parse))
      session with
  | mk outcome later =>
      cases outcome with
      | ok specs => rfl
      | error failure => rfl

theorem checkReused_nothing (system : FileSystem) (settings : Settings) :
    checkReused system (plan (settings.withReuse .nothing)) = .ok () := by
  have nothing : (plan (settings.withReuse .nothing)).flatMap Planned.reused =
      [] := by
    rw [plan_withReuse, List.flatMap_map, List.flatMap_eq_nil_iff]
    intro planned _
    rfl
  rw [checkReused, nothing]
  rfl

theorem checkReused_old {system : FileSystem} {settings : Settings}
    (there : ∀ planned ∈ plan settings,
      system.isDirectory planned.old.output = true) :
    checkReused system (plan (settings.withReuse .old)) = .ok () := by
  have reused : (plan (settings.withReuse .old)).flatMap Planned.reused =
      (plan settings).map fun planned => planned.old.output := by
    rw [plan_withReuse, List.flatMap_map, List.map_eq_flatMap]
    rfl
  rw [checkReused, reused]
  apply Outcome.forM_eq_ok
  intro path member
  obtain ⟨planned, inPlan, rfl⟩ := List.mem_map.mp member
  rw [Output.require, if_pos (there planned inPlan)]

section Runs

variable {generator : Generator} (parse : Grammar.Parser) {settings : Settings}
variable {session : Session} {start : FileSystem}
  {content : List String → List (String × Entry)}
variable (separate : Separate start (requests settings))
variable (dependable : Dependable generator (requests settings) start content)
variable (reached : Reached generator (requests settings) start session.system)

include separate dependable reached

theorem outcome_run_nothing :
    (Run.on (run generator (settings.withReuse .nothing) parse) session).1 =
      ((plan settings).mapM (answer generator parse start)).map
        fun specs => ⟨summary specs, specs⟩ := by
  have each : ∀ planned ∈ plan settings, ∀ session : Session,
      Reached generator (requests settings) start session.system → _ :=
    fun planned member session reached =>
      on_comparePlanned_nothing parse separate dependable member reached
  rw [on_run_of_checked (checkReused_nothing _ _), plan_withReuse, List.mapM_map]
  exact congrArg (Except.map _) (Run.on_mapM each reached).1

theorem outcome_run_old
    (baseline : ∀ planned ∈ plan settings,
      (folderOf start content planned.old).In session.system) :
    (Run.on (run generator (settings.withReuse .old) parse) session).1 =
      ((plan settings).mapM (answer generator parse start)).map
        fun specs => ⟨summary specs, specs⟩ := by
  have there : ∀ planned ∈ plan settings,
      session.system.isDirectory planned.old.output = true := by
    intro planned member
    have found := (baseline planned member).stat?
    rw [folderOf] at found
    rw [FileSystem.isDirectory, found]
  have each : ∀ planned ∈ plan settings, ∀ session : Session,
      (Reached generator (requests settings) start session.system ∧
        ∀ other ∈ plan settings,
          (folderOf start content other.old).In session.system) → _ :=
    fun planned member session kept =>
      on_comparePlanned_old parse separate dependable member kept.1 kept.2
  rw [on_run_of_checked (checkReused_old there), plan_withReuse, List.mapM_map]
  exact congrArg (Except.map _) (Run.on_mapM each ⟨reached, baseline⟩).1

end Runs

/-- Reusing a baseline is faithful.  For directories that lie apart and a
dependable generator the baseline is made, and a run that reuses it ends like
a run that generates both sides: with the same results, or with the same fault
of a file that cannot be reduced. -/
theorem run_after_baseline (generator : Generator) (parse : Grammar.Parser)
    (settings : Settings)
    (session : Session) (content : List String → List (String × Entry))
    (separate : Separate session.system (requests settings))
    (dependable : Dependable generator (requests settings) session.system
      content) :
    let fresh :=
      (Run.on (run generator (settings.withReuse .nothing) parse) session).1
    (∃ outputs later,
      Run.on (generateBaseline generator settings) session =
        (.ok outputs, later) ∧
      ∀ next : Session, next.system = later.system →
        (Run.on (run generator (settings.withReuse .old) parse) next).1 = fresh) ∧
    ((∃ result, fresh = .ok result) ∨
      ∃ fault, fresh = .error (.extraction fault)) := by
  intro fresh
  have outcome := outcome_run_nothing parse separate dependable .start
  constructor
  · obtain ⟨outputs, later, made, reached, _, baseline⟩ :=
      on_baseline separate dependable (fun _ member => member) .start
    refine ⟨outputs, later, made, ?_⟩
    intro next same
    rw [← same] at reached baseline
    rw [outcome_run_old parse separate dependable reached baseline]
    exact outcome.symm
  · have decided := Outcome.Decided.mapM fun planned member =>
      answer_decided parse separate dependable member
    have ends := decided.map fun specs => Result.mk (summary specs) specs
    rw [← outcome] at ends
    change Outcome.Decided _ _ fresh at ends
    cases ended : fresh with
    | ok result => exact .inl ⟨result, rfl⟩
    | error failure =>
        rw [ended] at ends
        obtain ⟨fault, rfl⟩ := ends.2
        exact .inr ⟨fault, rfl⟩

/-- Two specifications, from an empty file system: the two sides differ in one
variable. -/
theorem run_after_baseline_variable :
    let settings : Settings := {
      specs := [{ paths := ["x.json", "y.json"] }]
      languages := [{ language := .python, output := .ofString "out",
                      oldArguments := ["--v1"], newArguments := ["--v2"] }] }
    let session : Session := {
      system := {
        top := .directory []
        working := ⟨.root, []⟩
        home := .ofString "/" } }
    let content (command : List String) : List (String × Entry) :=
      [("a.py", .file
        (if "--v1" ∈ command then "A = 1".toUTF8 else "A = 2".toUTF8))]
    let folder (command : List String) : List String :=
      ["out", if "x.json" ∈ command then "x" else "y",
        if "--v1" ∈ command then "old" else "new"]
    let generator := depositing folder content
    Separate session.system (requests settings) ∧
      Dependable generator (requests settings) session.system content ∧
      ∃ outputs later,
        Run.on (generateBaseline generator settings) session =
          (.ok outputs, later) ∧
        (Run.on (run generator (settings.withReuse .old)) later).1 =
          (Run.on (run generator (settings.withReuse .nothing)) session).1 := by
  intro settings session content folder generator
  have empty : ∀ names, session.system.top.find? names = none ∨
      session.system.top.find? names = some (.directory []) := by
    intro names
    cases names with
    | nil => exact .inr rfl
    | cons name rest => exact .inl rfl
  have linkless : session.system.Linkless := by
    intro names target
    rcases empty names with missing | found
    · simp [missing]
    · simp [found]
  have places := FileSystem.destination_of_linkless linkless
  have straight : ∀ request ∈ requests settings,
      ".." ∉ (session.system.absolute request.output).names := by
    decide +kernel
  have separate : Separate session.system (requests settings) :=
    .of_linkless linkless straight (by decide +kernel)
  have plain : ∀ command names target,
      (Entry.directory (content command)).find? names ≠ some (.link target) := by
    intro command names target
    cases names with
    | nil => simp [Entry.find?]
    | cons name rest =>
        simp only [content, Entry.find?, Entry.child?, Entry.lookup]
        by_cases same : "a.py" = name
        · cases rest with
          | nil => simp [same, Entry.find?]
          | cons next further => simp [same, Entry.find?, Entry.child?]
        · simp [same]
  have dependable : Dependable generator (requests settings) session.system
      content := by
    apply dependable_depositing separate
    · simp only [places]
      decide +kernel
    · simp only [places]
      decide +kernel
    · simp only [places]
      decide +kernel
    · intro request _ names _ _
      rcases empty names with missing | found
      · exact .inl missing
      · exact .inr ⟨[], found⟩
    · intro request _
      simp [content, Entry.ProperEach, Entry.Proper, Entry.IsName]
    · intro request _
      simp [content, Entry.lookup, Listing.ignoreFileName]
    · intro request _
      exact plain request.commandLine
  obtain ⟨⟨outputs, later, made, reused⟩, _⟩ :=
    run_after_baseline generator Grammar.treeOf settings session content separate
      dependable
  exact ⟨separate, dependable, outputs, later, made, reused later rfl⟩

end Comparison

end SymbolDiff
