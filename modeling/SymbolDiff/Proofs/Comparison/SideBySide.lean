import Mathlib
import SymbolDiff.Proofs.Comparison.Baseline
import SymbolDiff.Proofs.Comparison.Locations
import SymbolDiff.Proofs.Generator.Interleaving

/-!
# Both sides of a comparison at the same time

The folders of the old and the new generation lie next to each other.  What is
checked and listed of one of them depends on the way to their location and on
the folder itself, so that nothing of it changes with the other folder.  When
the generators keep to their folders, the order in which the steps of both
sides are made therefore does not matter.
-/

namespace SymbolDiff.Comparison

open FileSystem

/-- No symbolic link leads out of what stands at a place: it is none itself,
and those in it stay inside. -/
structure Enclosed (place : List String) (top : Entry) : Prop where
  plain : top.linkAt? place = none
  inward : ∀ folder : Folder, folder.place = place →
    top.find? place = some (.directory folder.entries) → folder.Inward

section Side

variable {start alone system : FileSystem} {location output : Path}
variable {name other : String} {place : List String}

/-- A path leads to a folder in a location, and the way to the location comes
neither into this folder nor into the other one. -/
structure Beside (start : FileSystem) (location output : Path)
    (name other : String) : Prop where
  below : ∀ system : FileSystem,
    (system.absolute output).names = (system.absolute location).names ++ [name]
  up : name ≠ ".."
  different : name ≠ other
  clearOfOwn : ∀ position ∈ start.way location,
    ¬start.destination location ++ [name] <+: position
  clearOfOther : ∀ position ∈ start.way location,
    ¬start.destination location ++ [other] <+: position

/-- The location is reached as at the start, and the folder in it is not a
symbolic link. -/
structure Intact (start : FileSystem) (location : Path) (name : String)
    (system : FileSystem) : Prop where
  arrives : arrival system.top linkLimit [] (system.absolute location).names =
    arrival start.top linkLimit [] (start.absolute location).names
  way : system.way location = start.way location
  plain : system.top.linkAt? (start.destination location ++ [name]) = none

theorem destination_of_arrival {left : Nat} {last : List String}
    (arrives : arrival start.top linkLimit [] (start.absolute location).names =
      .ok (left, last)) :
    start.destination location = last.reverse := by
  rw [destination, follow, walk_eq_arrival, arrives]
  rfl

theorem Intact.arrival_output (beside : Beside start location output name other)
    (intact : Intact start location name system) :
    arrival system.top linkLimit [] (system.absolute output).names =
      match arrival start.top linkLimit [] (start.absolute location).names with
      | .error fault => .error fault
      | .ok (left, last) => .ok (left, name :: last) := by
  rw [beside.below, arrival_append, intact.arrives]
  cases arrives :
      arrival start.top linkLimit [] (start.absolute location).names with
  | error fault => rfl
  | ok reached =>
      obtain ⟨left, last⟩ := reached
      have plain := intact.plain
      rw [destination_of_arrival arrives, ← List.reverse_cons] at plain
      dsimp only
      rw [arrival, if_neg beside.up, plain, arrival]

theorem Intact.place_of_locate (beside : Beside start location output name other)
    (intact : Intact start location name system)
    (leads : system.locate output = .ok place) :
    place = start.destination location ++ [name] := by
  obtain ⟨left, arrives⟩ := arrival_of_walk leads
  rw [intact.arrival_output beside] at arrives
  cases reached :
      arrival start.top linkLimit [] (start.absolute location).names with
  | error fault =>
      rw [reached] at arrives
      cases arrives
  | ok last =>
      rw [reached] at arrives
      obtain ⟨_, same⟩ := Prod.mk.inj (Except.ok.inj arrives)
      rw [destination_of_arrival reached, ← List.reverse_cons, same,
        List.reverse_reverse]

theorem Intact.mem_way (beside : Beside start location output name other)
    (intact : Intact start location name system) {position : List String}
    (onWay : position ∈ system.way output) :
    position ∈ start.way location ∨
      position = start.destination location ++ [name] := by
  rw [FileSystem.way, beside.below] at onWay
  rcases mem_trail_append onWay with before | ⟨left, last, arrives, atEnd⟩
  · left
    rw [← intact.way]
    exact before
  · right
    rw [intact.arrives] at arrives
    have plain := intact.plain
    rw [destination_of_arrival arrives, ← List.reverse_cons] at plain ⊢
    rw [trail, if_neg beside.up, plain, trail] at atEnd
    simpa using atEnd

/-- A check that succeeds has found the folder. -/
theorem Intact.stands (beside : Beside start location output name other)
    (intact : Intact start location name system)
    (isThere : system.isDirectory output = true) :
    ∃ entries, Folder.In ⟨output, start.destination location ++ [name],
      start.linksLeft location, entries⟩ system := by
  rw [isDirectory, stat?] at isThere
  cases leads : system.locate output with
  | error fault =>
      rw [leads] at isThere
      cases isThere
  | ok place =>
      rw [leads] at isThere
      dsimp only at isThere
      split at isThere
      · rename_i entries found
        obtain rfl := intact.place_of_locate beside leads
        refine ⟨entries, ?_, firm_of_walk leads found, found⟩
        obtain ⟨left, arrives⟩ := arrival_of_walk leads
        have expected := intact.arrival_output beside
        cases reached : arrival start.top linkLimit []
            (start.absolute location).names with
        | error fault =>
            rw [arrives, reached] at expected
            cases expected
        | ok last =>
            rw [arrives, reached] at expected
            obtain ⟨rfl, _⟩ := Prod.mk.inj (Except.ok.inj expected)
            rw [arrives, linksLeft, reached]
      · cases isThere

theorem outputFiles_of_missing {path : Path}
    (missing : system.isDirectory path = false) :
    Listing.outputFiles system path [] true = .error (.notDirectory path) := by
  cases found : system.stat? path with
  | none => rw [Listing.outputFiles, found]
  | some entry =>
      cases entry with
      | file content => rw [Listing.outputFiles, found]
      | link target => rw [Listing.outputFiles, found]
      | directory entries =>
          rw [isDirectory, found] at missing
          cases missing

section Change

variable (beside : Beside start location output name other)
variable (made : ChangedAt (start.destination location ++ [name]) start alone)
variable (enclosed : Enclosed (start.destination location ++ [name]) alone.top)
variable (differs : ChangedAt (start.destination location ++ [other]) alone
  system)

include beside differs in
theorem Beside.find?_eq :
    system.top.find? (start.destination location ++ [name]) =
      alone.top.find? (start.destination location ++ [name]) :=
  differs.elsewhere _ (Path.apart_siblings _ beside.different)

include beside made enclosed differs

theorem Beside.intact :
    Intact start location name alone ∧ Intact start location name system := by
  have before : Intact start location name alone := by
    obtain ⟨arrives, way⟩ := made.way_eq beside.clearOfOwn
    exact ⟨arrives, way, enclosed.plain⟩
  have clear : ∀ position ∈ alone.way location,
      ¬start.destination location ++ [other] <+: position := by
    rw [before.way]
    exact beside.clearOfOther
  obtain ⟨arrives, way⟩ := differs.way_eq clear
  refine ⟨before, arrives.trans before.arrives, way.trans before.way, ?_⟩
  rw [Entry.linkAt?, beside.find?_eq differs]
  exact enclosed.plain

/-- Where the folder is there, the other one does not change what is met on
the way. -/
theorem Beside.locate_eq {entries : List (String × Entry)}
    (there : alone.top.find? (start.destination location ++ [name]) =
      some (.directory entries)) :
    system.locate output = alone.locate output := by
  obtain ⟨before, _⟩ := beside.intact made enclosed differs
  have kept := beside.find?_eq differs
  rw [locate, locate, differs.absolute_eq]
  apply walk_congr
  intro position onWay
  rcases before.mem_way beside onWay with onWay | rfl
  · -- the way to the location meets the other side only in directories above it
    rcases Path.apart_or_below_or_above position
      (start.destination location ++ [other]) with
      apart | ⟨names, rfl⟩ | ⟨above, proper⟩
    · rw [differs.elsewhere position apart]
    · exact absurd (List.prefix_append _ names) (beside.clearOfOther _ onWay)
    · obtain ⟨within, strict⟩ := Path.above_sibling above proper name
      obtain ⟨_, first⟩ := Entry.directory_of_find? there within strict
      obtain ⟨_, second⟩ :=
        Entry.directory_of_find? (kept.trans there) within strict
      rw [first, second]
      rfl
  · rw [kept]

theorem Beside.stat?_eq {entries : List (String × Entry)}
    (there : alone.top.find? (start.destination location ++ [name]) =
      some (.directory entries)) :
    system.stat? output = alone.stat? output := by
  obtain ⟨before, _⟩ := beside.intact made enclosed differs
  rw [FileSystem.stat?, FileSystem.stat?,
    beside.locate_eq made enclosed differs there]
  cases leads : alone.locate output with
  | error fault => rfl
  | ok place =>
      obtain rfl := before.place_of_locate beside leads
      exact beside.find?_eq differs

/-- The check of a folder does not depend on the other one. -/
theorem Beside.isDirectory_eq :
    system.isDirectory output = alone.isDirectory output := by
  obtain ⟨before, after⟩ := beside.intact made enclosed differs
  have kept := beside.find?_eq differs
  rw [Bool.eq_iff_iff]
  constructor
  · intro isThere
    obtain ⟨entries, stands⟩ := after.stands beside isThere
    have there := kept.symm.trans stands.there
    rwa [isDirectory, ← beside.stat?_eq made enclosed differs there]
  · intro isThere
    obtain ⟨entries, stands⟩ := before.stands beside isThere
    rwa [isDirectory, beside.stat?_eq made enclosed differs stands.there]

/-- Neither does its listing, when no symbolic link leads out of it. -/
theorem Beside.existing_eq :
    Output.existing system output = Output.existing alone output := by
  obtain ⟨before, after⟩ := beside.intact made enclosed differs
  have kept := beside.find?_eq differs
  have checked := beside.isDirectory_eq made enclosed differs
  have listed : Listing.outputFiles system output [] true =
      Listing.outputFiles alone output [] true := by
    cases isThere : alone.isDirectory output with
    | false =>
        rw [outputFiles_of_missing isThere,
          outputFiles_of_missing (checked.trans isThere)]
    | true =>
        obtain ⟨entries, stands⟩ := before.stands beside isThere
        obtain ⟨others, standsToo⟩ := after.stands beside (checked.trans isThere)
        have same : Entry.directory others = Entry.directory entries := by
          apply Option.some.inj
          rw [← standsToo.there, ← stands.there]
          exact kept
        cases same
        exact Folder.outputFiles_eq stands standsToo
          (enclosed.inward _ rfl stands.there)
  rw [Output.existing, Output.existing, listed]

end Change

end Side

section Generation

variable {generator : Generator} {request : Request}
variable {own other : List String} {start alone : FileSystem}

/-- The generator of one side changes nothing but its own folder, takes no
notice of the other one and leaves no symbolic link that leads out of its
own. -/
structure KeepsTo (generator : Generator) (request : Request)
    (own other : List String) (start : FileSystem) : Prop where
  confined : (generator request.commandLine).Confined own other start
  enclosed : Enclosed own ((generator request.commandLine).run start).2.top

theorem confined_conclude
    (checked : ∀ system, ChangedAt other alone system →
      system.isDirectory request.output = alone.isDirectory request.output)
    (listed : ∀ system, ChangedAt other alone system →
      Output.existing system request.output =
        Output.existing alone request.output)
    (ending : Ending) : (request.conclude ending).Confined own other alone := by
  cases ending with
  | notStarted reason => exact trivial
  | exited code said errors =>
      rw [Request.conclude]
      split
      · apply Process.confined_look checked
        split
        · exact Process.confined_look listed trivial
        · exact trivial
      · exact trivial

/-- With its check and its listing a side keeps to its folder as its generator
does. -/
theorem KeepsTo.confined_generate {location : Path} {name sibling : String}
    (beside : Beside start location request.output name sibling)
    (keeps : KeepsTo generator request (start.destination location ++ [name])
      (start.destination location ++ [sibling]) start) :
    (request.generate generator).Confined (start.destination location ++ [name])
      (start.destination location ++ [sibling]) start := by
  obtain ⟨_, made⟩ := keeps.confined.run (.refl start)
  apply keeps.confined.andThen
  apply confined_conclude
  · intro system differs
    exact beside.isDirectory_eq made keeps.enclosed differs
  · intro system differs
    exact beside.existing_eq made keeps.enclosed differs

end Generation

namespace Planned

/-- The places of the folders of both sides. -/
def oldFolder (start : FileSystem) (planned : Planned) : List String :=
  start.destination planned.location ++ [oldDirectory]

def newFolder (start : FileSystem) (planned : Planned) : List String :=
  start.destination planned.location ++ [newDirectory]

/-- Both generators keep to their folders, and neither folder is read on the
way to their location. -/
structure Undisturbed (generator : Generator) (start : FileSystem)
    (planned : Planned) : Prop where
  way : ∀ position ∈ start.way planned.location,
    ¬planned.oldFolder start <+: position ∧ ¬planned.newFolder start <+: position
  old : KeepsTo generator planned.old (planned.oldFolder start)
    (planned.newFolder start) start
  new : KeepsTo generator planned.new (planned.newFolder start)
    (planned.oldFolder start) start

end Planned

section Pair

variable {generator : Generator} {settings : Settings} {planned : Planned}
variable {start : FileSystem}

theorem outputs_of_mem_plan (member : planned ∈ plan settings) :
    planned.old.output = planned.location.child oldDirectory ∧
      planned.new.output = planned.location.child newDirectory := by
  obtain ⟨language, _, specs, _, spec, _, rfl⟩ := mem_plan.mp member
  rw [location_planSpec]
  exact ⟨rfl, rfl⟩

theorem names_child (system : FileSystem) (path : Path) {name : String}
    (isName : Entry.IsName name) :
    (system.absolute (path.child name)).names =
      (system.absolute path).names ++ [name] := by
  rw [absolute, Path.child, Path.join_join, Path.ofString_of_isName isName]
  rfl

theorem Planned.Undisturbed.beside
    (undisturbed : planned.Undisturbed generator start)
    (member : planned ∈ plan settings) :
    Beside start planned.location planned.old.output oldDirectory newDirectory ∧
      Beside start planned.location planned.new.output newDirectory
        oldDirectory := by
  obtain ⟨old, new⟩ := outputs_of_mem_plan member
  have oldName : Entry.IsName oldDirectory := by decide
  have newName : Entry.IsName newDirectory := by decide
  constructor
  · refine ⟨?_, oldName.2.2.1, by decide, ?_, ?_⟩
    · intro system
      rw [old]
      exact names_child system _ oldName
    · exact fun position onWay => (undisturbed.way position onWay).1
    · exact fun position onWay => (undisturbed.way position onWay).2
  · refine ⟨?_, newName.2.2.1, by decide, ?_, ?_⟩
    · intro system
      rw [new]
      exact names_child system _ newName
    · exact fun position onWay => (undisturbed.way position onWay).2
    · exact fun position onWay => (undisturbed.way position onWay).1

theorem on_runPair (old new : Request) (session : Session) :
    (Run.on (runPair generator old new) session).1 =
      bothOf ((old.generate generator).run session.system).1
        ((new.generate generator).run
          (generated generator old session.system)).1 :=
  rfl

theorem bothOf_eq (old new : Except Failure Output) :
    bothOf old new = match old, new with
      | .error failure, _ => .error failure
      | .ok _, .error failure => .error failure
      | .ok first, .ok second => .ok (first, second) := by
  cases old with
  | error failure => rfl
  | ok first =>
      cases new with
      | error failure => rfl
      | ok second => rfl

/-- However the steps of both sides are mixed, they come to an end, the caller
ends only after both sides, and its outcome is that of the old side followed by
the new side: both results, else the failure of the old side, else that of the
new side. -/
theorem runPair_concurrent (generator : Generator) (settings : Settings)
    (planned : Planned) (session : Session) (member : planned ∈ plan settings)
    (undisturbed : planned.Undisturbed generator session.system) :
    let before := Concurrent.start session.system
      (planned.old.generate generator) (planned.new.generate generator)
    let sequential :=
      (Run.on (runPair generator planned.old planned.new) session).1
    (sequential =
      match ((planned.old.generate generator).run session.system).1,
          ((planned.new.generate generator).run
            (generated generator planned.old session.system)).1 with
      | .error failure, _ => .error failure
      | .ok _, .error failure => .error failure
      | .ok old, .ok new => .ok (old, new)) ∧
    before.Ends ∧
    ∀ state, before.Reaches state →
      ((∃ outcome, state.caller = .ended outcome) ∨
        ∃ later, Concurrent.Step state later) ∧
      ∀ outcome, state.caller = .ended outcome → outcome = sequential ∧
        (∃ result, state.old = .done result) ∧
          ∃ result, state.new = .done result := by
  intro before sequential
  obtain ⟨besideOld, besideNew⟩ := undisturbed.beside member
  have old := undisturbed.old.confined_generate besideOld
  have new := undisturbed.new.confined_generate besideNew
  have course : sequential = bothOf _ _ :=
    on_runPair planned.old planned.new session
  -- run after the old side, the new side has the result that it has alone
  have after : ChangedAt (planned.oldFolder session.system) session.system
      (generated generator planned.old session.system) :=
    (old.run (.refl session.system)).2
  have same := (new.run after).1
  have sound : Concurrent.Sound (planned.oldFolder session.system)
      (planned.newFolder session.system)
      ((planned.old.generate generator).run session.system).1
      ((planned.new.generate generator).run session.system).1 before :=
    ⟨⟨session.system, .refl _, old, rfl⟩, ⟨session.system, .refl _, new, rfl⟩,
      trivial⟩
  refine ⟨course.trans (bothOf_eq _ _), Concurrent.ends _ _ _ _, ?_⟩
  intro state reaches
  refine ⟨state.ended_or_step, ?_⟩
  intro outcome ended
  have informed := (sound.reaches reaches).informed
  rw [Concurrent.Informed, ended] at informed
  obtain ⟨rfl, oldDone, newDone⟩ := informed
  refine ⟨?_, ⟨_, oldDone⟩, ⟨_, newDone⟩⟩
  rw [course, same]

/-- Without links and `..` the way to a location comes into nothing that lies
in it. -/
theorem clear_of_linkless (linkless : start.Linkless) {location : Path}
    (downward : ".." ∉ (start.absolute location).names) (name : String) :
    ∀ position ∈ start.way location,
      ¬start.destination location ++ [name] <+: position := by
  intro position onWay inside
  have above := prefix_of_mem_trail (linkAt?_of_linkless linkless) downward onWay
  rw [destination_of_linkless linkless, Path.place_of_downward downward] at inside
  exact Path.not_concat_within _ name (inside.trans above)

section Deposits

variable {folder : List String → List String}
variable {content : List String → List (String × Entry)}
variable {base : List String} {name other : String} {command : List String}
variable {alone system : FileSystem} {entries : List (String × Entry)}

theorem openAbove_of_changedAt
    (changed : ChangedAt (base ++ [other]) alone system)
    (above : OpenAbove alone (base ++ [name])) :
    OpenAbove system (base ++ [name]) := by
  intro names within proper
  obtain ⟨withinOther, properOther⟩ := Path.above_sibling within proper other
  rcases changed.above names withinOther properOther with same | ⟨_, later⟩
  · rw [same]
    exact above names within proper
  · exact .inr later

theorem changedAt_put {place : List String} (above : OpenAbove system place) :
    ChangedAt place system
      { system with top := system.top.put place (.directory entries) } where
  working := rfl
  home := rfl
  elsewhere names away := Entry.find?_put_of_apart away _ _
  above names within proper := by
    have later := Entry.find?_put_self system.top place (.directory entries)
    exact .inr ⟨above names within proper,
      Entry.directory_of_find? later within proper⟩

theorem changedAt_put_beside
    (changed : ChangedAt (base ++ [other]) alone system) :
    ChangedAt (base ++ [other])
      { alone with top := alone.top.put (base ++ [name]) (.directory entries) }
      { system with
        top := system.top.put (base ++ [name]) (.directory entries) } where
  working := changed.working
  home := changed.home
  elsewhere names away := by
    dsimp only
    rcases Path.apart_or_below_or_above names (base ++ [name]) with
      apart | ⟨more, rfl⟩ | ⟨within, proper⟩
    · rw [Entry.find?_put_of_apart apart, Entry.find?_put_of_apart apart,
        changed.elsewhere names away]
    · rw [Entry.find?_below (Entry.find?_put_self _ _ _),
        Entry.find?_below (Entry.find?_put_self _ _ _)]
    · exact absurd (Path.above_sibling within proper other).1 away.1
  above names within proper := by
    obtain ⟨withinOwn, properOwn⟩ := Path.above_sibling within proper name
    have before := Entry.directory_of_find?
      (Entry.find?_put_self alone.top (base ++ [name]) (.directory entries))
      withinOwn properOwn
    have after := Entry.directory_of_find?
      (Entry.find?_put_self system.top (base ++ [name]) (.directory entries))
      withinOwn properOwn
    exact .inr ⟨.inr before, after⟩

/-- A generator that writes its folder anew keeps to it. -/
theorem keepsTo_depositing {request : Request}
    (own : folder request.commandLine = base ++ [name])
    (above : OpenAbove start (base ++ [name]))
    (linkless : ∀ names target,
      (Entry.directory (content request.commandLine)).find? names ≠
        some (.link target)) :
    KeepsTo (depositing folder content) request (base ++ [name]) (base ++ [other])
      start := by
  have written :
      ((depositing folder content request.commandLine).run start).2.top =
      start.top.put (base ++ [name])
        (.directory (content request.commandLine)) := by
    rw [← own]
    rfl
  have there := Entry.find?_put_self start.top (base ++ [name])
    (.directory (content request.commandLine))
  rw [← written] at there
  refine ⟨⟨?_, trivial⟩, Entry.linkAt?_of_directory there, ?_⟩
  · intro system differs
    rw [own]
    exact ⟨changedAt_put (openAbove_of_changedAt differs above),
      changedAt_put_beside differs, rfl⟩
  · intro stood _ found top _ names target isLink
    have same := Option.some.inj (there.symm.trans found)
    rw [← same] at isLink
    exact absurd isLink (linkless names target)

end Deposits

end Pair

/-- Both sides write into a location that is not there yet, and whichever of
them makes it first, the caller ends with both listings. -/
theorem runPair_concurrent_deposits :
    let specs : SpecSettings := { paths := ["x.json"] }
    let language : LanguageSettings := {
      language := .python, output := .ofString "out"
      oldArguments := ["old"], newArguments := ["new"] }
    let settings : Settings := { specs := [specs], languages := [language] }
    let planned := planSpec settings language specs "x.json"
    let session : Session := {
      system := {
        top := .directory []
        working := ⟨.root, []⟩
        home := .ofString "/" } }
    let side (command : List String) : String := command.getD 1 ""
    let generator := depositing (fun command => ["out", "x", side command])
      (fun command => [(side command, .file .empty)])
    let before := Concurrent.start session.system
      (planned.old.generate generator) (planned.new.generate generator)
    planned.Undisturbed generator session.system ∧ before.Ends ∧
    ∀ state outcome, before.Reaches state → state.caller = .ended outcome →
      outcome = .ok (⟨planned.old.output, ["old"], ""⟩,
        ⟨planned.new.output, ["new"], ""⟩) := by
  intro specs language settings planned session side generator before
  have member : planned ∈ plan settings := by
    simp [plan, settings, specs, planned]
  have linkless : session.system.Linkless := by
    intro names target
    cases names with
    | nil => simp [Entry.find?, session]
    | cons name rest => simp [Entry.find?, Entry.child?, Entry.lookup, session]
  have location : session.system.destination planned.location = ["out", "x"] := by
    cbv
  have downward : ".." ∉ (session.system.absolute planned.location).names := by
    decide
  have vacant : ∀ name, OpenAbove session.system (["out", "x"] ++ [name]) := by
    intro name names _ _
    cases names with
    | nil => exact .inr ⟨[], rfl⟩
    | cons first rest => exact .inl rfl
  have plain : ∀ command names target,
      (Entry.directory [(side command, .file .empty)]).find? names ≠
        some (.link target) := by
    intro command names target
    cases names with
    | nil => simp [Entry.find?]
    | cons name rest =>
        rw [Entry.find?, Entry.child?, Entry.lookup, Entry.lookup]
        split
        · rename_i found
          split at found
          · cases found
            cases rest with
            | nil => simp [Entry.find?]
            | cons next more => simp [Entry.find?, Entry.child?]
          · cases found
        · simp
  have undisturbed : planned.Undisturbed generator session.system := by
    refine ⟨?_, ?_, ?_⟩
    · intro position onWay
      exact ⟨clear_of_linkless linkless downward _ position onWay,
        clear_of_linkless linkless downward _ position onWay⟩
    · rw [Planned.oldFolder, Planned.newFolder, location]
      exact keepsTo_depositing rfl (vacant _) (plain _)
    · rw [Planned.oldFolder, Planned.newFolder, location]
      exact keepsTo_depositing rfl (vacant _) (plain _)
  obtain ⟨_, ends, states⟩ :=
    runPair_concurrent generator settings planned session member undisturbed
  have sequential :
      (Run.on (runPair generator planned.old planned.new) session).1 =
      .ok (⟨planned.old.output, ["old"], ""⟩,
        ⟨planned.new.output, ["new"], ""⟩) := by cbv
  refine ⟨undisturbed, ends, ?_⟩
  intro state outcome reaches ended
  rw [← sequential]
  exact ((states state reaches).2 outcome ended).1

end SymbolDiff.Comparison
