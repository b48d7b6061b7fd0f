import SymbolDiff.Proofs.FileSystem.Way
import SymbolDiff.Proofs.Output.Directories
import SymbolDiff.Proofs.Path.Reading

/-!
# Folders

A folder is a directory of a file system together with the way to it.  What is
listed in it and what its files hold depends on the folder alone, as long as
no symbolic link leads out of it.  Two folders are therefore compared alike in
all file systems in which they stand.
-/

namespace SymbolDiff

open FileSystem

/-- A directory by a path that leads to it, its place, the number of symbolic
links that may still be followed there and what it holds. -/
structure Folder where
  path : Path
  place : List String
  left : Nat
  entries : List (String × Entry)

namespace Folder

structure In (folder : Folder) (system : FileSystem) : Prop where
  arrives : arrival system.top linkLimit [] (system.absolute folder.path).names =
    .ok (folder.left, folder.place.reverse)
  firm : ∀ position ∈ system.way folder.path, Firm system.top position
  there : system.top.find? folder.place = some (.directory folder.entries)

/-- The symbolic links in the folder lead nowhere apart from it. -/
def Inward (folder : Folder) : Prop :=
  ∀ top : Entry, top.find? folder.place = some (.directory folder.entries) →
    ∀ names target,
      (Entry.directory folder.entries).find? names = some (.link target) →
      ∀ links, ∀ position ∈ trail top links folder.place.reverse names,
        ¬Path.Apart position folder.place

variable {folder : Folder} {system other : FileSystem}

theorem In.locate (stands : folder.In system) {path : Path}
    (relative : path.anchor = .relative) :
    system.locate (folder.path.join path) =
      walk system.top true folder.left folder.place.reverse path.names := by
  have notAbsolute : path.isAbsolute = false := by
    simp [Path.isAbsolute, relative]
  have names : (system.absolute (folder.path.join path)).names =
      (system.absolute folder.path).names ++ path.names := by
    rw [absolute, Path.join_join, absolute]
    simp [Path.join, notAbsolute]
  rw [FileSystem.locate, names]
  exact walk_append stands.arrives stands.firm path.names

theorem In.stat? (stands : folder.In system) :
    system.stat? folder.path = some (.directory folder.entries) := by
  have relative : (Path.mk .relative []).anchor = .relative := rfl
  have here := stands.locate relative
  have same : folder.path.join ⟨.relative, []⟩ = folder.path := by
    simp [Path.join, Path.isAbsolute]
  rw [same, walk, List.reverse_reverse] at here
  rw [FileSystem.stat?, here]
  exact stands.there

/-- Along the line of the folder two file systems look the same. -/
theorem kind_eq (stands : folder.In system) (standsToo : folder.In other)
    {position : List String} (onLine : ¬Path.Apart position folder.place) :
    (other.top.find? position).map Entry.kind =
      (system.top.find? position).map Entry.kind := by
  rcases Path.apart_or_below_or_above position folder.place with
    away | ⟨names, rfl⟩ | ⟨above, proper⟩
  · exact absurd away onLine
  · rw [Entry.find?_below stands.there, Entry.find?_below standsToo.there]
  · obtain ⟨_, here⟩ := Entry.directory_of_find? stands.there above proper
    obtain ⟨_, there⟩ := Entry.directory_of_find? standsToo.there above proper
    rw [here, there]
    rfl

theorem In.trail_name (stands : folder.In system) (inward : folder.Inward)
    {name : String} (up : name ≠ "..") (links : Nat) :
    ∀ position ∈ trail system.top links folder.place.reverse [name],
      ¬Path.Apart position folder.place := by
  have here :
      (name :: folder.place.reverse).reverse = folder.place ++ [name] := by
    simp
  cases found : (Entry.directory folder.entries).linkAt? [name] with
  | some target =>
      exact inward system.top stands.there [name] target
        (Entry.linkAt?_eq_some_iff.mp found) links
  | none =>
      have plain : system.top.linkAt? (folder.place ++ [name]) = none := by
        rw [Entry.linkAt?, Entry.find?_below stands.there]
        exact found
      intro position member
      rw [trail, if_neg up, here, plain, trail, here] at member
      have same : position = folder.place ++ [name] := by simpa using member
      rw [same]
      exact fun away => away.2 (List.prefix_append _ _)

/-- The file under a name of the folder is the same in all file systems. -/
theorem file_eq (stands : folder.In system) (standsToo : folder.In other)
    (inward : folder.Inward) {name : String} (isName : Entry.IsName name)
    {content : ByteArray}
    (found : system.stat? (folder.path.child name) = some (.file content)) :
    other.stat? (folder.path.child name) = some (.file content) := by
  have read := Path.ofString_of_isName isName
  have relative : (Path.ofString name).anchor = .relative := by rw [read]
  have online := stands.trail_name inward isName.2.2.1 folder.left
  have names : (Path.ofString name).names = [name] := by rw [read]
  rw [Path.child, FileSystem.stat?, stands.locate relative, names] at found
  rw [Path.child, FileSystem.stat?, standsToo.locate relative, names,
    walk_congr fun position member =>
      kind_eq stands standsToo (online position member)]
  cases leads : walk system.top true folder.left folder.place.reverse [name] with
  | error fault =>
      rw [leads] at found
      cases found
  | ok place =>
      rw [leads] at found
      dsimp only at found ⊢
      rcases Path.apart_or_below_or_above place folder.place with
        away | ⟨rest, rfl⟩ | ⟨above, proper⟩
      · exact absurd away (online place (mem_trail_of_walk leads))
      · rw [Entry.find?_below stands.there] at found
        rw [Entry.find?_below standsToo.there, found]
      · -- above the folder there are only directories
        obtain ⟨_, here⟩ := Entry.directory_of_find? stands.there above proper
        rw [here] at found
        cases found

theorem ownRules_eq (stands : folder.In system) (standsToo : folder.In other)
    (inward : folder.Inward) :
    Listing.ownRules other folder.path = Listing.ownRules system folder.path := by
  have isName : Entry.IsName Listing.ignoreFileName := by decide
  unfold Listing.ownRules
  split
  · rename_i content found
    rw [file_eq standsToo stands inward isName found]
  · rename_i missing
    split
    · rename_i content found
      exact absurd (file_eq stands standsToo inward isName found)
        (missing content)
    · rfl

theorem outputFiles_eq (stands : folder.In system) (standsToo : folder.In other)
    (inward : folder.Inward) :
    Listing.outputFiles other folder.path [] true =
      Listing.outputFiles system folder.path [] true := by
  rw [Listing.outputFiles_of_directory stands.stat?,
    Listing.outputFiles_of_directory standsToo.stat?, Listing.rulesFor,
    Listing.rulesFor, ownRules_eq stands standsToo inward]

theorem names_of_listed (stands : folder.In system) {files : List String}
    (listed : Listing.outputFiles system folder.path [] true = .ok files)
    {name : String} (member : name ∈ files) :
    ∃ names ∈ Listing.regularFiles (.directory folder.entries),
      name = Path.posix names := by
  obtain ⟨entries, rules, paths, reached, kept, rfl⟩ :=
    Listing.outputFiles_eq_ok listed
  rw [stands.stat?] at reached
  cases reached
  have inPaths : name ∈ paths := (List.mergeSort_perm paths _).mem_iff.mp member
  obtain ⟨names, isFile, rfl⟩ :=
    List.mem_map.mp ((Listing.sublist_of_keep kept).subset inPaths)
  exact ⟨names, isFile, rfl⟩

/-- A listed file holds the same in all file systems. -/
theorem read_eq (stands : folder.In system) (standsToo : folder.In other)
    (proper : Entry.ProperEach folder.entries) {files : List String}
    (listed : Listing.outputFiles system folder.path [] true = .ok files)
    {name : String} (member : name ∈ files) :
    ∃ content, system.read (folder.path.child name) = .ok content ∧
      other.read (folder.path.child name) = .ok content := by
  obtain ⟨names, isFile, rfl⟩ := names_of_listed stands listed member
  obtain ⟨some, areNames⟩ := Listing.names_of_mem_regularFiles proper isFile
  obtain ⟨downward, content, found⟩ :=
    Listing.mem_regularFiles_iff_find?.mp isFile
  have path := Path.ofString_posix some areNames
  have readIn : ∀ {system : FileSystem}, folder.In system →
      system.read (folder.path.child (Path.posix names)) = .ok content := by
    intro system stands
    have here : system.top.find? (folder.place ++ names) =
        Option.some (.file content) := by
      rw [Entry.find?_below stands.there, found]
    have noLink : system.top.linkAt? (folder.place ++ names) = none := by
      rw [Entry.linkAt?, here]
    have leads : walk system.top true folder.left folder.place.reverse names =
        .ok (folder.place ++ names) := walk_of_find? downward here noLink
    rw [Path.child, path, FileSystem.read, stands.locate rfl, leads]
    dsimp only
    rw [here]
  exact ⟨content, readIn stands, readIn standsToo⟩

theorem sorted_files (stands : folder.In system)
    (proper : Entry.ProperEach folder.entries) {files : List String}
    (listed : Listing.outputFiles system folder.path [] true = .ok files) :
    files.Pairwise (· < ·) := by
  obtain ⟨entries, rules, paths, reached, kept, rfl⟩ :=
    Listing.outputFiles_eq_ok listed
  rw [stands.stat?] at reached
  cases reached
  have all := Listing.nodup_regularFiles proper
  exact Text.pairwise_lt_inOrder ((Listing.sublist_of_keep kept).nodup all)

def snapshot (folder : Folder) (system : FileSystem) (files : List String) :
    Snapshot where
  directory := folder.path
  files := files
  content name :=
    match system.read (folder.path.child name) with
    | .ok content => content
    | .error _ => .empty

theorem snapshot_in (stands : folder.In system)
    (proper : Entry.ProperEach folder.entries) {files : List String}
    (listed : Listing.outputFiles system folder.path [] true = .ok files) :
    (folder.snapshot system files).In system := by
  refine ⟨listed, ?_⟩
  intro name member
  obtain ⟨content, here, _⟩ := read_eq stands stands proper listed member
  simp only [snapshot, here]

theorem snapshot_sharedBy (stands : folder.In system)
    (standsToo : folder.In other)
    (proper : Entry.ProperEach folder.entries) {files : List String}
    (listed : Listing.outputFiles system folder.path [] true = .ok files)
    {name : String} (member : name ∈ files) (parse : Grammar.Parser)
    (dialect : Dialect) :
    (folder.snapshot system files).SharedBy parse other parse dialect name := by
  obtain ⟨content, here, there⟩ := read_eq stands standsToo proper listed member
  refine ⟨?_, rfl⟩
  simp only [snapshot, here, there]

section Two

variable {old new : Folder} {oldFiles newFiles : List String}
variable (parse : Grammar.Parser)
variable (oldStands : old.In system) (newStands : new.In system)
variable (oldProper : Entry.ProperEach old.entries)
variable (newProper : Entry.ProperEach new.entries)
variable (oldListed : Listing.outputFiles system old.path [] true = .ok oldFiles)
variable (newListed : Listing.outputFiles system new.path [] true = .ok newFiles)

include oldStands newStands oldProper newProper oldListed newListed

/-- Two folders are compared alike in all file systems in which they stand. -/
theorem compareDirectories_eq_of_in (oldToo : old.In other)
    (newToo : new.In other)
    (oldInward : old.Inward) (newInward : new.Inward) :
    Output.compareDirectories other old.path new.path parse =
      Output.compareDirectories system old.path new.path parse := by
  have oldListedToo :
      Listing.outputFiles other old.path [] true = .ok oldFiles := by
    rw [outputFiles_eq oldStands oldToo oldInward, oldListed]
  have newListedToo :
      Listing.outputFiles other new.path [] true = .ok newFiles := by
    rw [outputFiles_eq newStands newToo newInward, newListed]
  apply compareDirectories_eq_of_sharedBy
    (snapshot_in oldStands oldProper oldListed)
    (snapshot_in newStands newProper newListed)
    (sorted_files oldStands oldProper oldListed).nodup
    (sorted_files newStands newProper newListed).nodup oldListedToo newListedToo
  intro name inOld inNew dialect _
  exact ⟨snapshot_sharedBy oldStands oldToo oldProper oldListed inOld _ dialect,
    snapshot_sharedBy newStands newToo newProper newListed inNew _ dialect⟩

/-- A comparison of two folders fails only where a file cannot be reduced. -/
theorem compareDirectories_ends :
    (∃ diff, Attempt.outcome
      (Output.compareDirectories system old.path new.path parse) = .ok diff) ∨
    ∃ fault, Attempt.outcome
      (Output.compareDirectories system old.path new.path parse) =
        .error (.extraction fault) := by
  let first := old.snapshot system oldFiles
  let second := new.snapshot system newFiles
  have firstIn : first.In system := snapshot_in oldStands oldProper oldListed
  have secondIn : second.In system := snapshot_in newStands newProper newListed
  have firstSorted : first.files.Pairwise (· < ·) :=
    sorted_files oldStands oldProper oldListed
  have secondSorted : second.files.Pairwise (· < ·) :=
    sorted_files newStands newProper newListed
  by_cases fails : ∃ name, first.FailsAt second parse name
  · obtain ⟨some, someFails⟩ := fails
    obtain ⟨name, failing, earliest⟩ :=
      exists_first_failing secondSorted someFails
    obtain ⟨inOld, inNew, fault, faulty⟩ :=
      (Snapshot.failsAt_iff name).mp failing
    have failed := outcome_of_first_fault firstIn secondIn firstSorted.nodup
      secondSorted inOld inNew faulty earliest
    exact .inr ⟨fault, failed⟩
  · have reported := outcome_of_sound firstIn secondIn firstSorted.nodup
      secondSorted.nodup (not_exists.mp fails)
    exact .inl ⟨_, reported⟩

end Two

end Folder

end SymbolDiff
