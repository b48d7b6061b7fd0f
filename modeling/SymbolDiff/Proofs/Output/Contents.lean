import Mathlib
import SymbolDiff.Proofs.Output.Folder

/-!
# What is listed of a directory

A listing goes through the entries of a directory as they are stored.  Here it
is said in terms of paths alone which files are listed: those that are regular
files themselves and to which real directories lead, unless the ignore file of
the directory or a pattern leaves them out.  The directory may be reached over
symbolic links; below it none is followed.
-/

namespace SymbolDiff

namespace FileSystem

/-- What stands at a path itself: symbolic links are followed on the way to it
but not at its end. -/
def lstat? (system : FileSystem) (path : Path) : Option Entry :=
  match system.locate path.parent with
  | .ok place => system.top.find? (place ++ [path.name])
  | .error _ => none

/-- The names lead from a directory over real directories to a regular file
that is no symbolic link. -/
structure RegularBelow (system : FileSystem) (directory : Path)
    (names : List String) : Prop where
  nonempty : names ≠ []
  areNames : ∀ name ∈ names, Entry.IsName name
  through : ∀ between, between ≠ [] → between <+: names → between ≠ names →
    ∃ entries, system.lstat? (directory.join ⟨.relative, between⟩) =
      some (.directory entries)
  regular : ∃ content, system.lstat? (directory.join ⟨.relative, names⟩) =
    some (.file content)

end FileSystem

namespace Folder

open FileSystem

variable {folder : Folder} {system : FileSystem}

theorem exists_in {directory : Path} {entries : List (String × Entry)}
    (reached : system.stat? directory = some (.directory entries)) :
    ∃ place left, Folder.In ⟨directory, place, left, entries⟩ system := by
  rw [FileSystem.stat?] at reached
  split at reached
  · rename_i place leads
    obtain ⟨left, arrives⟩ := arrival_of_walk leads
    exact ⟨place, left, arrives, firm_of_walk leads reached, reached⟩
  · cases reached

/-- Below a real directory of the folder a path stands for what is stored
there. -/
theorem In.lstat?_eq (stands : folder.In system) {before : List String}
    (downward : ".." ∉ before) {inner : List (String × Entry)}
    (directory : (Entry.directory folder.entries).find? before =
      some (.directory inner)) (name : String) :
    system.lstat? (folder.path.join ⟨.relative, before ++ [name]⟩) =
      (Entry.directory folder.entries).find? (before ++ [name]) := by
  have parent : (folder.path.join ⟨.relative, before ++ [name]⟩).parent =
      folder.path.join ⟨.relative, before⟩ := by
    simp [Path.join, Path.isAbsolute, Path.parent]
  have last : (folder.path.join ⟨.relative, before ++ [name]⟩).name = name := by
    simp [Path.join, Path.isAbsolute, Path.name]
  have here : system.top.find? (folder.place ++ before) =
      some (.directory inner) := by
    rw [Entry.find?_below stands.there, directory]
  have leads : system.locate (folder.path.join ⟨.relative, before⟩) =
      .ok (folder.place ++ before) := by
    rw [stands.locate rfl]
    exact walk_of_find? downward here (Entry.linkAt?_of_directory here)
  rw [lstat?, parent, last, leads]
  dsimp only
  rw [List.append_assoc, Entry.find?_below stands.there]

theorem In.regularBelow_iff (stands : folder.In system) (names : List String) :
    system.RegularBelow folder.path names ↔
      names ≠ [] ∧ (∀ name ∈ names, Entry.IsName name) ∧
        ∃ content, (Entry.directory folder.entries).find? names =
          some (.file content) := by
  constructor
  · intro below
    have downward : ".." ∉ names := fun up => (below.areNames ".." up).2.2.1 rfl
    -- one real directory after the other, from the folder to the file
    have through : ∀ before, before <+: names → before ≠ names →
        ∃ inner, (Entry.directory folder.entries).find? before =
          some (.directory inner) := by
      intro before
      induction before using List.reverseRecOn with
      | nil =>
          intro _ _
          exact ⟨folder.entries, rfl⟩
      | append_singleton init last induction =>
          intro within proper
          have shorter : init <+: names :=
            (List.prefix_append init [last]).trans within
          have inner : init ≠ names := by
            intro same
            exact Path.not_concat_within init last (same ▸ within)
          obtain ⟨_, directory⟩ := induction shorter inner
          obtain ⟨entries, found⟩ := below.through _ (by simp) within proper
          rw [stands.lstat?_eq (fun up => downward (shorter.subset up))
            directory] at found
          exact ⟨entries, found⟩
    refine ⟨below.nonempty, below.areNames, ?_⟩
    obtain ⟨content, found⟩ := below.regular
    obtain ⟨init, last, rfl⟩ :=
      (List.eq_nil_or_concat' names).resolve_left below.nonempty
    obtain ⟨_, directory⟩ := through init (List.prefix_append init [last])
      (by simp)
    rw [stands.lstat?_eq (fun up => downward (List.mem_append_left _ up))
      directory] at found
    exact ⟨content, found⟩
  · rintro ⟨nonempty, areNames, content, found⟩
    have downward : ".." ∉ names := fun up => (areNames ".." up).2.2.1 rfl
    have stored : ∀ between, between ≠ [] → between <+: names →
        system.lstat? (folder.path.join ⟨.relative, between⟩) =
          (Entry.directory folder.entries).find? between := by
      intro between some within
      obtain ⟨init, last, rfl⟩ :=
        (List.eq_nil_or_concat' between).resolve_left some
      have shorter : init <+: names :=
        (List.prefix_append init [last]).trans within
      have proper : init ≠ names := by
        intro same
        exact Path.not_concat_within init last (same ▸ within)
      obtain ⟨_, directory⟩ := Entry.directory_of_find? found shorter proper
      exact stands.lstat?_eq (fun up => downward (shorter.subset up)) directory _
    refine ⟨nonempty, areNames, ?_, content, ?_⟩
    · intro between some within proper
      rw [stored between some within]
      exact Entry.directory_of_find? found within proper
    · rw [stored names nonempty List.prefix_rfl, found]

end Folder

namespace Listing

variable {system : FileSystem} {directory : Path} {respectIgnoreFile : Bool}
variable {rules : List Ignore.Rule} {excluded : List String}

/-- The rules of the directory are there and leave a path alone. -/
def Unignored (system : FileSystem) (directory : Path) (respectIgnoreFile : Bool)
    (path : String) : Prop :=
  ∃ rules, rulesFor system directory respectIgnoreFile = .ok rules ∧
    Ignore.ignores rules path = .ok false

theorem mem_regularFiles_iff {folder : Folder} (stands : folder.In system)
    (proper : Entry.ProperEach folder.entries) (path : String) :
    path ∈ (regularFiles (.directory folder.entries)).map Path.posix ↔
      ∃ names, path = Path.posix names ∧
        system.RegularBelow folder.path names := by
  rw [List.mem_map]
  simp only [stands.regularBelow_iff]
  constructor
  · rintro ⟨names, isFile, rfl⟩
    obtain ⟨some, areNames⟩ := names_of_mem_regularFiles proper isFile
    exact ⟨names, rfl, some, areNames, (mem_regularFiles_iff_find?.mp isFile).2⟩
  · rintro ⟨names, rfl, _, areNames, isFile⟩
    have downward : ".." ∉ names := fun up => (areNames ".." up).2.2.1 rfl
    exact ⟨names, mem_regularFiles_iff_find?.mpr ⟨downward, isFile⟩, rfl⟩

theorem mem_keep_iff {paths kept : List String}
    (done : keep rules excluded paths = .ok kept) (path : String) :
    path ∈ kept ↔ path ∈ paths ∧ Kept rules excluded path := by
  induction paths generalizing kept with
  | nil =>
      cases done
      simp
  | cons first rest induction =>
      obtain ⟨_, following, _, others, ⟨alone, rfl⟩ | ⟨left, rfl⟩⟩ :=
        keep_cons_eq_ok_iff.mp done
      · rw [List.mem_cons, List.mem_cons, induction others, or_and_right]
        apply or_congr_left
        constructor
        · rintro rfl
          exact ⟨rfl, alone⟩
        · exact And.left
      · rw [List.mem_cons, induction others, or_and_right]
        constructor
        · exact .inr
        · rintro (⟨rfl, alone⟩ | later)
          · exact absurd alone left
          · exact later

theorem exists_keep_iff {paths : List String} :
    (∃ kept, keep rules excluded paths = .ok kept) ↔
      ∀ path ∈ paths, ∃ ignored, Ignore.ignores rules path = .ok ignored := by
  induction paths with
  | nil => simp [keep]
  | cons first rest induction =>
      rw [List.forall_mem_cons, ← induction]
      simp only [keep_cons_eq_ok_iff]
      constructor
      · rintro ⟨_, ignored, following, judged, others, _⟩
        exact ⟨⟨ignored, judged⟩, following, others⟩
      · rintro ⟨⟨ignored, judged⟩, following, others⟩
        by_cases alone : Kept rules excluded first
        · exact ⟨_, ignored, following, judged, others, .inl ⟨alone, rfl⟩⟩
        · exact ⟨_, ignored, following, judged, others, .inr ⟨alone, rfl⟩⟩

theorem isDirectory_iff :
    system.isDirectory directory = true ↔
      ∃ entries, system.stat? directory = some (.directory entries) := by
  rw [FileSystem.isDirectory]
  split
  · rename_i entries reached
    simp [reached]
  · rename_i other
    simp only [Bool.false_eq_true, false_iff, not_exists]
    exact other

theorem outputFiles_eq_notDirectory_iff :
    outputFiles system directory excluded respectIgnoreFile =
        .error (.notDirectory directory) ↔
      system.isDirectory directory = false := by
  cases isDirectory : system.isDirectory directory with
  | true =>
      obtain ⟨entries, reached⟩ := isDirectory_iff.mp isDirectory
      rw [outputFiles_of_directory reached]
      split
      · simp
      · simp
  | false =>
      rw [outputFiles]
      split
      · rename_i entries reached
        rw [isDirectory_iff.mpr ⟨entries, reached⟩] at isDirectory
        cases isDirectory
      · simp

section Contents

variable {folder : Folder} (stands : folder.In system)
variable (proper : Entry.ProperEach folder.entries)

include stands proper

theorem exists_outputFiles_iff :
    (∃ files, outputFiles system folder.path excluded respectIgnoreFile =
        .ok files) ↔
      ∃ rules, rulesFor system folder.path respectIgnoreFile = .ok rules ∧
        ∀ names, system.RegularBelow folder.path names →
          ∃ ignored, Ignore.ignores rules (Path.posix names) = .ok ignored := by
  have judged : ∀ rules : List Ignore.Rule,
      (∃ paths, keep rules excluded
          ((regularFiles (.directory folder.entries)).map Path.posix) =
          .ok paths) ↔
        ∀ names, system.RegularBelow folder.path names →
          ∃ ignored, Ignore.ignores rules (Path.posix names) = .ok ignored := by
    intro rules
    rw [exists_keep_iff]
    simp only [mem_regularFiles_iff stands proper, forall_exists_index, and_imp]
    constructor
    · intro each names below
      exact each _ names rfl below
    · rintro each _ names rfl below
      exact each names below
  simp only [outputFiles_eq_ok_iff stands.stat?, ← judged]
  constructor
  · rintro ⟨_, rules, given, paths, kept, _⟩
    exact ⟨rules, given, paths, kept⟩
  · rintro ⟨rules, given, paths, kept⟩
    exact ⟨_, rules, given, paths, kept, rfl⟩

theorem mem_outputFiles_iff {files : List String}
    (done : outputFiles system folder.path excluded respectIgnoreFile = .ok files)
    (path : String) :
    path ∈ files ↔
      ∃ names, path = Path.posix names ∧ system.RegularBelow folder.path names ∧
        Unignored system folder.path respectIgnoreFile path ∧
        ∀ pattern ∈ excluded, Glob.admits pattern path = false := by
  obtain ⟨rules, given, paths, kept, rfl⟩ :=
    (outputFiles_eq_ok_iff stands.stat?).mp done
  have sorted : path ∈ Text.inOrder paths ↔ path ∈ paths :=
    (List.mergeSort_perm paths _).mem_iff
  have alone : Unignored system folder.path respectIgnoreFile path ↔
      Ignore.ignores rules path = .ok false := by
    simp [Unignored, given]
  rw [sorted, mem_keep_iff kept, mem_regularFiles_iff stands proper, Kept,
    ← alone, ← exists_and_right]
  simp only [and_assoc]

end Contents

/-- Only what is no directory cannot be listed as one, and a directory is
listed when its rules can be had and tell for each regular file below it
whether it is ignored.  The listing is strictly increasing, and it holds the
regular files below the directory that are not left out, and no others. -/
theorem outputFiles_exact (system : FileSystem) (proper : system.top.Proper)
    (directory : Path) (excluded : List String) (respectIgnoreFile : Bool) :
    let listed := outputFiles system directory excluded respectIgnoreFile
    (listed = .error (.notDirectory directory) ↔
      system.isDirectory directory = false) ∧
    (system.isDirectory directory = true →
      ((∃ files, listed = .ok files) ↔
        ∃ rules, rulesFor system directory respectIgnoreFile = .ok rules ∧
          ∀ names, system.RegularBelow directory names →
            ∃ ignored, Ignore.ignores rules (Path.posix names) = .ok ignored)) ∧
    ∀ files, listed = .ok files →
      files.Pairwise (· < ·) ∧
      ∀ path, path ∈ files ↔
        ∃ names, path = Path.posix names ∧ system.RegularBelow directory names ∧
          Unignored system directory respectIgnoreFile path ∧
          ∀ pattern ∈ excluded, Glob.admits pattern path = false := by
  intro listed
  refine ⟨outputFiles_eq_notDirectory_iff, ?_, ?_⟩
  · intro isDirectory
    obtain ⟨entries, reached⟩ := isDirectory_iff.mp isDirectory
    obtain ⟨place, left, stands⟩ := Folder.exists_in reached
    exact exists_outputFiles_iff stands
      (FileSystem.proper_of_stat? proper reached)
  · intro files done
    obtain ⟨entries, _, _, reached, _⟩ := outputFiles_eq_ok done
    obtain ⟨place, left, stands⟩ := Folder.exists_in reached
    refine ⟨pairwise_outputFiles proper done, ?_⟩
    exact mem_outputFiles_iff stands
      (FileSystem.proper_of_stat? proper reached) done

/-- Reached over a link, a directory is listed without the links in it, one of
which leads back above it.  Whole paths are put in order. -/
theorem outputFiles_exact_linked :
    let inner : Entry := .directory
      [("x.py", .file "X = 1".toUTF8), ("up", .link "..")]
    let output : Entry := .directory
      [("a", inner), ("a.b", .file .empty), ("x.py", .link "a/x.py"),
        ("gone", .link "nowhere"), (".gitignore", .file "*.log".toUTF8),
        ("t.log", .file .empty)]
    let system : FileSystem := {
      top := .directory [("d", output), ("e", .link "d")]
      working := .ofString "/"
      home := .ofString "/home" }
    system.top.Proper ∧
      outputFiles system (.ofString "e") [] true =
        .ok [".gitignore", "a.b", "a/x.py"] ∧
      ∃ names, "a/x.py" = Path.posix names ∧
        system.RegularBelow (.ofString "e") names := by
  intro inner output system
  have proper : system.top.Proper := by
    simp only [system, output, inner, Entry.Proper, Entry.ProperEach]
    decide
  have reached : system.stat? (.ofString "e") = some output := by cbv
  have rules : rulesFor system (.ofString "e") true =
      .ok [⟨[.nameText, .text '.', .text 'l', .text 'o', .text 'g'], .exact,
        false, false⟩] := by cbv
  have kept : keep [⟨[.nameText, .text '.', .text 'l', .text 'o', .text 'g'],
        .exact, false, false⟩] [] ((regularFiles output).map Path.posix) =
      .ok ["a/x.py", "a.b", ".gitignore"] := by decide +kernel
  have sorted : Text.inOrder ["a/x.py", "a.b", ".gitignore"] =
      [".gitignore", "a.b", "a/x.py"] := by
    have same : ["a/x.py", "a.b", ".gitignore"].Perm
        [".gitignore", "a.b", "a/x.py"] := by decide
    rw [Text.inOrder_eq_of_perm same]
    exact List.mergeSort_of_pairwise (by decide +kernel)
  have done : outputFiles system (.ofString "e") [] true =
      .ok [".gitignore", "a.b", "a/x.py"] :=
    (outputFiles_eq_ok_iff reached).mpr ⟨_, rules, _, kept, sorted.symm⟩
  obtain ⟨_, _, contents⟩ :=
    outputFiles_exact system proper (.ofString "e") [] true
  obtain ⟨names, path, below, _⟩ :=
    ((contents _ done).2 "a/x.py").mp (by decide)
  exact ⟨proper, done, names, path, below⟩

end Listing

end SymbolDiff
