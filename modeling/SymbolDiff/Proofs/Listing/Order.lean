import Mathlib.Data.List.Nodup
import SymbolDiff.Proofs.Listing.Inside
import SymbolDiff.Proofs.Outcome

/-!
# Output files in order

In a file system the names in one directory are different and hold no slash.
The paths of its files are then different as well, because a path can be taken
apart at its slashes.  Leaving out what is ignored and sorting the rest gives a
list that is strictly increasing.
-/

namespace SymbolDiff

namespace Entry

/-- What something in a directory can be called. -/
def IsName (name : String) : Prop :=
  name ≠ "" ∧ name ≠ "." ∧ name ≠ ".." ∧ '/' ∉ name.toList

instance (name : String) : Decidable (IsName name) :=
  inferInstanceAs (Decidable (_ ∧ _))

mutual

/-- The names in each directory are names, and no two are the same. -/
def Proper : Entry → Prop
  | .file _ => True
  | .link _ => True
  | .directory entries => ProperEach entries

def ProperEach : List (String × Entry) → Prop
  | [] => True
  | (name, entry) :: rest =>
      IsName name ∧ name ∉ rest.map Prod.fst ∧ Proper entry ∧ ProperEach rest

end

theorem ProperEach.lookup {name : String} {found : Entry} :
    ∀ {entries : List (String × Entry)}, ProperEach entries →
      lookup name entries = some found → found.Proper
  | (key, entry) :: rest, proper, present => by
      obtain ⟨_, _, here, others⟩ := proper
      rw [Entry.lookup] at present
      split at present
      · cases present
        exact here
      · exact ProperEach.lookup others present

theorem Proper.find? {entry found : Entry} {names : List String}
    (proper : entry.Proper) (reached : entry.find? names = some found) :
    found.Proper := by
  induction names generalizing entry with
  | nil =>
      cases reached
      exact proper
  | cons name rest induction =>
      rw [Entry.find?] at reached
      cases next : entry.child? name with
      | none => simp [next] at reached
      | some child =>
          rw [next] at reached
          cases entry with
          | file content => cases next
          | link target => cases next
          | directory entries =>
              exact induction (ProperEach.lookup proper next) reached

mutual

/-- The names that lead to a leaf below an entry start with the entry's own
name, and all are names. -/
theorem names_of_mem_leavesAt {name : String} (isName : IsName name) :
    ∀ {entry : Entry}, entry.Proper → ∀ leaf ∈ leavesAt name entry,
      leaf.1.head? = some name ∧ ∀ part ∈ leaf.1, IsName part
  | .file _, _, leaf, member => by
      rw [leavesAt, List.mem_singleton] at member
      subst member
      simp [isName]
  | .link _, _, leaf, member => by
      rw [leavesAt, List.mem_singleton] at member
      subst member
      simp [isName]
  | .directory entries, proper, leaf, member => by
      rw [leavesAt, List.mem_map] at member
      obtain ⟨inner, inside, rfl⟩ := member
      have inner := (names_of_mem_leavesOf proper inner inside).2
      simp only [List.head?_cons, List.mem_cons, forall_eq_or_imp, true_and]
      exact ⟨isName, inner⟩

theorem names_of_mem_leavesOf :
    ∀ {entries : List (String × Entry)}, ProperEach entries →
      ∀ leaf ∈ leavesOf entries,
        (∃ name ∈ entries.map Prod.fst, leaf.1.head? = some name) ∧
          ∀ part ∈ leaf.1, IsName part
  | (name, entry) :: rest, proper, leaf, member => by
      obtain ⟨isName, _, here, others⟩ := proper
      rw [leavesOf, List.mem_append] at member
      rcases member with first | later
      · have found := names_of_mem_leavesAt isName here leaf first
        exact ⟨⟨name, List.mem_cons_self, found.1⟩, found.2⟩
      · obtain ⟨⟨other, listed, starts⟩, names⟩ :=
          names_of_mem_leavesOf others leaf later
        exact ⟨⟨other, List.mem_cons_of_mem name listed, starts⟩, names⟩

end

theorem path_of_mem_leavesOf {entries : List (String × Entry)}
    (proper : ProperEach entries) (leaf : List String × Entry)
    (member : leaf ∈ leavesOf entries) :
    leaf.1 ≠ [] ∧ ∀ part ∈ leaf.1, '/' ∉ part.toList := by
  obtain ⟨⟨_, _, starts⟩, names⟩ := names_of_mem_leavesOf proper leaf member
  constructor
  · intro empty
    rw [empty] at starts
    cases starts
  · intro part inPath
    exact (names part inPath).2.2.2

mutual

theorem find?_of_mem_leavesAt (name : String) :
    ∀ {entry : Entry}, entry.Proper → ∀ leaf ∈ leavesAt name entry,
      ∃ names, leaf.1 = name :: names ∧ entry.find? names = some leaf.2
  | .file _, _, leaf, member => by
      rw [leavesAt, List.mem_singleton] at member
      subst member
      exact ⟨[], rfl, rfl⟩
  | .link _, _, leaf, member => by
      rw [leavesAt, List.mem_singleton] at member
      subst member
      exact ⟨[], rfl, rfl⟩
  | .directory entries, proper, leaf, member => by
      rw [leavesAt, List.mem_map] at member
      obtain ⟨inner, inside, rfl⟩ := member
      exact ⟨inner.1, rfl, find?_of_mem_leavesOf proper inner inside⟩

/-- A leaf is found by its names. -/
theorem find?_of_mem_leavesOf :
    ∀ {entries : List (String × Entry)}, ProperEach entries →
      ∀ leaf ∈ leavesOf entries,
        (Entry.directory entries).find? leaf.1 = some leaf.2
  | (name, entry) :: rest, proper, leaf, member => by
      obtain ⟨_, fresh, here, others⟩ := proper
      rw [leavesOf, List.mem_append] at member
      rcases member with first | later
      · obtain ⟨names, path, found⟩ := find?_of_mem_leavesAt name here leaf first
        rw [path, Entry.find?, child?, Entry.lookup, if_pos rfl]
        exact found
      · have found := find?_of_mem_leavesOf others leaf later
        obtain ⟨⟨other, listed, starts⟩, _⟩ :=
          names_of_mem_leavesOf others leaf later
        obtain ⟨names, path⟩ := List.head?_eq_some_iff.mp starts
        have different : name ≠ other := fun same => fresh (same ▸ listed)
        rw [path, Entry.find?, child?] at found ⊢
        rw [Entry.lookup, if_neg different]
        exact found

end

mutual

theorem nodup_leavesAt (name : String) :
    ∀ {entry : Entry}, entry.Proper →
      ((leavesAt name entry).map Prod.fst).Nodup
  | .file _, _ => by simp [leavesAt]
  | .link _, _ => by simp [leavesAt]
  | .directory entries, proper => by
      have inner := nodup_leavesOf proper
      rw [leavesAt, List.map_map]
      have shifted := inner.map (List.cons_injective (a := name))
      rwa [List.map_map] at shifted

/-- No two leaves are reached by the same names. -/
theorem nodup_leavesOf :
    ∀ {entries : List (String × Entry)}, ProperEach entries →
      ((leavesOf entries).map Prod.fst).Nodup
  | [], _ => by simp [leavesOf]
  | (name, entry) :: rest, proper => by
      obtain ⟨isName, fresh, here, others⟩ := proper
      rw [leavesOf, List.map_append, List.nodup_append]
      refine ⟨nodup_leavesAt name here, nodup_leavesOf others, ?_⟩
      intro first inFirst second inSecond same
      obtain ⟨leaf, member, rfl⟩ := List.mem_map.mp inFirst
      obtain ⟨later, laterMember, rfl⟩ := List.mem_map.mp inSecond
      -- the first name tells the entry apart from those behind it
      have starts := (names_of_mem_leavesAt isName here leaf member).1
      obtain ⟨⟨other, listed, startsLater⟩, _⟩ :=
        names_of_mem_leavesOf others later laterMember
      rw [same, startsLater] at starts
      exact fresh (Option.some.inj starts ▸ listed)

end

end Entry

namespace Path

/-- Names are recovered from a path by taking it apart at its slashes. -/
theorem splitOn_posix {names : List String} (some : names ≠ [])
    (noSlash : ∀ name ∈ names, '/' ∉ name.toList) :
    (posix names).toList.splitOn '/' = names.map String.toList := by
  rw [posix, String.toList_intercalate]
  apply List.splitOn_intercalate
  · intro part member
    obtain ⟨name, inNames, rfl⟩ := List.mem_map.mp member
    exact noSlash name inNames
  · simpa using some

theorem posix_inj {first second : List String}
    (firstSome : first ≠ []) (secondSome : second ≠ [])
    (firstNames : ∀ name ∈ first, '/' ∉ name.toList)
    (secondNames : ∀ name ∈ second, '/' ∉ name.toList)
    (same : posix first = posix second) : first = second := by
  have parts := splitOn_posix firstSome firstNames
  rw [same, splitOn_posix secondSome secondNames] at parts
  exact (List.map_injective_iff.mpr (fun _ _ => String.toList_injective)
    parts).symm

end Path

theorem FileSystem.proper_of_stat? {system : FileSystem} {path : Path}
    {entry : Entry} (proper : system.top.Proper)
    (reached : system.stat? path = some entry) : entry.Proper := by
  rw [stat?] at reached
  split at reached
  · exact proper.find? reached
  · cases reached

/-- Texts that are different are strictly increasing in order. -/
theorem Text.pairwise_lt_inOrder {texts : List String}
    (different : texts.Nodup) : (inOrder texts).Pairwise (· < ·) := by
  have sorted : (inOrder texts).Nodup :=
    (List.mergeSort_perm texts notAfter).nodup_iff.mpr different
  apply (sorted.and (pairwise_inOrder texts)).imp
  rintro first second ⟨distinct, inPlace⟩
  rw [notAfter_iff] at inPlace
  apply Decidable.byContradiction
  intro outOfPlace
  exact distinct (String.le_antisymm inPlace outOfPlace)

namespace Listing

/-- The regular files of a directory are among its leaves. -/
theorem mem_leavesOf_of_mem {entries : List (String × Entry)}
    {names : List String}
    (member : names ∈ regularFiles (.directory entries)) :
    ∃ leaf, (names, leaf) ∈ Entry.leavesOf entries := by
  obtain ⟨leaf, isLeaf, rfl⟩ := List.mem_map.mp (List.mem_of_mem_filter member)
  exact ⟨leaf.2, isLeaf⟩

theorem names_of_mem_regularFiles {entries : List (String × Entry)}
    (proper : Entry.ProperEach entries) {names : List String}
    (member : names ∈ regularFiles (.directory entries)) :
    names ≠ [] ∧ ∀ name ∈ names, Entry.IsName name := by
  obtain ⟨leaf, isLeaf⟩ := mem_leavesOf_of_mem member
  exact ⟨(Entry.path_of_mem_leavesOf proper _ isLeaf).1,
    (Entry.names_of_mem_leavesOf proper _ isLeaf).2⟩

theorem nodup_regularFiles {entries : List (String × Entry)}
    (proper : Entry.ProperEach entries) :
    ((regularFiles (.directory entries)).map Path.posix).Nodup := by
  have different := Entry.nodup_leavesOf proper
  apply (different.filter _).map_on
  intro first firstMember second secondMember same
  obtain ⟨firstSome, firstNames⟩ := names_of_mem_regularFiles proper firstMember
  obtain ⟨secondSome, secondNames⟩ :=
    names_of_mem_regularFiles proper secondMember
  exact Path.posix_inj firstSome secondSome
    (fun name member => (firstNames name member).2.2.2)
    (fun name member => (secondNames name member).2.2.2) same

section Listed

variable {system : FileSystem} {directory : Path} {respectIgnoreFile : Bool}
variable {rules : List Ignore.Rule} {excluded : List String}

/-- The rules leave a path alone and no pattern admits it. -/
def Kept (rules : List Ignore.Rule) (excluded : List String) (path : String) :
    Prop :=
  Ignore.ignores rules path = .ok false ∧
    ∀ pattern ∈ excluded, Glob.admits pattern path = false

theorem keep_cons_eq_ok_iff {path : String} {rest kept : List String} :
    keep rules excluded (path :: rest) = .ok kept ↔
      ∃ ignored following, Ignore.ignores rules path = .ok ignored ∧
        keep rules excluded rest = .ok following ∧
        (Kept rules excluded path ∧ kept = path :: following ∨
          ¬Kept rules excluded path ∧ kept = following) := by
  rw [keep]
  simp only [Outcome.bind_eq_ok_iff]
  apply exists_congr
  intro ignored
  rw [← exists_and_left]
  apply exists_congr
  intro following
  apply and_congr_right
  intro judged
  apply and_congr_right
  intro _
  have verdict : Kept rules excluded path ↔
      ¬(ignored || excluded.any fun pattern => Glob.admits pattern path) =
        true := by
    simp [Kept, judged]
  split
  · rename_i left
    simp [verdict, left, eq_comm]
  · rename_i alone
    simp [verdict, alone, eq_comm]

/-- What is kept stands in the order in which it was found. -/
theorem sublist_of_keep {paths kept : List String}
    (done : keep rules excluded paths = .ok kept) : kept.Sublist paths := by
  induction paths generalizing kept with
  | nil =>
      cases done
      exact .slnil
  | cons path rest induction =>
      obtain ⟨_, following, _, others, ⟨_, rfl⟩ | ⟨_, rfl⟩⟩ :=
        keep_cons_eq_ok_iff.mp done
      · exact (induction others).cons_cons path
      · exact (induction others).cons path

/-- The rules that count for the files of a directory. -/
def rulesFor (system : FileSystem) (directory : Path) (respectIgnoreFile : Bool) :
    Except Ignore.Fault (List Ignore.Rule) :=
  if respectIgnoreFile then ownRules system directory else .ok []

/-- A directory is listed by its rules, and its paths are then sorted. -/
theorem outputFiles_of_directory {entries : List (String × Entry)}
    (reached : system.stat? directory = some (.directory entries)) :
    outputFiles system directory excluded respectIgnoreFile =
      match rulesFor system directory respectIgnoreFile >>= fun rules =>
          keep rules excluded
            ((regularFiles (.directory entries)).map Path.posix) with
      | .ok paths => .ok (Text.inOrder paths)
      | .error fault => .error (.ignoreFile fault) := by
  rw [outputFiles, reached]
  dsimp only
  rw [filesIn_eq reached]
  cases respectIgnoreFile with
  | false => rfl
  | true => rfl

theorem outputFiles_eq_ok_iff {entries : List (String × Entry)}
    (reached : system.stat? directory = some (.directory entries))
    {files : List String} :
    outputFiles system directory excluded respectIgnoreFile = .ok files ↔
      ∃ rules, rulesFor system directory respectIgnoreFile = .ok rules ∧
        ∃ paths, keep rules excluded
            ((regularFiles (.directory entries)).map Path.posix) = .ok paths ∧
          files = Text.inOrder paths := by
  rw [outputFiles_of_directory reached]
  cases rulesFor system directory respectIgnoreFile with
  | error fault => simp
  | ok rules =>
      simp only [Outcome.ok_bind, Except.ok.injEq, exists_eq_left']
      cases keep rules excluded
        ((regularFiles (.directory entries)).map Path.posix) with
      | error fault => simp
      | ok paths => simp [eq_comm]

/-- A listing starts from a directory and sorts what is kept of its files. -/
theorem outputFiles_eq_ok {files : List String}
    (listed : outputFiles system directory excluded respectIgnoreFile =
      .ok files) :
    ∃ entries rules paths,
      system.stat? directory = some (.directory entries) ∧
      keep rules excluded ((regularFiles (.directory entries)).map Path.posix) =
        .ok paths ∧
      files = Text.inOrder paths := by
  have isDirectory : ∃ entries,
      system.stat? directory = some (.directory entries) := by
    rw [outputFiles] at listed
    split at listed
    · rename_i entries reached
      exact ⟨entries, reached⟩
    · cases listed
  obtain ⟨entries, reached⟩ := isDirectory
  obtain ⟨rules, _, paths, kept, sorted⟩ :=
    (outputFiles_eq_ok_iff reached).mp listed
  exact ⟨entries, rules, paths, reached, kept, sorted⟩

/-- The output files of a directory are listed in strictly increasing
order. -/
theorem pairwise_outputFiles {files : List String}
    (proper : system.top.Proper)
    (listed : outputFiles system directory excluded respectIgnoreFile =
      .ok files) :
    files.Pairwise (· < ·) := by
  obtain ⟨entries, rules, paths, reached, kept, rfl⟩ :=
    outputFiles_eq_ok listed
  have different : paths.Nodup :=
    (sublist_of_keep kept).nodup
      (nodup_regularFiles (FileSystem.proper_of_stat? proper reached))
  exact Text.pairwise_lt_inOrder different

end Listed

end Listing

end SymbolDiff
