import SymbolDiff.Path
import SymbolDiff.Text.Order

/-!
# File systems

A file system as a value: a tree of files, symbolic links and directories, with
the directory from which relative paths are seen, the home directories and the
stack that the process has left.  Following a path replaces symbolic links by
what they point to, at most `linkLimit` times; `..` then leads to the directory
that really encloses what was reached.
-/

namespace SymbolDiff

/-- What a name in a directory stands for. -/
inductive Entry where
  | file (content : ByteArray)
  | link (target : String)
  | directory (entries : List (String × Entry))

namespace Entry

/-- The first entry under a name. -/
def lookup (name : String) : List (String × Entry) → Option Entry
  | [] => none
  | (key, entry) :: rest => if key = name then some entry else lookup name rest

/-- The entry under a name of a directory. -/
def child? : Entry → String → Option Entry
  | .directory entries, name => lookup name entries
  | .file _, _ => none
  | .link _, _ => none

/-- Follows names downwards, through real directories only. -/
def find? : Entry → List String → Option Entry
  | entry, [] => some entry
  | entry, name :: rest =>
    match entry.child? name with
    | some next => next.find? rest
    | none => none

/-- The entries of a directory; other entries have none. -/
def entries : Entry → List (String × Entry)
  | .directory entries => entries
  | .file _ => []
  | .link _ => []

/-- Puts an entry under a name, in place of what was there. -/
def insert (name : String) (entry : Entry) :
    List (String × Entry) → List (String × Entry)
  | [] => [(name, entry)]
  | (key, present) :: rest =>
    if key = name then (name, entry) :: rest
    else (key, present) :: insert name entry rest

/-- Puts an entry at the end of some names, making the directories on the way.
-/
def put : Entry → List String → Entry → Entry
  | _, [], entry => entry
  | parent, name :: rest, entry =>
    let below := (parent.child? name).getD (.directory [])
    .directory (insert name (below.put rest entry) parent.entries)

/-- Makes the directories on the way along some names, keeping those that are
there. -/
def makeDirectories : Entry → List String → Entry
  | .directory entries, [] => .directory entries
  | .file _, [] => .directory []
  | .link _, [] => .directory []
  | parent, name :: rest =>
    let below := (parent.child? name).getD (.directory [])
    .directory (insert name (below.makeDirectories rest) parent.entries)

mutual

/-- All entries below an entry that are not directories, by the names that lead
to them. -/
def leaves : Entry → List (List String × Entry)
  | .file _ => []
  | .link _ => []
  | .directory entries => leavesOf entries

def leavesOf : List (String × Entry) → List (List String × Entry)
  | [] => []
  | (name, entry) :: rest => leavesAt name entry ++ leavesOf rest

def leavesAt (name : String) : Entry → List (List String × Entry)
  | .file content => [([name], .file content)]
  | .link target => [([name], .link target)]
  | .directory entries =>
    (leavesOf entries).map fun leaf => (name :: leaf.1, leaf.2)

end

def isDirectory : Entry → Bool
  | .directory _ => true
  | .file _ => false
  | .link _ => false

mutual

theorem mem_leavesAt_of_find? (name : String) :
    ∀ {entry leaf : Entry} {names : List String}, leaf.isDirectory = false →
      entry.find? names = some leaf →
        (name :: names, leaf) ∈ leavesAt name entry
  | .file _, _, [], _, found => by
      cases found
      exact List.mem_singleton_self _
  | .file _, _, _ :: _, _, found => by cases found
  | .link _, _, [], _, found => by
      cases found
      exact List.mem_singleton_self _
  | .link _, _, _ :: _, _, found => by cases found
  | .directory _, _, [], isLeaf, found => by
      cases found
      cases isLeaf
  | .directory _, _, _ :: _, isLeaf, found => by
      rw [leavesAt, List.mem_map]
      exact ⟨_, mem_leavesOf_of_find? isLeaf found, rfl⟩

/-- What is found by its names and is no directory is a leaf. -/
theorem mem_leavesOf_of_find? :
    ∀ {entries : List (String × Entry)} {leaf : Entry} {name : String}
      {rest : List String}, leaf.isDirectory = false →
      (Entry.directory entries).find? (name :: rest) = some leaf →
        (name :: rest, leaf) ∈ leavesOf entries
  | [], _, _, _, _, found => by cases found
  | (key, entry) :: others, leaf, name, rest, isLeaf, found => by
      rw [find?, child?, lookup] at found
      rw [leavesOf, List.mem_append]
      by_cases here : key = name
      · rw [if_pos here] at found
        subst here
        exact .inl (mem_leavesAt_of_find? key isLeaf found)
      · rw [if_neg here] at found
        right
        apply mem_leavesOf_of_find? isLeaf
        rw [find?, child?]
        exact found

end

theorem mem_leaves_of_find? {entry leaf : Entry} {names : List String}
    (isLeaf : leaf.isDirectory = false) (below : names ≠ [])
    (found : entry.find? names = some leaf) : (names, leaf) ∈ entry.leaves := by
  obtain ⟨name, rest, rfl⟩ := List.exists_cons_of_ne_nil below
  cases entry with
  | file content => cases found
  | link target => cases found
  | directory entries => exact mem_leavesOf_of_find? isLeaf found

/-- The leaves below an entry that stand at none of some positions. -/
def leavesBeside (entry : Entry) (positions : List (List String)) :
    List (List String × Entry) :=
  entry.leaves.filter fun leaf => leaf.1 ∉ positions

theorem length_leavesBeside_lt {entry leaf : Entry} {names : List String}
    {positions : List (List String)} (isLeaf : leaf.isDirectory = false)
    (below : names ≠ []) (found : entry.find? names = some leaf)
    (beside : names ∉ positions) :
    (entry.leavesBeside (names :: positions)).length <
      (entry.leavesBeside positions).length := by
  have fewer : entry.leavesBeside (names :: positions) =
      (entry.leavesBeside positions).filter fun leaf => leaf.1 ≠ names := by
    simp [leavesBeside, List.filter_filter]
  rw [fewer, List.length_filter_lt_length_iff_exists]
  refine ⟨(names, leaf), List.mem_filter.mpr ⟨?_, by simpa using beside⟩,
    by simp⟩
  exact mem_leaves_of_find? isLeaf below found

end Entry

/-- A file system as a process sees it: with the places from which paths are
seen, and with the calls that the process can still make to follow values that
are nested in a file. -/
structure FileSystem where
  top : Entry
  working : Path
  home : Path.Homes
  stack : Nat := 990

namespace FileSystem

/-- How many symbolic links the system follows along one path. -/
def linkLimit : Nat := 40

/-- Why a path could not be followed. -/
inductive WalkFault where
  | missing
  | notDirectory
  | tooManyLinks
  deriving DecidableEq, Repr

/-- Follows names from a directory that was reached, given by its names from
the innermost outwards.  Names that do not exist end the walk when it is
`strict` and are taken as they are otherwise. -/
def walk (top : Entry) (strict : Bool) (links : Nat) (reached : List String) :
    List String → Except WalkFault (List String)
  | [] => .ok reached.reverse
  | name :: rest =>
    if name = ".." then walk top strict links reached.tail rest
    else
      match top.find? (name :: reached).reverse with
      | some (.link target) =>
        match links with
        | 0 => .error .tooManyLinks
        | links + 1 =>
          let path := Path.ofString target
          walk top strict links (if path.isAbsolute then [] else reached)
            (path.names ++ rest)
      | some (.directory _) => walk top strict links (name :: reached) rest
      | some (.file _) =>
        if strict && !rest.isEmpty then .error .notDirectory
        else walk top strict links (name :: reached) rest
      | none =>
        if strict then .error .missing
        else walk top strict links (name :: reached) rest
termination_by names => (links, names.length)

/-- The path as seen from the top. -/
def absolute (system : FileSystem) (path : Path) : Path :=
  system.working.join path

/-- The names to what a path leads to, all of which has to exist. -/
def locate (system : FileSystem) (path : Path) :
    Except WalkFault (List String) :=
  walk system.top true linkLimit [] (system.absolute path).names

/-- The path as the system follows it to a place that need not exist. -/
def follow (system : FileSystem) (path : Path) : Except WalkFault Path :=
  (walk system.top false linkLimit [] (system.absolute path).names).map
    fun names => ⟨.root, names⟩

/-- Follows names from a directory that was reached, over any number of links,
with what is written behind each name.  A link that is met while it is being
`followed` leads nowhere: the path to it is given back, with what is written
behind it. -/
def realPath (top : Entry) (followed : List (List String))
    (reached : List String) : List (String × Path) → Except Path (List String)
  | [] => .ok reached
  | (name, behind) :: rest =>
    if name = ".." then realPath top followed reached.tail rest
    else
      let here := (name :: reached).reverse
      match _ : top.find? here with
      | some (.link target) =>
        if _ : here ∈ followed then .error (Path.join ⟨.root, here⟩ behind)
        else
          let start := if (Path.ofString target).isAbsolute then [] else reached
          match realPath top (here :: followed) start (Path.stepsIn target) with
          | .ok arrived => realPath top followed arrived rest
          | .error stuck => .error (stuck.join behind)
      | _ => realPath top followed (name :: reached) rest
termination_by steps => ((top.leavesBeside followed).length, steps.length)
decreasing_by
  · exact .right _ (Nat.lt_add_one _)
  · rename_i found again
    have isLeaf : (Entry.link target).isDirectory = false := rfl
    exact .left _ _ (Entry.length_leavesBeside_lt isLeaf (by simp) found again)
  · exact .right _ (Nat.lt_add_one _)
  · exact .right _ (Nat.lt_add_one _)

/-- The path without links and `..`; what does not exist is taken as it is
written.  Where links lead round in a circle, what is left of the path stays,
unless the system gives up on it. -/
def resolve (system : FileSystem) (path : Path) : Except WalkFault Path :=
  match realPath system.top [] [] (Path.steps (system.absolute path).names) with
  | .ok reached => .ok ⟨.root, reached.reverse⟩
  | .error stuck =>
    let left := { stuck with names := Path.settle [] stuck.names }
    match system.locate left with
    | .error .tooManyLinks => .error .tooManyLinks
    | _ => .ok left

/-- What a path leads to. -/
def stat? (system : FileSystem) (path : Path) : Option Entry :=
  match system.locate path with
  | .ok names => system.top.find? names
  | .error _ => none

def isDirectory (system : FileSystem) (path : Path) : Bool :=
  match system.stat? path with
  | some (.directory _) => true
  | _ => false

def isFile (system : FileSystem) (path : Path) : Bool :=
  match system.stat? path with
  | some (.file _) => true
  | _ => false

/-- Why a file could not be read. -/
inductive ReadFault where
  | unreachable (fault : WalkFault) (path : Path)
  | isDirectory (path : Path)
  deriving DecidableEq, Repr

/-- The content of a file. -/
def read (system : FileSystem) (path : Path) : Except ReadFault ByteArray :=
  match system.locate path with
  | .error fault => .error (.unreachable fault path)
  | .ok names =>
    match system.top.find? names with
    | some (.file content) => .ok content
    | some _ => .error (.isDirectory path)
    | none => .error (.unreachable .missing path)

/-- Where something at a path is to be written: links on the way are followed
as far as possible. -/
def destination (system : FileSystem) (path : Path) : List String :=
  match system.follow path with
  | .ok place => place.names
  | .error _ => (system.absolute path).names

/-- Puts an entry at a path, making the directories on the way. -/
def put (system : FileSystem) (path : Path) (entry : Entry) : FileSystem :=
  let target := match entry with
    | .link _ => system.destination path.parent ++ [path.name]
    | _ => system.destination path
  { system with top := system.top.put target entry }

/-- Makes a directory, with those above the place that its path is resolved to.
-/
def makeOneDirectory (system : FileSystem) (path : Path) : FileSystem :=
  { system with top := system.top.makeDirectories (system.destination path) }

/-- Makes a directory and those on the way to it, one name after the other, so
that a `..` behind a name that was missing finds the directory of that name. -/
def makeDirectory (system : FileSystem) (path : Path) : FileSystem :=
  (List.range (path.names.length + 1)).foldl
    (fun current count =>
      current.makeOneDirectory { path with names := path.names.take count })
    system

/-- The files below a directory, and the links below it that lead to files, in
code point order. -/
def filesBelow (system : FileSystem) (directory : Path) : List String :=
  match system.stat? directory with
  | none => []
  | some entry =>
    let found := entry.leaves.filter fun leaf =>
      match leaf.2 with
      | .file _ => true
      | .link _ => system.isFile (directory.join ⟨.relative, leaf.1⟩)
      | .directory _ => false
    Text.inOrder (found.map fun leaf => Path.posix leaf.1)

end FileSystem

end SymbolDiff
