import SymbolDiff.FileSystem
import SymbolDiff.Listing.Ignore

/-!
# Listing output files

The files that a generator left in a directory: regular files that are reached
through real directories and lie in the directory, without those that the
directory's own ignore file or a pattern excludes.
-/

namespace SymbolDiff.Listing

/-- Why a directory could not be listed. -/
inductive Fault where
  | notDirectory (path : Path)
  | ignoreFile (fault : Ignore.Fault)
  deriving DecidableEq, Repr

/-- The name of the ignore file of a directory. -/
def ignoreFileName : String := ".gitignore"

/-- The rules of a directory's own ignore file; none without such a file. -/
def ownRules (system : FileSystem) (directory : Path) :
    Except Ignore.Fault (List Ignore.Rule) :=
  match system.stat? (directory.child ignoreFileName) with
  | some (.file content) => Ignore.rulesOf content
  | _ => .ok []

/-- Whether names lead downwards over real directories to a regular file. -/
def isRegular (entry : Entry) (names : List String) : Bool :=
  match entry.find? names with
  | some (.file _) => !names.contains ".."
  | _ => false

/-- The regular files below an entry that real directories lead to. -/
def regularFiles (entry : Entry) : List (List String) :=
  (entry.leaves.map Prod.fst).filter (isRegular entry)

/-- Whether a path lies in a directory once both are resolved. -/
def liesIn (system : FileSystem) (directory path : Path) : Bool :=
  match system.resolve path, system.resolve directory with
  | .ok place, .ok root =>
    root.anchor = place.anchor && root.names.isPrefixOf place.names
  | _, _ => false

/-- The files of a directory that lie in it, as paths. -/
def filesIn (system : FileSystem) (directory : Path) (entry : Entry) :
    List String :=
  let files := (regularFiles entry).filter fun names =>
    liesIn system directory (directory.join ⟨.relative, names⟩)
  files.map Path.posix

/-- The paths that are kept: not ignored, and of no pattern. -/
def keep (rules : List Ignore.Rule) (excluded : List String) :
    List String → Except Ignore.Fault (List String)
  | [] => .ok []
  | path :: rest => do
    let ignored ← Ignore.ignores rules path
    let following ← keep rules excluded rest
    if ignored || excluded.any (fun pattern => Glob.admits pattern path) then
      return following
    else return path :: following

/-- The output files of a directory, in code point order. -/
def outputFiles (system : FileSystem) (directory : Path)
    (excluded : List String) (respectIgnoreFile : Bool) :
    Except Fault (List String) :=
  match system.stat? directory with
  | some (.directory entries) =>
    let listed : Except Ignore.Fault (List String) := do
      let rules ←
        if respectIgnoreFile then ownRules system directory else .ok []
      keep rules excluded (filesIn system directory (.directory entries))
    match listed with
    | .ok paths => .ok (Text.inOrder paths)
    | .error fault => .error (.ignoreFile fault)
  | _ => .error (.notDirectory directory)

end SymbolDiff.Listing
