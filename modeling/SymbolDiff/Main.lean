import SymbolDiff.CommandLine.Run
import SymbolDiff.Generator.Scripted

/-!
# The program

The working directory is read into a file system, the command line is carried
out there, and the report and the messages are printed.  Generators are outside
programs and none is started from here: a generation fails as one whose program
does not exist.
-/

namespace SymbolDiff

/-- The generator of a place that has none. -/
def Generator.absent : Generator :=
  .scripted "" [{ cannotStart := true }]

/-- Reads what a name in a directory stands for, with all that is below it.
Links to nothing and what is neither file nor directory are left out. -/
partial def readEntry (item : IO.FS.DirEntry) : IO (List (String × Entry)) := do
  let metadata ← item.path.symlinkMetadata
  match metadata.type with
  | .dir =>
    let below ← (← item.path.readDir).toList.mapM readEntry
    return [(item.fileName, .directory below.flatten)]
  | .file => return [(item.fileName, .file (← IO.FS.readBinFile item.path))]
  | .symlink =>
    try
      let target ← IO.FS.realPath item.path
      return [(item.fileName, .link target.toString)]
    catch _ => return []
  | .other => return []

/-- The homes of the users that the system lists, by their names. -/
def readHomes : IO (List (String × Path)) := do
  try
    let listing ← IO.FS.readFile "/etc/passwd"
    return (listing.splitOn "\n").filterMap fun line =>
      match line.splitOn ":" with
      | name :: _ :: _ :: _ :: _ :: home :: _ => some (name, .ofString home)
      | _ => none
  catch _ => return []

/-- The file system as it is seen from the working directory. -/
def readFileSystem : IO FileSystem := do
  let directory ← IO.currentDir
  let entries ← (← directory.readDir).toList.mapM readEntry
  let working := Path.ofString directory.toString
  let home := ((← IO.getEnv "HOME").filter (· ≠ "")).getD "/"
  return {
    top := (Entry.directory []).put working.names (.directory entries.flatten)
    working := working
    home := { own := .ofString home, others := ← readHomes } }

/-- Prints what a command line has led to and gives its exit code. -/
def CommandLine.Outcome.print : CommandLine.Outcome → IO UInt32
  | .halted .help => do
    IO.println ("usage: " ++ programName ++ " compare|baseline|diff ...")
    return 0
  | .halted (.misused misuse) => do
    IO.eprintln misuse.message
    return 2
  | .finished exitCode report messages => do
    IO.print report
    IO.eprint messages
    return exitCode.toUInt32
  | .broken _ => do
    IO.eprintln "error: a file or directory could not be read"
    return 1

end SymbolDiff

/-- Carries the command line out in the working directory. -/
def main (words : List String) : IO UInt32 := do
  let system ← SymbolDiff.readFileSystem
  let (outcome, _) :=
    (SymbolDiff.CommandLine.run .absent words).run { system := system }
  outcome.print
