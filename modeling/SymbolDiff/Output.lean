import SymbolDiff.Extract.Source
import SymbolDiff.Failure
import SymbolDiff.Symbol.Comparison

/-!
# Comparing output files

The files of two generations are paired by their paths below the output
directories.  A pair is reduced to symbols in the dialect that the ending of
the old name stands for and then compared; files of other kinds are left alone.
A file that cannot be read or reduced fails the comparison.  The trees come
from the given parser, which is that of the grammars unless another one is
named.
-/

namespace SymbolDiff

/-- A result that may fail, with the remarks made on the way. -/
abbrev Attempt := ExceptT Failure Traced

/-- A remark does not fail. -/
def Attempt.remark (remark : Remark) : Attempt Unit :=
  ExceptT.lift (Traced.remark remark)

/-- What one generation left behind. -/
structure Output where
  directory : Path
  files : List String
  messages : String := ""
  deriving DecidableEq, Repr

/-- A file by its path below an output directory. -/
structure OutputFile where
  name : String
  base : Path
  deriving DecidableEq, Repr

instance : Named OutputFile :=
  ⟨OutputFile.name⟩

/-- The dialects of the endings that are known. -/
def dialectsByExtension : List (String × Dialect) :=
  [("py", .python), ("pyi", .python), ("ts", .typescript), ("tsx", .tsx)]

/-- The dialect that a file is written in, going by its ending. -/
def Dialect.ofExtension? (extension : String) : Option Dialect :=
  (dialectsByExtension.find? fun entry => entry.1 = extension).map Prod.snd

namespace OutputFile

def path (file : OutputFile) : Path :=
  file.base.child file.name

def extension (file : OutputFile) : String :=
  (Path.ofString file.name).extension

/-- The symbols of a file; a fault tells which file it lies in. -/
def symbols (system : FileSystem) (dialect : Dialect) (file : OutputFile)
    (parse : Grammar.Parser := Grammar.treeOf) : Attempt Source :=
  match system.read file.path with
  | .error fault => throw (.reading fault)
  | .ok content => do
    match ← ExceptT.lift (Extract.ofSource dialect content parse) with
    | .ok source => return source
    | .error fault => throw (.extraction (fault.inFile file.path))

/-- Compares two versions of one file. -/
def compare (system : FileSystem) (old new : OutputFile)
    (parse : Grammar.Parser := Grammar.treeOf) : Attempt (Option Node) :=
  match Dialect.ofExtension? old.extension with
  | none => do
    Attempt.remark (.noComparer old.name)
    return none
  | some dialect => do
    let oldSymbols ← old.symbols system dialect parse
    let newSymbols ← new.symbols system dialect parse
    ExceptT.lift (compareSource old.name oldSymbols newSymbols)

end OutputFile

namespace Output

/-- The files of an output. -/
def members (output : Output) : List OutputFile :=
  output.files.map fun name => ⟨name, output.directory⟩

/-- The heading over the differences of two outputs. -/
def label : String := "Generated Output Files"

/-- Compares the files of two generations. -/
def compare (system : FileSystem) (old new : Output)
    (parse : Grammar.Parser := Grammar.treeOf) : Attempt (Option Node) := do
  Attempt.remark (.comparing old.files.length new.files.length)
  compareItems Attempt.remark
    (fun first second => first.compare system second parse) false label
    old.members new.members

/-- The output that lies in a directory. -/
def existing (system : FileSystem) (directory : Path) : Except Failure Output :=
  match Listing.outputFiles system directory [] true with
  | .ok files => .ok { directory := directory, files := files }
  | .error fault => .error (.listing fault)

/-- A directory that has to hold earlier output. -/
def require (system : FileSystem) (directory : Path) : Except Failure Unit :=
  if system.isDirectory directory then .ok ()
  else .error (.settings (.missingOutput directory))

/-- Compares two directories that hold output. -/
def compareDirectories (system : FileSystem) (old new : Path)
    (parse : Grammar.Parser := Grammar.treeOf) : Attempt (Option Node) := do
  ExceptT.mk (pure (require system old))
  ExceptT.mk (pure (require system new))
  let oldOutput ← ExceptT.mk (pure (existing system old))
  let newOutput ← ExceptT.mk (pure (existing system new))
  compare system oldOutput newOutput parse

end Output

end SymbolDiff
