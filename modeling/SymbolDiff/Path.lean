/-!
# File paths

A path is an anchor and a list of names.  Empty names, `.` and trailing slashes
do not matter and are dropped when a path is read; `..` stays, because what it
means depends on symbolic links.  Exactly two leading slashes are a root of
their own.
-/

namespace SymbolDiff

/-- Where a path starts. -/
inductive Anchor where
  | relative
  | root
  | doubleRoot
  deriving DecidableEq, Repr

/-- A path by its names. -/
structure Path where
  anchor : Anchor
  names : List String
  deriving DecidableEq, Repr

namespace Path

/-- The parts of a character list between separators. -/
def splitAt (separator : Char) : List Char → List (List Char)
  | [] => [[]]
  | c :: rest =>
    if c = separator then [] :: splitAt separator rest
    else match splitAt separator rest with
      | [] => [[c]]
      | current :: following => (c :: current) :: following

/-- The anchor that leading slashes stand for. -/
def anchorOf (text : List Char) : Anchor :=
  match (text.takeWhile (· = '/')).length with
  | 0 => .relative
  | 2 => .doubleRoot
  | _ => .root

/-- The names of a path's text. -/
def namesOf (text : List Char) : List String :=
  ((splitAt '/' text).filter fun name => !name.isEmpty && name ≠ ['.']).map
    String.ofList

/-- Reads a path. -/
def ofString (text : String) : Path :=
  ⟨anchorOf text.toList, namesOf text.toList⟩

/-- The names among the parts of a text, each with the path that the parts
behind it spell.  This path is absolute when an empty part comes first. -/
def stepsOf : List (List Char) → List (String × Path)
  | [] => []
  | part :: rest =>
    if !part.isEmpty && part ≠ ['.'] then
      (String.ofList part, ofString (String.ofList (['/'].intercalate rest))) ::
        stepsOf rest
    else stepsOf rest

/-- The names in the text of a path, each with what is written behind it. -/
def stepsIn (text : String) : List (String × Path) :=
  stepsOf (splitAt '/' text.toList)

/-- The names of a path, each with those that follow it. -/
def steps : List String → List (String × Path)
  | [] => []
  | name :: rest => (name, ⟨.relative, rest⟩) :: steps rest

/-- Follows names from what was reached, given from the innermost name
outwards; each `..` takes back the name before it. -/
def settle : List String → List String → List String
  | reached, [] => reached.reverse
  | reached, name :: rest =>
    if name = ".." then settle reached.tail rest
    else settle (name :: reached) rest

/-- Names with slashes between them. -/
def posix (names : List String) : String :=
  "/".intercalate names

/-- The text of a path; the empty relative path is the directory itself. -/
def toText (path : Path) : String :=
  match path.anchor with
  | .relative => if path.names.isEmpty then "." else posix path.names
  | .root => "/" ++ posix path.names
  | .doubleRoot => "//" ++ posix path.names

def isAbsolute (path : Path) : Bool :=
  path.anchor ≠ .relative

/-- The character of code zero, which no file name can hold. -/
def nul : Char := '\x00'

def holdsNul (path : Path) : Bool :=
  path.names.any fun name => name.toList.contains nul

/-- The second path as seen from the first; an absolute path is its own. -/
def join (base path : Path) : Path :=
  if path.isAbsolute then path
  else { base with names := base.names ++ path.names }

/-- A path one name further down. -/
def child (base : Path) (name : String) : Path :=
  base.join (.ofString name)

/-- The path without its last name. -/
def parent (path : Path) : Path :=
  { path with names := path.names.dropLast }

/-- The last name, empty where there is none. -/
def name (path : Path) : String :=
  path.names.getLast?.getD ""

/-- The characters from the last dot on, when something stands before and after
it. -/
def suffixOf (name : List Char) : List Char :=
  let suffix := '.' :: (name.reverse.takeWhile (· ≠ '.')).reverse
  if name.contains '.' && suffix.length < name.length && 1 < suffix.length then
    suffix
  else []

/-- The ending of the last name, with its dot. -/
def suffix (path : Path) : String :=
  String.ofList (suffixOf path.name.toList)

/-- The last name without its ending. -/
def stem (path : Path) : String :=
  let name := path.name.toList
  String.ofList (name.take (name.length - (suffixOf name).length))

/-- The ending of the last name, without its dot. -/
def extension (path : Path) : String :=
  String.ofList ((suffixOf path.name.toList).drop 1)

/-- The home directories that are known: that of the user who runs the program
and those of other users, by their names. -/
structure Homes where
  own : Path
  others : List (String × Path) := []
  deriving DecidableEq, Repr

/-- The homes of a machine on which no other user is known. -/
def Homes.ofString (own : String) : Homes :=
  { own := .ofString own }

/-- The home directory of a user; the empty name stands for the user who runs
the program.  A path that itself starts with `~` is no home. -/
def Homes.of? (homes : Homes) (user : String) : Option Path :=
  let entry := if user.isEmpty then some homes.own else homes.others.lookup user
  entry.filter fun home => !(home.toText.toList.head? = some '~')

/-- A home directory that cannot be found. -/
structure UnknownHome where
  user : String
  deriving DecidableEq, Repr

/-- Replaces a leading `~`, which a name may follow, by the home directory of
the user of that name. -/
def expandHome (path : Path) (homes : Homes) : Except UnknownHome Path :=
  match path.anchor, path.names with
  | .relative, first :: rest =>
    match first.toList with
    | '~' :: letters =>
      let user := String.ofList letters
      match homes.of? user with
      | some home => .ok { home with names := home.names ++ rest }
      | none => .error ⟨user⟩
    | _ => .ok path
  | _, _ => .ok path

end Path

end SymbolDiff
