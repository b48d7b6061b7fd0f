import SymbolDiff.Listing.Glob
import SymbolDiff.Text.Blank

/-!
# Ignore files

An ignore file has a rule on each line.  A rule is a pattern for paths below
the directory of the file; one that starts with an exclamation mark takes back
what rules before it ignore.  A slash inside a pattern ties it to the directory
itself, one at its end makes it match directories.
-/

namespace SymbolDiff.Ignore

/-- A part of a rule's pattern. -/
inductive Piece where
  | text (c : Char)
  | slash
  /-- One character other than a slash. -/
  | nameCharacter
  /-- Any characters other than slashes. -/
  | nameText
  /-- Any directories, or none. -/
  | directories
  /-- Any characters on one line. -/
  | anything
  /-- One character in given ranges, or outside of them. -/
  | oneOf (negated : Bool) (ranges : List (Char × Char))
  /-- A set that cannot be read. -/
  | unreadable
  deriving DecidableEq, Repr

/-- Where a match may end. -/
inductive Ending where
  /-- At the end of the path. -/
  | exact
  /-- At the end of the path or before a slash, which is passed. -/
  | directory
  /-- Behind a slash that ends the path. -/
  | trailingSlash
  deriving DecidableEq, Repr

/-- One line of an ignore file. -/
structure Rule where
  pieces : List Piece
  ending : Ending
  isAnchored : Bool
  isNegated : Bool
  deriving DecidableEq, Repr

/-- Why a line is no rule at all. -/
inductive Fault where
  /-- Nothing is left of the pattern. -/
  | emptyPattern
  /-- A set in brackets cannot be read. -/
  | unreadableSet
  /-- The file is not text. -/
  | notText
  deriving DecidableEq, Repr

/-- The ranges of a set in brackets, in which a hyphen joins its neighbours;
none when a range runs backwards. -/
def setRanges? : List Char → Option (List (Char × Char))
  | [] => some []
  | low :: '-' :: high :: rest =>
    if high < low then none
    else (setRanges? rest).map fun ranges => (low, high) :: ranges
  | c :: rest => (setRanges? rest).map fun ranges => (c, c) :: ranges

/-- The part of a pattern for a set in brackets, in which slashes do not count.
-/
def setPiece (content : List Char) : Except Fault Piece :=
  match content.filter (· ≠ '/') with
  | [] => .error .emptyPattern
  | '!' :: [] => .ok .unreadable
  | '!' :: rest =>
    .ok (((setRanges? rest).map (Piece.oneOf true)).getD .unreadable)
  | rest => .ok (((setRanges? rest).map (Piece.oneOf false)).getD .unreadable)

/-- The parts of a pattern. -/
def pieces (pattern : List Char) : Except Fault (List Piece) :=
  match pattern with
  | [] => .ok []
  | '*' :: '*' :: '/' :: rest => (pieces rest).map (.directories :: ·)
  | '*' :: '*' :: rest => (pieces rest).map (.anything :: ·)
  | '*' :: rest => (pieces rest).map (.nameText :: ·)
  | '?' :: rest => (pieces rest).map (.nameCharacter :: ·)
  | '/' :: rest => (pieces rest).map (.slash :: ·)
  | '[' :: rest =>
    match _split : Glob.splitSet rest with
    | some (content, following) => do
      let piece ← setPiece content
      let further ← pieces following
      return piece :: further
    | none => (pieces rest).map (.text '[' :: ·)
  | c :: rest => (pieces rest).map (.text c :: ·)
termination_by pattern.length
decreasing_by
  all_goals first
    | (have shorter := Glob.length_splitSet _split
       simp only [List.length_cons]
       omega)
    | (simp only [List.length_cons]; omega)

/-- A run of two or more stars becomes one star behind a character other than a
slash. -/
def collapseBehind (pattern : List Char) : List Char :=
  match pattern with
  | [] => []
  | c :: rest =>
    if c ≠ '/' && 2 ≤ (rest.takeWhile (· = '*')).length then
      c :: '*' :: collapseBehind (rest.dropWhile (· = '*'))
    else c :: collapseBehind rest
termination_by pattern.length
decreasing_by
  all_goals
    have shorter := (List.dropWhile_sublist (· = '*') (l := rest)).length_le
    simp only [List.length_cons]
    omega

/-- Two stars become one in front of a character other than a slash. -/
def collapseBefore : List Char → List Char
  | '*' :: '*' :: c :: rest =>
    if c ≠ '/' then '*' :: c :: collapseBefore rest
    else '*' :: '*' :: c :: collapseBefore rest
  | c :: rest => c :: collapseBefore rest
  | [] => []

/-- Drops blanks from the end of a pattern, given backwards, as long as two
characters remain.  An escaped blank stays, without its backslash, and so do
the blanks before it. -/
def trimBackwards : Bool → List Char → List Char
  | dropping, ' ' :: second :: third :: rest =>
    if second = '\\' then ' ' :: trimBackwards false (third :: rest)
    else if dropping then trimBackwards true (second :: third :: rest)
    else ' ' :: trimBackwards false (second :: third :: rest)
  | _, pattern => pattern

/-- A pattern without one leading slash; a pattern has to have something in it.
-/
def dropSlash : List Char → Except Fault (List Char)
  | [] => .error .emptyPattern
  | '/' :: rest => .ok rest
  | pattern => .ok pattern

/-- A pattern without the stars that let it match anywhere, and whether there
were any. -/
def dropStars : List Char → Except Fault (List Char × Bool)
  | [] => .error .emptyPattern
  | '*' :: '*' :: rest => .ok (rest, true)
  | pattern => .ok (pattern, false)

/-- A pattern without one trailing slash. -/
def dropTrailingSlash (pattern : List Char) : Except Fault (List Char) :=
  match pattern.getLast? with
  | none => .error .emptyPattern
  | some last => .ok (if last = '/' then pattern.dropLast else pattern)

/-- A pattern without the backslash that keeps its first character from being a
sign. -/
def dropEscape : List Char → Except Fault (List Char)
  | [] => .error .emptyPattern
  | ['\\'] => .error .emptyPattern
  | '\\' :: '#' :: rest => .ok ('#' :: rest)
  | '\\' :: '!' :: rest => .ok ('!' :: rest)
  | pattern => .ok pattern

/-- The rule of a pattern whose sign has been taken off. -/
def ruleOf (isNegated : Bool) (written : List Char) :
    Except Fault (Option Rule) := do
  let pattern := collapseBefore (collapseBehind written)
  if Text.trimEnd Text.isBlank pattern = ['/'] then return none
  let some last := pattern.getLast? | .error .emptyPattern
  let isDirectory := last = '/'
  let isTied := pattern.dropLast.contains '/'
  let (anywhere, hadStars) ← dropStars (← dropSlash pattern)
  let bare ← dropEscape (← dropTrailingSlash (← dropSlash anywhere))
  let parts ← pieces (trimBackwards true bare.reverse).reverse
  return some {
    pieces := parts
    ending :=
      if !isDirectory then .exact
      else if isNegated then .trailingSlash
      else .directory
    isAnchored := isTied && !hadStars
    isNegated }

/-- The rule of a line; blank lines and comments have none. -/
def ruleOfLine (line : List Char) : Except Fault (Option Rule) :=
  if line.all Text.isBlank then .ok none
  else match line with
    | '#' :: _ => .ok none
    | '!' :: rest => ruleOf true rest
    | _ => ruleOf false line

/-- The lines of a text; line ends of all systems count. -/
def linesOf : List Char → List (List Char)
  | [] => [[]]
  | '\r' :: '\n' :: rest => [] :: linesOf rest
  | c :: rest =>
    if c = '\n' || c = '\r' then [] :: linesOf rest
    else match linesOf rest with
      | [] => [[c]]
      | current :: following => (c :: current) :: following

/-- The rules of an ignore file. -/
def rulesOf (content : ByteArray) : Except Fault (List Rule) :=
  match String.fromUTF8? content with
  | none => .error .notText
  | some text => do
    let rules ← (linesOf text.toList).mapM ruleOfLine
    return rules.filterMap id

/-- Whether a path may end here. -/
def Ending.holds : Ending → List Char → Bool
  | .exact, text => text = [] || text = ['\n']
  | .directory, text => text = [] || text = ['\n'] || text.head? = some '/'
  | .trailingSlash, text => text = ['/'] || text = ['/', '\n']

/-- What may be left of a text behind the slashes of its first line. -/
def beyondSlashes : List Char → List (List Char)
  | [] => []
  | c :: rest =>
    if c = '\n' then []
    else if c = '/' then rest :: beyondSlashes rest
    else beyondSlashes rest

/-- Whether a character is in one of some ranges. -/
def inRanges (ranges : List (Char × Char)) (c : Char) : Bool :=
  ranges.any fun range => range.1 ≤ c && c ≤ range.2

/-- Whether parts match the start of a text up to where they may end. -/
def matchPieces (ending : Ending) : List Piece → List Char → Bool
  | [], text => ending.holds text
  | .nameText :: rest, text =>
    (Glob.suffixes (· ≠ '/') text).any (matchPieces ending rest)
  | .anything :: rest, text =>
    (Glob.suffixes (· ≠ '\n') text).any (matchPieces ending rest)
  | .directories :: rest, text =>
    (text :: beyondSlashes text).any (matchPieces ending rest)
  | .unreadable :: _, _ => false
  | .text c :: rest, text =>
    match text with
    | first :: following => first = c && matchPieces ending rest following
    | [] => false
  | .slash :: rest, text =>
    match text with
    | first :: following => first = '/' && matchPieces ending rest following
    | [] => false
  | .nameCharacter :: rest, text =>
    match text with
    | first :: following => first ≠ '/' && matchPieces ending rest following
    | [] => false
  | .oneOf negated ranges :: rest, text =>
    match text with
    | first :: following =>
      (inRanges ranges first != negated) && matchPieces ending rest following
    | [] => false

/-- What follows each slash of a text. -/
def afterSlashes : List Char → List (List Char)
  | [] => []
  | c :: rest =>
    if c = '/' then rest :: afterSlashes rest else afterSlashes rest

/-- Whether a rule matches a path: from its start, or behind any slash unless
it is tied. -/
def Rule.matchesPath (rule : Rule) (path : List Char) : Except Fault Bool :=
  if rule.pieces.contains .unreadable then .error .unreadableSet
  else
    let starts := if rule.isAnchored then [path] else path :: afterSlashes path
    .ok (starts.any (matchPieces rule.ending rule.pieces))

/-- Whether one of some rules matches, asked in order. -/
def anyMatches (path : List Char) : List Rule → Except Fault Bool
  | [] => .ok false
  | rule :: rest => do
    if ← rule.matchesPath path then return true else anyMatches path rest

/-- What the first of some rules that matches says. -/
def firstVerdict (path : List Char) : List Rule → Except Fault Bool
  | [] => .ok false
  | rule :: rest => do
    if ← rule.matchesPath path then return !rule.isNegated
    else firstVerdict path rest

/-- Whether rules ignore a path: the last one that matches decides. -/
def ignores (rules : List Rule) (path : String) : Except Fault Bool :=
  if rules.any Rule.isNegated then firstVerdict path.toList rules.reverse
  else anyMatches path.toList rules

end SymbolDiff.Ignore
