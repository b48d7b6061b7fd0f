/-!
# File name patterns

Patterns in which a star stands for any text, a question mark for any
character, and brackets for one character of a set.  Slashes are characters
like any other.
-/

namespace SymbolDiff.Glob

/-- The characters that a set in brackets admits: those of its chunks, and
those between the end of a chunk and the start of the next one. -/
structure CharacterSet where
  negated : Bool
  chunks : List (List Char)
  deriving DecidableEq, Repr

namespace CharacterSet

/-- Whether a character lies between two neighbouring chunks. -/
def between (c : Char) : List (List Char) → Bool
  | [] => false
  | [_] => false
  | first :: second :: rest =>
    (match first.getLast?, second.head? with
      | some low, some high => low ≤ c && c ≤ high
      | _, _ => false) || between c (second :: rest)

/-- Whether a set admits a character. -/
def admits (set : CharacterSet) (c : Char) : Bool :=
  (set.chunks.any (·.contains c) || between c set.chunks) != set.negated

/-- Cuts the content of a set at the hyphens of its ranges.  The next `guarded`
characters are taken as they are: one at the start, two after a cut. -/
def cut : Nat → List Char → List Char → List (List Char)
  | _, current, [] => [current.reverse]
  | guarded + 1, current, c :: rest => cut guarded (c :: current) rest
  | 0, current, c :: rest =>
    if c = '-' then
      if rest.isEmpty then [(c :: current).reverse]
      else current.reverse :: cut 2 [] rest
    else cut 0 (c :: current) rest

/-- Drops ranges that run backwards, from the last to the first. -/
def withoutEmptyRanges : List (List Char) → List (List Char)
  | [] => []
  | first :: rest =>
    match withoutEmptyRanges rest with
    | [] => [first]
    | second :: further =>
      match first.getLast?, second.head? with
      | some low, some high =>
        if high < low then (first.dropLast ++ second.drop 1) :: further
        else first :: second :: further
      | _, _ => first :: second :: further

/-- The set that the text between two brackets describes. -/
def ofContent (content : List Char) : CharacterSet :=
  match content with
  | '!' :: rest => ⟨true, withoutEmptyRanges (cut 1 [] rest)⟩
  | _ => ⟨false, withoutEmptyRanges (cut 1 [] content)⟩

end CharacterSet

/-- A part of a pattern. -/
inductive Piece where
  | text (c : Char)
  | anything
  | anyCharacter
  | oneOf (set : CharacterSet)
  deriving DecidableEq, Repr

/-- The text up to the bracket that closes a set, and what follows it.  A
closing bracket at the start belongs to the set, also behind an exclamation
mark. -/
def splitSet (pattern : List Char) : Option (List Char × List Char) :=
  let opening := match pattern with
    | '!' :: ']' :: _ => 2
    | '!' :: _ => 1
    | ']' :: _ => 1
    | _ => 0
  let content := (pattern.drop opening).takeWhile (· ≠ ']')
  match (pattern.drop opening).dropWhile (· ≠ ']') with
  | [] => none
  | _ :: rest => some (pattern.take opening ++ content, rest)

theorem length_splitSet {pattern content rest : List Char}
    (split : splitSet pattern = some (content, rest)) :
    rest.length < pattern.length := by
  simp only [splitSet] at split
  generalize opening :
    (match pattern with
      | '!' :: ']' :: _ => 2
      | '!' :: _ => 1
      | ']' :: _ => 1
      | _ => 0) = width at split
  have shorter :=
    (List.dropWhile_sublist (· ≠ ']') (l := pattern.drop width)).length_le
  split at split
  · simp at split
  · rename_i head tail dropped
    rw [dropped] at shorter
    simp only [Option.some.injEq, Prod.mk.injEq] at split
    obtain ⟨_, rfl⟩ := split
    simp only [List.length_cons, List.length_drop] at shorter
    omega

/-- The parts of a pattern.  A bracket that nothing closes stands for itself. -/
def pieces (pattern : List Char) : List Piece :=
  match pattern with
  | [] => []
  | '*' :: rest => .anything :: pieces rest
  | '?' :: rest => .anyCharacter :: pieces rest
  | '[' :: rest =>
    match _split : splitSet rest with
    | some (content, following) =>
      .oneOf (.ofContent content) :: pieces following
    | none => .text '[' :: pieces rest
  | c :: rest => .text c :: pieces rest
termination_by pattern.length
decreasing_by
  all_goals first
    | (have shorter := length_splitSet _split
       simp only [List.length_cons]
       omega)
    | simp

/-- A text and what is left of it after dropping characters of a class, one
after the other. -/
def suffixes (drop : Char → Bool) : List Char → List (List Char)
  | [] => [[]]
  | c :: rest => (c :: rest) :: if drop c then suffixes drop rest else []

/-- Whether parts match a text from start to end. -/
def matchPieces : List Piece → List Char → Bool
  | [], text => text.isEmpty
  | .text c :: rest, text =>
    match text with
    | first :: following => first = c && matchPieces rest following
    | [] => false
  | .anyCharacter :: rest, text =>
    match text with
    | _ :: following => matchPieces rest following
    | [] => false
  | .oneOf set :: rest, text =>
    match text with
    | first :: following => set.admits first && matchPieces rest following
    | [] => false
  | .anything :: rest, text =>
    (suffixes (fun _ => true) text).any (matchPieces rest)

/-- Whether a pattern matches a text. -/
def admits (pattern text : String) : Bool :=
  matchPieces (pieces pattern.toList) text.toList

end SymbolDiff.Glob
