import SymbolDiff.Extract.Fault
import SymbolDiff.Symbol.Basic
import SymbolDiff.Text.Blank

/-!
# Asking a tree

The questions that extraction asks of a tree and that a tree may fail to
answer: the text of a node, the child in a role, the text of a type annotation.
-/

namespace SymbolDiff.Extract

/-- The text of a node. -/
def textOf (source : ByteArray) (tree : Tree) : Except Fault String :=
  if tree.head.hasText then
    match String.fromUTF8? (tree.bytes source) with
    | some text => .ok text
    | none => .error (.found source tree (.notUtf8 tree.kind))
  else .error (.found source tree (.noText tree.kind))

/-- The text of a node that may be missing. -/
def textOf? (source : ByteArray) : Option Tree → Except Fault (Option String)
  | none => .ok none
  | some tree => (textOf source tree).map some

/-- The child in a role that has to be played. -/
def requireChild (source : ByteArray) (tree : Tree) (role : String) :
    Except Fault Tree :=
  match tree.child? role with
  | some child => .ok child
  | none => .error (.found source tree (.missingRole tree.kind role))

/-- The text of the child in a role that has to be played. -/
def textOfChild (source : ByteArray) (tree : Tree) (role : String) :
    Except Fault String := do
  textOf source (← requireChild source tree role)

/-- An annotation's text without the blanks around it and the colon before it.
-/
def withoutColon (text : String) : String :=
  match Text.trim Text.isBlank text.toList with
  | ':' :: rest => String.ofList (Text.trim Text.isBlank rest)
  | stripped => String.ofList stripped

/-- The type expression of an annotation: the text of its only part, or else
all of it.  No annotation at all leaves the type unspecified. -/
def annotationText (source : ByteArray) : Option Tree → Except Fault String
  | none => .ok unspecified
  | some annotation =>
    match annotation.significantChildren with
    | [only] => textOf source only
    | _ => (textOf source annotation).map withoutColon

/-- The line of the first syntax error at or below a node. -/
def firstErrorLine (source : ByteArray) (tree : Tree) : Option Nat :=
  if tree.hasError then
    match (Located.root tree).descendantsOfKind ["ERROR"] with
    | found :: _ => some (found.tree.line source)
    | [] => some (tree.line source)
  else none

end SymbolDiff.Extract
