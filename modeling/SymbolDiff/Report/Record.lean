import SymbolDiff.Data.Reading
import SymbolDiff.Report.Node

/-!
# Stored report trees

A report tree is stored as a table with a label, a kind and, for an entry that
holds others, its children.  `Node.ofData` reads it back: the fields of an
entry are checked before its shape.
-/

namespace SymbolDiff.Node

open Checked

mutual

/-- The stored form: children are written only where there are some. -/
def toData : Node → Data
  | .mk label kind children =>
    .table ([("label", .text label), ("kind", .text kind.word)] ++
      match children with
      | [] => []
      | first :: rest => [("children", .list (toDataList (first :: rest)))])

def toDataList : List Node → List Data
  | [] => []
  | node :: rest => toData node :: toDataList rest

end

/-- The kinds by the words that stand for them. -/
def kindChoices : List (String × Kind) :=
  Kind.all.map fun kind => (kind.word, kind)

/-- Judges a node whose fields are all valid. -/
def judge (label : String) (kind : Kind) (children : Option (List Node)) :
    Checked Node :=
  match check label kind children with
  | .ok node => .valid node
  | .error fault => fail (.badShape fault.message)

mutual

/-- Reads a stored tree; keys beyond the three are ignored. -/
def ofData : Data → Checked Node
  | .table entries =>
    ((fun label kind children => (label, kind, children))
      <$> required entries "label" readText
      <*> required entries "kind" (readChoice kindChoices)
      <*> ofChildren entries).andThen fun fields =>
        judge fields.1 fields.2.1 fields.2.2
  | _ => fail (.notRecord "DiffNode")

/-- The children of a table: absent, null or a list of stored trees. -/
def ofChildren : List (String × Data) → Checked (Option (List Node))
  | [] => .valid none
  | (name, value) :: rest =>
    if name = "children" then under (.key "children") (ofChildList value)
    else ofChildren rest

def ofChildList : Data → Checked (Option (List Node))
  | .null => .valid none
  | .list items => some <$> ofMembers 0 items
  | _ => fail .notSequence

def ofMembers : Nat → List Data → Checked (List Node)
  | _, [] => .valid []
  | position, item :: rest =>
    List.cons <$> under (.index position) (ofData item) <*>
      ofMembers (position + 1) rest

end

end SymbolDiff.Node
