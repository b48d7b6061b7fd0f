import SymbolDiff.Report.Node

/-!
# Reports line by line

A report is printed one entry a line, each entry before those below it, with
two blanks of indent for each level and a glyph that shows the kind.
-/

namespace SymbolDiff

/-- The mark in front of a label. -/
def Kind.glyph : Kind → Char
  | .outline => '•'
  | .added => '+'
  | .removed => '-'
  | .changed => '~'

namespace Node

mutual

/-- The entries in print order, each with its depth. -/
def walk (depth : Nat) : Node → List (Nat × Node)
  | .mk label kind children =>
    (depth, .mk label kind children) :: walkList (depth + 1) children

def walkList (depth : Nat) : List Node → List (Nat × Node)
  | [] => []
  | node :: rest => walk depth node ++ walkList depth rest

end

/-- The blanks in front of an entry. -/
def indent (depth : Nat) : List Char :=
  List.replicate (2 * depth) ' '

/-- One entry as it is printed. -/
def line (depth : Nat) (node : Node) : String :=
  String.ofList (indent depth ++ node.kind.glyph :: ' ' :: node.label.toList)

/-- All entries as they are printed. -/
def lines (node : Node) : List String :=
  (node.walk 0).map fun entry => line entry.1 entry.2

end Node

end SymbolDiff
