import SymbolDiff.Report.Lines
import SymbolDiff.Text.Cells

/-!
# Reports as terminal text

The text form of a report follows its lines.  Characters that would move the
cursor are left out, tabs become blanks, and, where colour is asked for, the
entries that are not mere headings are coloured line by line, from tab stop to
tab stop.
-/

namespace SymbolDiff

/-- The colour of an entry, as a terminal's colour number; headings have none.
-/
def Kind.colour : Kind → Option Nat
  | .outline => none
  | .added => some 92
  | .removed => some 91
  | .changed => some 93

namespace Node

/-- Characters that would ring the bell or move the cursor. -/
def isCursorControl (c : Char) : Bool :=
  c.toNat = 0x07 || c.toNat = 0x08 || c.toNat = 0x0b || c.toNat = 0x0c ||
    c.toNat = 0x0d

/-- One entry without the characters that would move the cursor. -/
def printable (depth : Nat) (node : Node) : List Char :=
  (line depth node).toList.filter fun c => !isCursorControl c

/-- Columns at which a tab stops. -/
def tabSize : Nat := 8

/-- The lines of a text, each without its line break. -/
def splitLines : List Char → List (List Char)
  | [] => [[]]
  | c :: rest =>
    if c = '\n' then [] :: splitLines rest
    else match splitLines rest with
      | [] => [[c]]
      | current :: following => (c :: current) :: following

/-- The report without tab stops and colour. -/
def plain (node : Node) : String :=
  String.ofList
    ((node.walk 0).flatMap fun entry => printable entry.1 entry.2 ++ ['\n'])

/-- The lines on the terminal, with the kinds of their entries; a label with
line breaks takes several. -/
def displayLines (node : Node) : List (Kind × List Char) :=
  (node.walk 0).flatMap fun entry =>
    (splitLines (printable entry.1 entry.2)).map fun text =>
      (entry.2.kind, text)

/-- The report as it is printed without colour. -/
def text (node : Node) : String :=
  String.ofList (node.displayLines.flatMap fun entry =>
    Text.expandTabs tabSize 0 entry.2 ++ ['\n'])

/-- The control sequence that sets a display attribute. -/
def displayAttribute (number : Nat) : List Char :=
  '\x1b' :: '[' :: (toString number).toList ++ ['m']

/-- Text in the colour of its entry; where there is no text there is no colour.
-/
def coloured (kind : Kind) (text : List Char) : List Char :=
  match kind.colour with
  | some colour =>
    if text.isEmpty then text
    else displayAttribute colour ++ text ++ displayAttribute 0
  | none => text

/-- The report as it is printed in colour. -/
def colouredText (node : Node) : String :=
  String.ofList (node.displayLines.flatMap fun entry =>
    (Text.tabStretches tabSize 0 entry.2).flatMap (coloured entry.1) ++ ['\n'])

end Node

end SymbolDiff
