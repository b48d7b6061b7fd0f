import SymbolDiff.CommandLine.Run
import SymbolDiff.Proofs.Report.Json
import SymbolDiff.Proofs.Report.Text

/-!
# Reports in both formats

A report in words shows the lines of the differences as a terminal does, and a
report for machines is the JSON of their stored form.  Neither can be taken for
the report that there are no differences.
-/

namespace SymbolDiff.CommandLine

/-- What is written when nothing differs. -/
def nothingFound : Format → String
  | .text => "No differences found.\n"
  | .json => "null\n"

/-- What is written of differences. -/
inductive Renders (node : Node) : Format → String → Prop where
  | text {report : String} :
      PrintedEach node.lines report → Renders node .text report
  | json {report : String} {letters : List Char} :
      report.toList = letters ++ ['\n'] → Json.Value 0 node.toData letters →
      Renders node .json report

/-- What is written in this format tells the differences. -/
def Telling (node : Node) : Format → Prop
  | .text => ∀ line ∈ node.lines, Legible line
  | .json => True

theorem renders_report (node : Node) (format : Format) :
    Renders node format (report format (some node)) := by
  cases format with
  | text => exact .text node.printedEach_text
  | json =>
      obtain ⟨letters, written, value⟩ := node.value_json
      exact .json written value

namespace Renders

variable {node other : Node} {format : Format} {report : String}

/-- The first character: the glyph of the root, or the brace that opens it. -/
theorem head? (renders : Renders node format report) :
    report.toList.head? = some node.kind.glyph ∨
      report.toList.head? = some '\x7b' := by
  cases renders with
  | text printed =>
      left
      obtain ⟨label, kind, children⟩ := node
      rw [Node.lines, Node.walk, List.map_cons] at printed
      apply printed.head?_eq
      · simp [Node.line, Node.indent, Node.kind]
      · exact kind.glyph_legible
  | json written value =>
      right
      obtain ⟨entries, table⟩ := node.exists_toData_eq_table
      rw [table] at value
      cases value
      rw [written]
      rfl

theorem ne_nothingFound (renders : Renders node format report) (other : Format) :
    report ≠ nothingFound other := by
  rintro rfl
  rcases renders.head? with glyph | brace
  · cases other <;> cases kind : node.kind <;>
      simp [nothingFound, kind, Kind.glyph] at glyph
  · cases other <;> simp [nothingFound] at brace

theorem ne_empty (renders : Renders node format report) : report ≠ "" := by
  rintro rfl
  rcases renders.head? with glyph | brace
  · simp at glyph
  · simp at brace

theorem unique (renders : Renders node format report)
    (rendersToo : Renders other format report) (telling : Telling node format)
    (tellingToo : Telling other format) : node = other := by
  cases renders with
  | text printed =>
      cases rendersToo with
      | text printedToo =>
          exact Node.eq_of_lines_eq (printed.unique printedToo telling tellingToo)
  | json written value =>
      cases rendersToo with
      | json writtenToo valueToo =>
          rw [written] at writtenToo
          obtain rfl := List.append_cancel_right writtenToo
          exact Node.toData_inj (value.unique valueToo)

end Renders

end SymbolDiff.CommandLine
