import Mathlib.Data.List.Forall2
import SymbolDiff.Proofs.Report.Lines
import SymbolDiff.Report.Text

/-!
# What the text form of a report shows

`Printed` says what a terminal shows of a line: without the characters that
would move the cursor, row by row, and with blanks up to the next tab stop in
place of each tab.  The text of a report shows its lines in this way, and where
the lines hold none of these characters the text tells the report.
-/

namespace SymbolDiff

/-- The characters that would ring the bell or move the cursor. -/
def cursorControls : List Char :=
  ['\x07', '\x08', '\x0b', '\x0c', '\r']

/-- A row that begins in a column, with blanks for each tab: one at least, and
up to the next column that is a multiple of eight. -/
inductive Untabbed : Nat → List Char → List Char → Prop where
  | nil (column : Nat) : Untabbed column [] []
  | tab {column blanks : Nat} {row shown : List Char} (some : 0 < blanks)
      (few : blanks ≤ 8) (stop : 8 ∣ column + blanks) :
      Untabbed (column + blanks) row shown →
      Untabbed column ('\t' :: row) (List.replicate blanks ' ' ++ shown)
  | other {column : Nat} {character : Char} {row shown : List Char}
      (plain : character ≠ '\t') :
      Untabbed (column + Text.cells character) row shown →
      Untabbed column (character :: row) (character :: shown)

/-- The rows that a terminal shows of a line. -/
def Printed (line : String) (rows : List (List Char)) : Prop :=
  List.Forall₂ (Untabbed 0)
    ((line.toList.filter fun character =>
      character ∉ cursorControls).splitOn '\n')
    rows

/-- Lines that are printed one after the other, each row with a line break at
its end. -/
def PrintedEach (lines : List String) (text : String) : Prop :=
  ∃ shown, List.Forall₂ Printed lines shown ∧
    text.toList = shown.flatten.flatMap (· ++ ['\n'])

/-- No character of a line is changed when it is printed. -/
def Legible (line : String) : Prop :=
  ∀ character ∈ line.toList, character ∉ '\n' :: '\t' :: cursorControls

instance (line : String) : Decidable (Legible line) :=
  inferInstanceAs (Decidable (∀ character ∈ line.toList, _))

theorem Kind.glyph_legible (kind : Kind) :
    kind.glyph ∉ '\n' :: '\t' :: cursorControls := by
  cases kind <;> decide

theorem untabbed_expandTabs (column : Nat) (row : List Char) :
    Untabbed column row (Text.expandTabs Node.tabSize column row) := by
  induction row generalizing column with
  | nil => exact .nil column
  | cons character row induction =>
      rw [Text.expandTabs]
      by_cases tab : character = '\t'
      · subst tab
        rw [if_pos rfl, Node.tabSize]
        exact .tab (by omega) (by omega) (by omega) (induction _)
      · rw [if_neg tab]
        exact .other tab (induction _)

theorem Untabbed.eq_of_notMem {column : Nat} {row shown : List Char}
    (untabbed : Untabbed column row shown) (plain : '\t' ∉ row) :
    shown = row := by
  induction untabbed with
  | nil => rfl
  | tab => exact absurd List.mem_cons_self plain
  | other _ _ induction =>
      rw [induction fun member => plain (List.mem_cons_of_mem _ member)]

/-- A legible line takes one row, which shows it as it is. -/
theorem Printed.rows_eq {line : String} {rows : List (List Char)}
    (printed : Printed line rows) (legible : Legible line) :
    rows = [line.toList] := by
  have kept : (line.toList.filter fun character => character ∉ cursorControls) =
      line.toList := by
    apply List.filter_eq_self.mpr
    intro character member
    have free := legible character member
    simp only [List.mem_cons, not_or] at free
    exact decide_eq_true free.2.2
  have unbroken : '\n' ∉ line.toList := fun member =>
    legible '\n' member List.mem_cons_self
  have untabbed : '\t' ∉ line.toList := fun member =>
    legible '\t' member (List.mem_cons_of_mem _ List.mem_cons_self)
  rw [Printed, kept, List.splitOn_eq_singleton unbroken] at printed
  obtain ⟨row, _, shown, none, rfl⟩ := List.forall₂_cons_left_iff.mp printed
  rw [List.forall₂_nil_left_iff.mp none, shown.eq_of_notMem untabbed]

namespace PrintedEach

variable {line : String} {lines others : List String} {text : String}

theorem toList_eq (printed : PrintedEach lines text)
    (legible : ∀ line ∈ lines, Legible line) :
    text.toList = ['\n'].intercalate (lines.map String.toList ++ [[]]) := by
  obtain ⟨shown, rows, written⟩ := printed
  rw [written]
  clear written
  induction rows with
  | nil => rfl
  | @cons line rows lines shown first _ induction =>
      rw [List.forall_mem_cons] at legible
      rw [List.flatten_cons, List.flatMap_append, induction legible.2,
        first.rows_eq legible.1, List.flatMap_singleton, List.map_cons,
        List.cons_append, List.intercalate_cons_of_ne_nil (by simp)]

theorem splitOn_eq (printed : PrintedEach lines text)
    (legible : ∀ line ∈ lines, Legible line) :
    text.toList.splitOn '\n' = lines.map String.toList ++ [[]] := by
  rw [printed.toList_eq legible, List.splitOn_intercalate]
  · intro row member
    rcases List.mem_append.mp member with inside | last
    · obtain ⟨line, listed, rfl⟩ := List.mem_map.mp inside
      exact fun broken => legible line listed '\n' broken List.mem_cons_self
    · rw [List.mem_singleton.mp last]
      exact List.not_mem_nil
  · simp

/-- Legible lines are told by what is printed of them. -/
theorem unique (printed : PrintedEach lines text)
    (printedToo : PrintedEach others text)
    (legible : ∀ line ∈ lines, Legible line)
    (legibleToo : ∀ line ∈ others, Legible line) : lines = others := by
  have same :=
    (printed.splitOn_eq legible).symm.trans (printedToo.splitOn_eq legibleToo)
  exact List.map_injective_iff.mpr (fun _ _ => String.toList_inj.mp)
    (List.append_cancel_right same)

/-- What is printed begins as its first line does. -/
theorem head?_eq {first : Char} (printed : PrintedEach (line :: lines) text)
    (begins : line.toList.head? = some first)
    (legible : first ∉ '\n' :: '\t' :: cursorControls) :
    text.toList.head? = some first := by
  obtain ⟨shown, rows, written⟩ := printed
  obtain ⟨top, _, printed, _, rfl⟩ := List.forall₂_cons_left_iff.mp rows
  obtain ⟨rest, letters⟩ := List.head?_eq_some_iff.mp begins
  simp only [List.mem_cons, not_or] at legible
  obtain ⟨unbroken, untabbed, kept⟩ := legible
  rw [Printed, letters, List.filter_cons, if_pos (by simpa using kept),
    List.splitOn, List.splitOnP_cons_eq_if_modifyHead,
    if_neg (by simpa using unbroken)] at printed
  obtain ⟨row, others, split⟩ := List.exists_cons_of_ne_nil
    (List.splitOn_ne_nil '\n'
      (rest.filter fun character => character ∉ cursorControls))
  rw [List.splitOn] at split
  rw [split, List.modifyHead_cons] at printed
  obtain ⟨_, _, opening, _, rfl⟩ := List.forall₂_cons_left_iff.mp printed
  rw [written]
  cases opening with
  | tab => exact absurd rfl untabbed
  | other => rfl

end PrintedEach

namespace Node

theorem splitLines_eq_splitOn (text : List Char) :
    splitLines text = text.splitOn '\n' := by
  induction text with
  | nil => rfl
  | cons first rest induction =>
      rw [List.splitOn] at induction
      rw [splitLines, induction, List.splitOn,
        List.splitOnP_cons_eq_if_modifyHead]
      by_cases break' : first = '\n'
      · simp [break']
      · cases rows : List.splitOnP (· == '\n') rest with
        | nil => exact absurd rows (List.splitOn_ne_nil '\n' rest)
        | cons row others => simp [break']

theorem isCursorControl_iff (character : Char) :
    isCursorControl character = true ↔ character ∈ cursorControls := by
  simp [isCursorControl, cursorControls, ← Char.toNat_inj, or_assoc]

theorem printable_eq_filter (depth : Nat) (node : Node) :
    printable depth node =
      (line depth node).toList.filter fun character =>
        character ∉ cursorControls := by
  apply List.filter_congr
  intro character _
  simp [← isCursorControl_iff]

/-- The text of a report shows its lines. -/
theorem printedEach_text (node : Node) : PrintedEach node.lines node.text := by
  refine ⟨(node.walk 0).map fun entry =>
    (splitLines (printable entry.1 entry.2)).map (Text.expandTabs tabSize 0),
    ?_, ?_⟩
  · rw [lines, List.forall₂_map_left_iff, List.forall₂_map_right_iff]
    apply List.forall₂_same.mpr
    intro entry _
    rw [Printed, ← printable_eq_filter, ← splitLines_eq_splitOn,
      List.forall₂_map_right_iff]
    exact List.forall₂_same.mpr fun row _ => untabbed_expandTabs 0 row
  · rw [text, String.toList_ofList, displayLines]
    rw [← List.flatMap_def, List.flatMap_assoc, List.flatMap_assoc]
    simp only [List.flatMap_map]

end Node

end SymbolDiff
