import Mathlib.Data.List.Basic
import SymbolDiff.Report.Lines

/-!
# What the lines of a report tell

A line shows the depth, the kind and the label of its entry, whatever the label
holds: the indentation ends at the glyph, because no glyph is a blank.  The
depths of the lines in turn tell where the entries below an entry end, so the
lines of a report determine the report.  An entry without entries below it has
one form only, and the statements need no condition on the shape of a tree.
-/

namespace SymbolDiff

theorem Kind.glyph_ne_blank (kind : Kind) : kind.glyph ≠ ' ' := by
  cases kind <;> decide

theorem Kind.glyph_inj {first second : Kind} :
    first.glyph = second.glyph ↔ first = second := by
  cases first <;> cases second <;> decide

namespace Node

/-- What the line of an entry shows. -/
structure Shown where
  depth : Nat
  kind : Kind
  label : String

/-- The line that shows it. -/
def Shown.text (shown : Shown) : String :=
  String.ofList
    (indent shown.depth ++ shown.kind.glyph :: ' ' :: shown.label.toList)

/-- What is shown of an entry at a depth. -/
def shownOf (entry : Nat × Node) : Shown :=
  ⟨entry.1, entry.2.kind, entry.2.label⟩

/-- What stands in a line after the indentation. -/
def unindented (line : String) : List Char :=
  line.toList.dropWhile fun character => decide (character = ' ')

/-- Whether a line carries the glyph of a kind after the indentation. -/
def carriesGlyph (kind : Kind) (line : String) : Bool :=
  (unindented line).head? = some kind.glyph

theorem lines_eq_map_text (node : Node) :
    node.lines = ((node.walk 0).map shownOf).map Shown.text := by
  rw [List.map_map]
  rfl

theorem mem_indent {depth : Nat} {character : Char}
    (member : character ∈ indent depth) : character = ' ' :=
  List.eq_of_mem_replicate member

theorem unindented_text (shown : Shown) :
    unindented shown.text =
      shown.kind.glyph :: ' ' :: shown.label.toList := by
  have glyph := shown.kind.glyph_ne_blank
  rw [unindented, Shown.text, String.toList_ofList,
    List.dropWhile_append_of_pos (by
      intro character member
      simpa using mem_indent member)]
  simp [glyph]

/-- The indentation is found by its blanks, however the label begins. -/
theorem takeWhile_text (shown : Shown) :
    shown.text.toList.takeWhile (fun character => decide (character = ' ')) =
      indent shown.depth := by
  have glyph := shown.kind.glyph_ne_blank
  rw [Shown.text, String.toList_ofList,
    List.takeWhile_append_of_pos (by
      intro character member
      simpa using mem_indent member)]
  simp [glyph]

theorem indent_inj {depth other : Nat} (same : indent depth = indent other) :
    depth = other := by
  have length := congrArg List.length same
  simp only [indent, List.length_replicate] at length
  omega

theorem Shown.text_injective : Function.Injective Shown.text := by
  intro first second same
  have depths : first.depth = second.depth := by
    apply indent_inj
    rw [← takeWhile_text first, ← takeWhile_text second, same]
  have marks : first.kind = second.kind ∧ first.label = second.label := by
    have printed := congrArg unindented same
    rw [unindented_text, unindented_text] at printed
    simpa [Kind.glyph_inj, String.toList_inj] using printed
  cases first
  cases second
  rw [Shown.mk.injEq]
  exact ⟨depths, marks⟩

/-- The following lines begin less deep than a limit, if there are any. -/
def StartsAbove (limit : Nat) (following : List Shown) : Prop :=
  ∀ next ∈ following.head?, next.depth < limit

theorem StartsAbove.walkList {depth : Nat} {following : List Shown}
    (starts : StartsAbove depth following) (nodes : List Node) :
    StartsAbove (depth + 1)
      ((walkList depth nodes).map shownOf ++ following) := by
  intro next first
  cases nodes with
  | nil =>
      have above := starts next first
      omega
  | cons node rest =>
      cases node with
      | mk label kind children =>
          simp [Node.walkList, walk, shownOf] at first
          subst first
          exact Nat.lt_succ_self depth

mutual

/-- The lines of a tree tell the tree, also where less deep lines follow.  What
stands below the root ends where the depth falls back to that of the root. -/
theorem walk_inj {depth : Nat} {first second : Node}
    {following others : List Shown}
    (starts : StartsAbove (depth + 1) following)
    (otherStarts : StartsAbove (depth + 1) others)
    (same : (walk depth first).map shownOf ++ following =
      (walk depth second).map shownOf ++ others) :
    first = second ∧ following = others := by
  cases first with
  | mk label kind children =>
      cases second with
      | mk otherLabel otherKind otherChildren =>
          simp only [walk, List.map_cons, List.cons_append, List.cons.injEq,
            shownOf, Shown.mk.injEq, Node.kind, Node.label] at same
          obtain ⟨⟨-, sameKind, sameLabel⟩, below⟩ := same
          obtain ⟨sameChildren, rest⟩ :=
            walkList_inj starts otherStarts below
          subst sameKind sameLabel sameChildren
          exact ⟨rfl, rest⟩

theorem walkList_inj {depth : Nat} {first second : List Node}
    {following others : List Shown}
    (starts : StartsAbove depth following)
    (otherStarts : StartsAbove depth others)
    (same : (walkList depth first).map shownOf ++ following =
      (walkList depth second).map shownOf ++ others) :
    first = second ∧ following = others := by
  cases first with
  | nil =>
      cases second with
      | nil => exact ⟨rfl, same⟩
      | cons node rest =>
          cases node with
          | mk label kind children =>
              simp [walkList, walk, shownOf] at same
              subst same
              exact absurd (starts _ rfl) (Nat.lt_irrefl depth)
  | cons node rest =>
      cases second with
      | nil =>
          cases node with
          | mk label kind children =>
              simp [walkList, walk, shownOf] at same
              subst same
              exact absurd (otherStarts _ rfl) (Nat.lt_irrefl depth)
      | cons otherNode otherRest =>
          rw [walkList, walkList, List.map_append, List.map_append,
            List.append_assoc, List.append_assoc] at same
          obtain ⟨sameNode, tail⟩ := walk_inj
            (starts.walkList rest) (otherStarts.walkList otherRest) same
          obtain ⟨sameRest, last⟩ := walkList_inj starts otherStarts tail
          subst sameNode sameRest
          exact ⟨rfl, last⟩

end

theorem eq_of_lines_eq {first second : Node}
    (same : first.lines = second.lines) : first = second := by
  rw [lines_eq_map_text, lines_eq_map_text] at same
  have shown := List.map_injective_iff.mpr Shown.text_injective same
  have ends : StartsAbove (0 + 1) [] := by simp [StartsAbove]
  have same : (first.walk 0).map shownOf ++ [] =
      (second.walk 0).map shownOf ++ [] := by
    rw [List.append_nil, List.append_nil]
    exact shown
  exact (walk_inj ends ends same).1

theorem carriesGlyph_text (kind : Kind) (shown : Shown) :
    carriesGlyph kind shown.text = decide (shown.kind = kind) := by
  rw [carriesGlyph, unindented_text, List.head?_cons]
  simp only [Option.some.injEq, Kind.glyph_inj]

mutual

theorem countP_walk (kind : Kind) (depth : Nat) (node : Node) :
    (walk depth node).countP (fun entry => decide (entry.2.kind = kind)) =
      count kind node := by
  cases node with
  | mk label own children =>
      rw [walk, count, List.countP_cons, countP_walkList kind _ children]
      by_cases same : own = kind
      · simp [Node.kind, same, Nat.add_comm]
      · simp [Node.kind, same]

theorem countP_walkList (kind : Kind) (depth : Nat) (nodes : List Node) :
    (walkList depth nodes).countP (fun entry => decide (entry.2.kind = kind)) =
      countList kind nodes := by
  cases nodes with
  | nil => rfl
  | cons node rest =>
      rw [walkList, countList, List.countP_append,
        countP_walk kind depth node, countP_walkList kind depth rest]

end

theorem countP_lines (kind : Kind) (node : Node) :
    node.lines.countP (carriesGlyph kind) = count kind node := by
  have carried : carriesGlyph kind ∘ Shown.text =
      fun shown => decide (shown.kind = kind) := by
    funext shown
    exact carriesGlyph_text kind shown
  rw [lines_eq_map_text, List.countP_map, carried, List.countP_map,
    ← countP_walk kind 0 node]
  rfl

/-- The printed lines determine the report, and the glyphs that stand after the
indentation give the number of its entries of each kind. -/
theorem lines_determine (first second : Node) :
    (first.lines = second.lines ↔ first = second) ∧
      ∀ kind, count kind first =
        (first.lines.filter (carriesGlyph kind)).length := by
  refine ⟨⟨eq_of_lines_eq, fun same => same ▸ rfl⟩, ?_⟩
  intro kind
  rw [← List.countP_eq_length_filter]
  exact (countP_lines kind first).symm

end Node

end SymbolDiff
