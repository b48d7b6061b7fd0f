import SymbolDiff.Extract.Query
import SymbolDiff.Proofs.Outcome
import SymbolDiff.Proofs.Tree.SeenNodes

/-!
# Same answers from trees that look alike

The questions of extraction that may fail depend on the head of a node, on the
heads of its children in a role, and for an annotation on the heads of its
parts.  Trees that look alike therefore get the same texts and the same
faults.
-/

namespace SymbolDiff.Extract

open SymbolDiff.Tree (Resembles Matches)

variable {bodies : Bodies} {tree other : Tree}

theorem found_eq_of_head (source : ByteArray) (same : tree.head = other.head)
    (shortfall : Shortfall) :
    Fault.found source tree shortfall = .found source other shortfall := by
  rw [Fault.found, Fault.found, Tree.kind, Tree.kind, Tree.line, Tree.line,
    same]

theorem textOf_eq_of_head (source : ByteArray)
    (same : tree.head = other.head) :
    textOf source tree = textOf source other := by
  rw [textOf, textOf, found_eq_of_head source same,
    found_eq_of_head source same, Tree.bytes, Tree.bytes, Tree.kind,
    Tree.kind, same]

/-- Matching children answer a question for a required child alike. -/
theorem rel_requireChild (source : ByteArray) {role : String}
    {related : Tree → Tree → Prop}
    (same : tree.head = other.head)
    (children : Option.Rel related (tree.child? role) (other.child? role)) :
    Outcome.Rel related
      (requireChild source tree role) (requireChild source other role) := by
  have kinds : tree.kind = other.kind := congrArg Head.kind same
  rw [requireChild, requireChild, found_eq_of_head source same, kinds]
  generalize tree.child? role = found at children ⊢
  generalize other.child? role = partner at children ⊢
  cases children with
  | none => exact .error _
  | some first => exact .ok first

theorem textOfChild_eq (source : ByteArray)
    (resembles : Resembles bodies tree other) (role : String)
    (notBody : role ≠ "body") :
    textOfChild source tree role = textOfChild source other role := by
  apply (rel_requireChild source resembles.head_eq
    (resembles.rel_child? role notBody)).bind_eq
  intro first second alike
  exact textOf_eq_of_head source alike.head_eq

theorem textOf?_eq_of_rel (source : ByteArray) {found partner : Option Tree}
    (children : Option.Rel (Resembles bodies) found partner) :
    textOf? source found = textOf? source partner := by
  cases children with
  | none => rfl
  | some alike =>
      rw [textOf?, textOf?, textOf_eq_of_head source alike.head_eq]

/-- The text of an annotation is that of its only part, so it matters that
the parts match one by one. -/
theorem annotationText_eq (source : ByteArray)
    (resembles : Resembles bodies tree other) :
    annotationText source (some tree) = annotationText source (some other) := by
  have whole := textOf_eq_of_head source resembles.head_eq
  have parts := resembles.forall₂_significantChildren
  rw [annotationText, annotationText, whole]
  generalize tree.significantChildren = first at parts ⊢
  generalize other.significantChildren = second at parts ⊢
  cases parts with
  | nil => rfl
  | cons part rest =>
      cases rest with
      | nil => exact textOf_eq_of_head source part.1
      | cons _ _ => rfl

theorem annotationText_eq_of_rel (source : ByteArray)
    {found partner : Option Tree}
    (children : Option.Rel (Resembles bodies) found partner) :
    annotationText source found = annotationText source partner := by
  cases children with
  | none => rfl
  | some alike => exact annotationText_eq source alike

end SymbolDiff.Extract
