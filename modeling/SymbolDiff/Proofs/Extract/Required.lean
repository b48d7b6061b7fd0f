import SymbolDiff.Extract.Query
import SymbolDiff.Proofs.Outcome
import SymbolDiff.Proofs.Tree.DocumentOrder

/-!
# What extraction requires of a tree

Extraction asks for the text of nodes and for children in a role.  Where every
text can be had, only a missing child is left to fail on.  The lemmas below
say so for each question, in the form that the parts of extraction build on:
which condition decides the outcome, and which faults can come out of it.
-/

namespace SymbolDiff

namespace Tree

/-- A child plays the role. -/
def Has (tree : Tree) (role : String) : Prop :=
  ∃ child, tree.child? role = some child

/-- The text of the node is there and valid. -/
def Readable (source : ByteArray) (tree : Tree) : Prop :=
  tree.head.hasText = true ∧
    (String.fromUTF8? (tree.bytes source)).isSome = true

instance (source : ByteArray) (tree : Tree) : Decidable (tree.Readable source) :=
  inferInstanceAs (Decidable (_ ∧ _))

theorem mem_childrenOfKind_iff (tree child : Tree) (kinds : List String) :
    child ∈ tree.childrenOfKind kinds ↔
      child ∈ tree.children ∧ child.kind ∈ kinds := by
  rw [childrenOfKind, List.mem_filter, List.contains_iff_mem]

theorem forall_mem_childrenOfKind_iff
    (tree : Tree) (kinds : List String) (holds : Tree → Prop) :
    (∀ child ∈ tree.childrenOfKind kinds, holds child) ↔
      ∀ child ∈ tree.children, child.kind ∈ kinds → holds child := by
  simp only [mem_childrenOfKind_iff, and_imp]

theorem firstOfKind?_eq_none_iff (tree : Tree) (kinds : List String) :
    tree.firstOfKind? kinds = none ↔
      ∀ child ∈ tree.children, child.kind ∉ kinds := by
  rw [firstOfKind?, List.find?_eq_none]
  simp only [List.contains_iff_mem]

/-- A tree is a node of another one. -/
def Inside (part tree : Tree) : Prop :=
  ∃ node ∈ tree.listing [], node.tree = part

namespace Inside

variable {part tree : Tree}

theorem refl (tree : Tree) : tree.Inside tree :=
  ⟨⟨tree, []⟩, (mem_listing_iff tree [] _).mpr (.inl rfl), rfl⟩

theorem of_below {node : Located} (below : node.Below (.root tree)) :
    node.tree.Inside tree :=
  ⟨node, (mem_listing_iff tree [] node).mpr (.inr below), rfl⟩

theorem child (inside : part.Inside tree)
    {child : Tree} (member : child ∈ part.children) : child.Inside tree := by
  obtain ⟨node, listed, rfl⟩ := inside
  have below : Located.Below ⟨child, node.kind :: node.ancestors⟩ node := by
    rw [Located.below_iff]
    exact ⟨_, (Located.mem_children_iff _ node).mpr ⟨member, rfl⟩, .inl rfl⟩
  rcases (mem_listing_iff tree [] node).mp listed with rfl | deeper
  · exact of_below below
  · exact of_below (below.trans deeper)

theorem trans {between : Tree} (inner : part.Inside between)
    (outer : between.Inside tree) : part.Inside tree := by
  obtain ⟨node, listed, rfl⟩ := inner
  obtain ⟨above, placed, rfl⟩ := outer
  have shifted : ⟨node.tree, node.ancestors ++ above.ancestors⟩ ∈
      above.tree.listing above.ancestors := by
    rw [← List.nil_append above.ancestors, listing_append]
    exact List.mem_map_of_mem listed
  refine ⟨⟨node.tree, node.ancestors ++ above.ancestors⟩, ?_, rfl⟩
  rcases (mem_listing_iff above.tree _ _).mp shifted with same | below
  · rw [same]
    exact placed
  · rcases (mem_listing_iff tree [] above).mp placed with rfl | deeper
    · exact (mem_listing_iff tree [] _).mpr (.inr below)
    · exact (mem_listing_iff tree [] _).mpr (.inr (below.trans deeper))

theorem child? (inside : part.Inside tree) (role : String) :
    ∀ child ∈ part.child? role, child.Inside tree := by
  intro child found
  exact inside.child (List.mem_of_find?_eq_some found)

theorem firstOfKind? (inside : part.Inside tree) (kinds : List String) :
    ∀ child ∈ part.firstOfKind? kinds, child.Inside tree := by
  intro child found
  exact inside.child (List.mem_of_find?_eq_some found)

theorem childrenOfKind (inside : part.Inside tree) (kinds : List String) :
    ∀ child ∈ part.childrenOfKind kinds, child.Inside tree := by
  intro child member
  exact inside.child (List.mem_of_mem_filter member)

theorem namedChildren (inside : part.Inside tree) :
    ∀ child ∈ part.namedChildren, child.Inside tree := by
  intro child member
  exact inside.child (List.mem_of_mem_filter member)

theorem significantChildren (inside : part.Inside tree) :
    ∀ child ∈ part.significantChildren, child.Inside tree := by
  intro child member
  exact inside.namedChildren child (List.mem_of_mem_filter member)

end Inside

end Tree

namespace Extract

open Outcome

/-- Every node of a tree has its text. -/
def Legible (source : ByteArray) (tree : Tree) : Prop :=
  ∀ node ∈ tree.listing [], node.tree.Readable source

instance (source : ByteArray) (tree : Tree) : Decidable (Legible source tree) :=
  inferInstanceAs (Decidable (∀ node ∈ tree.listing [], _))

/-- The fault of a node inside a tree that lacks a child in a role. -/
def Lacking (source : ByteArray) (tree : Tree) (fault : Fault) : Prop :=
  ∃ part role, part.Inside tree ∧ part.child? role = none ∧
    fault = .found source part (.missingRole part.kind role)

theorem requireChild_bind_eq_ok_iff {α : Type} {source : ByteArray} {tree : Tree}
    {role : String} {next : Tree → Except Fault α} {result : α} :
    (requireChild source tree role >>= next) = .ok result ↔
      ∃ child, tree.child? role = some child ∧ next child = .ok result := by
  rw [requireChild]
  cases tree.child? role with
  | none => simp
  | some child => simp

/-- Going on with a required child takes the child and what is asked of it.
The lack of the child is one of the faults that are expected. -/
theorem requireChild_bind_expecting {α : Type} (source : ByteArray)
    {file tree : Tree} (inside : tree.Inside file) (role : String)
    {expected : Fault → Prop}
    (includes : ∀ fault, Lacking source file fault → expected fault)
    {next : Tree → Except Fault α} {holds : Tree → Prop}
    (following : ∀ child, child.Inside file →
      Decided (holds child) expected (next child)) :
    Decided (∃ child, tree.child? role = some child ∧ holds child)
      expected (requireChild source tree role >>= next) := by
  rw [requireChild]
  cases found : tree.child? role with
  | none =>
      refine ⟨?_, includes _ ⟨tree, role, inside, found, rfl⟩⟩
      rintro ⟨child, impossible, _⟩
      cases impossible
  | some child =>
      have rest := following child (inside.child? role child found)
      exact rest.congr (by simp)

theorem requireChild_bind {α : Type} (source : ByteArray) {file tree : Tree}
    (inside : tree.Inside file) (role : String)
    {next : Tree → Except Fault α} {holds : Tree → Prop}
    (following : ∀ child, child.Inside file →
      Decided (holds child) (Lacking source file) (next child)) :
    Decided (∃ child, tree.child? role = some child ∧ holds child)
      (Lacking source file) (requireChild source tree role >>= next) :=
  requireChild_bind_expecting source inside role (fun _ lacks => lacks)
    following

/-- A walk over the nodes of some kinds asks its condition of each of them. -/
theorem decided_mapM_descendants
    {α : Type} {tree : Tree} (kinds : List String)
    {expected : Fault → Prop}
    {step : Located → Except Fault α} {holds : Located → Prop}
    (each : ∀ node : Located, node.tree.Inside tree →
      Decided (holds node) expected (step node)) :
    Decided
      (∀ node : Located, node.Below (.root tree) → node.kind ∈ kinds →
        holds node)
      expected
      (((Located.root tree).descendantsOfKind kinds).mapM step) := by
  refine Decided.congr (Decided.mapM fun node found => each node (.of_below
    ((Located.mem_descendantsOfKind_iff _ _ _).mp found).1)) ?_
  simp only [Located.mem_descendantsOfKind_iff, and_imp]

namespace Legible

variable {source : ByteArray} {file tree : Tree}
variable (legible : Legible source file)

include legible

theorem textOf (inside : tree.Inside file) :
    Decided True (Lacking source file) (textOf source tree) := by
  obtain ⟨node, listed, rfl⟩ := inside
  obtain ⟨hasText, valid⟩ := legible node listed
  obtain ⟨text, decoded⟩ := Option.isSome_iff_exists.mp valid
  rw [Extract.textOf, if_pos hasText, decoded]
  trivial

theorem textOf? {found : Option Tree}
    (inside : ∀ child ∈ found, child.Inside file) :
    Decided True (Lacking source file) (textOf? source found) := by
  cases found with
  | none => trivial
  | some child => exact (legible.textOf (inside child rfl)).map some

theorem texts {trees : List Tree}
    (inside : ∀ child ∈ trees, child.Inside file) :
    Decided True (Lacking source file) (trees.mapM (Extract.textOf source)) := by
  have each := Decided.mapM fun child member =>
    legible.textOf (inside child member)
  exact each.congr (by simp)

theorem annotationText {found : Option Tree}
    (inside : ∀ child ∈ found, child.Inside file) :
    Decided True (Lacking source file) (annotationText source found) := by
  cases found with
  | none => trivial
  | some annotation =>
      have here := inside annotation rfl
      rw [Extract.annotationText]
      split
      · rename_i only single
        apply legible.textOf
        apply here.significantChildren only
        rw [single]
        exact List.mem_singleton_self only
      · exact (legible.textOf here).map withoutColon

theorem textOfChild (inside : tree.Inside file) (role : String) :
    Decided (tree.Has role) (Lacking source file)
      (textOfChild source tree role) := by
  have asked := requireChild_bind source inside role
    fun child member => legible.textOf member
  exact asked.congr (by simp [Tree.Has])

end Legible

end Extract

end SymbolDiff
