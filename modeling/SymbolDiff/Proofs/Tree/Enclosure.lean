import SymbolDiff.Proofs.Tree.DocumentOrder

/-!
# What encloses a node

A node carries the kinds of the nodes that enclose it.  Each of these kinds is
that of a node on the way down from the root, and that node is itself enclosed
by the kinds that follow.
-/

namespace SymbolDiff.Located

/-- The way down to a node, one child after the other. -/
@[elab_as_elim]
theorem Below.induction {node : Located} {motive : Located → Prop}
    (child : ∀ located, node ∈ located.children → motive located)
    (step : ∀ located next, next ∈ located.children → node.Below next →
      motive next → motive located)
    {located : Located} (below : node.Below located) : motive located := by
  obtain ⟨position, path, reached⟩ := below
  induction path generalizing located position with
  | nil =>
      obtain ⟨next, found, here⟩ :=
        (descend?_cons_eq_some_iff located node position []).mp reached
      cases here
      exact child located (List.mem_of_getElem? found)
  | cons following path induction =>
      obtain ⟨next, found, further⟩ :=
        (descend?_cons_eq_some_iff located node position _).mp reached
      exact step located next (List.mem_of_getElem? found)
        ⟨following, path, further⟩ (induction following further)

/-- A node has the kinds that enclose its parent, and that of the parent. -/
theorem ancestors_of_mem_children {node located : Located}
    (member : node ∈ located.children) :
    node.ancestors = located.kind :: located.ancestors :=
  ((mem_children_iff node located).mp member).2

theorem ancestors_of_below {node located : Located}
    (below : node.Below located) :
    ∃ inner, node.ancestors = inner ++ located.kind :: located.ancestors := by
  refine Below.induction ?_ ?_ below
  · intro located member
    exact ⟨[], ancestors_of_mem_children member⟩
  · intro located next member _ induction
    obtain ⟨inner, above⟩ := induction
    rw [ancestors_of_mem_children member] at above
    refine ⟨inner ++ [next.kind], ?_⟩
    simpa using above

theorem forall_below_root_iff {tree : Tree} {holds : Located → Prop} :
    (∀ node : Located, node.Below (.root tree) → holds node) ↔
      ∀ node ∈ Tree.listingEach [tree.kind] tree.children, holds node := by
  have listed (node : Located) :=
    mem_listingEach_children_iff node (.root tree)
  simp only [Located.root] at listed
  simp only [Located.root, listed]

/-- What encloses a node belongs to a node on the way down to it, or encloses
the node that the way starts from. -/
theorem exists_enclosing {node located : Located} (below : node.Below located)
    {kind : String} {above : List String}
    (encloses : kind :: above <:+ node.ancestors) :
    kind :: above <:+ located.ancestors ∨
      ∃ other : Located, (other = located ∨ other.Below located) ∧
        other.kind = kind ∧ other.ancestors = above := by
  have inParent {located : Located}
      (suffix : kind :: above <:+ located.kind :: located.ancestors) :
      kind :: above <:+ located.ancestors ∨
        ∃ other : Located, (other = located ∨ other.Below located) ∧
          other.kind = kind ∧ other.ancestors = above := by
    rcases List.suffix_cons_iff.mp suffix with same | outside
    · rw [List.cons.injEq] at same
      exact .inr ⟨located, .inl rfl, same.1.symm, same.2.symm⟩
    · exact .inl outside
  refine Below.induction ?_ ?_ below
  · intro located member
    rw [ancestors_of_mem_children member] at encloses
    exact inParent encloses
  · intro located next member _ induction
    rcases induction with outside | ⟨other, place, found⟩
    · rw [ancestors_of_mem_children member] at outside
      exact inParent outside
    · right
      refine ⟨other, .inr ?_, found⟩
      exact (below_iff other located).mpr ⟨next, member, place⟩

end SymbolDiff.Located
