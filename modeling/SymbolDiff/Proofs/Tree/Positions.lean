import Mathlib.Data.List.Forall2
import SymbolDiff.Proofs.Tree.DocumentOrder

/-!
# Positions in document order

Child positions tell nodes apart that look the same.  Listed in document order
they increase, so that document order is the order of positions.  A search for
kinds of nodes takes one round for every node below, and what it finds are the
nodes of those kinds, each at a position of its own, from the first to the
last.
-/

namespace SymbolDiff

namespace Tree

mutual

/-- The positions of the nodes of a tree in document order. -/
def positions : Tree → List (List Nat)
  | .node _ children => [] :: positionsEach 0 children

/-- Those of the nodes of several trees, of which the first stands in the given
place. -/
def positionsEach (place : Nat) : List Tree → List (List Nat)
  | [] => []
  | tree :: rest =>
      (positions tree).map (place :: ·) ++ positionsEach (place + 1) rest

end

theorem mem_positionsEach_iff
    {trees : List Tree} {place : Nat} {position : List Nat} :
    position ∈ positionsEach place trees ↔
      ∃ index tree path, trees[index]? = some tree ∧ path ∈ tree.positions ∧
        position = (place + index) :: path := by
  induction trees generalizing place with
  | nil => simp [positionsEach]
  | cons first rest induction =>
      simp only [positionsEach, List.mem_append, List.mem_map, induction]
      constructor
      · rintro (⟨path, member, rfl⟩ | ⟨index, tree, path, found, member, rfl⟩)
        · exact ⟨0, first, path, rfl, member, rfl⟩
        · refine ⟨index + 1, tree, path, found, member, ?_⟩
          rw [Nat.add_assoc, Nat.add_comm 1 index]
      · rintro ⟨index, tree, path, found, member, rfl⟩
        cases index with
        | zero =>
            cases found
            exact .inl ⟨path, member, rfl⟩
        | succ index =>
            refine .inr ⟨index, tree, path, found, member, ?_⟩
            rw [Nat.add_assoc, Nat.add_comm 1 index]

/-- The positions of a tree are those that lead to a node. -/
theorem mem_positions_iff {tree : Tree} {ancestors : List String}
    {position : List Nat} :
    position ∈ tree.positions ↔
      ∃ node, (Located.mk tree ancestors).descend? position = some node := by
  induction position generalizing tree ancestors with
  | nil => cases tree; simp [positions, Located.descend?]
  | cons index path induction =>
      obtain ⟨head, children⟩ := tree
      simp only [positions, List.mem_cons, reduceCtorEq, false_or,
        mem_positionsEach_iff, Nat.zero_add, List.cons.injEq,
        Located.descend?_cons_eq_some_iff, Located.children, Tree.children,
        List.getElem?_map, Option.map_eq_some_iff]
      constructor
      · rintro ⟨_, child, _, found, member, rfl, rfl⟩
        obtain ⟨node, reached⟩ := induction.mp member
        exact ⟨node, _, ⟨child, found, rfl⟩, reached⟩
      · rintro ⟨node, _, ⟨child, found, rfl⟩, reached⟩
        exact ⟨index, child, path, found, induction.mpr ⟨node, reached⟩, rfl, rfl⟩

mutual

theorem pairwise_positions (tree : Tree) : tree.positions.Pairwise (· < ·) := by
  cases tree with
  | node head children =>
      rw [positions, List.pairwise_cons]
      refine ⟨?_, pairwise_positionsEach 0 children⟩
      intro position member
      obtain ⟨index, tree, path, _, _, rfl⟩ := mem_positionsEach_iff.mp member
      exact List.nil_lt_cons _ _

theorem pairwise_positionsEach (place : Nat) (trees : List Tree) :
    (positionsEach place trees).Pairwise (· < ·) := by
  cases trees with
  | nil => exact .nil
  | cons tree rest =>
      rw [positionsEach, List.pairwise_append]
      refine ⟨?_, pairwise_positionsEach (place + 1) rest, ?_⟩
      · rw [List.pairwise_map]
        apply (pairwise_positions tree).imp
        intro first second before
        exact List.cons_lt_cons_iff.mpr (.inr ⟨rfl, before⟩)
      · intro first inFirst second later
        obtain ⟨path, _, rfl⟩ := List.mem_map.mp inFirst
        obtain ⟨index, _, _, _, _, rfl⟩ := mem_positionsEach_iff.mp later
        exact List.cons_lt_cons_iff.mpr (.inl (by omega))

end

mutual

/-- Positions and nodes are listed side by side. -/
theorem forall₂_positions (tree : Tree) (ancestors : List String) :
    List.Forall₂ (fun position node =>
        (Located.mk tree ancestors).descend? position = some node)
      tree.positions (tree.listing ancestors) := by
  cases tree with
  | node head children =>
      rw [positions, listing]
      refine .cons rfl ?_
      apply forall₂_positionsEach children (head.kind :: ancestors) 0
      intro index path
      simp only [Located.descend?, Located.children, Tree.children, Nat.zero_add]
      rfl

/-- The trees are children of a node from a place on. -/
theorem forall₂_positionsEach (trees : List Tree) (ancestors : List String)
    (place : Nat) {parent : Located}
    (below : ∀ index path, parent.descend? ((place + index) :: path) =
      match (trees.map fun tree => Located.mk tree ancestors)[index]? with
      | some child => child.descend? path
      | none => none) :
    List.Forall₂ (fun position node => parent.descend? position = some node)
      (positionsEach place trees) (listingEach ancestors trees) := by
  cases trees with
  | nil => exact .nil
  | cons tree rest =>
      rw [positionsEach, listingEach]
      refine List.rel_append ?_ ?_
      · rw [List.forall₂_map_left_iff]
        refine (forall₂_positions tree ancestors).imp ?_
        intro path node reached
        exact (below 0 path).trans reached
      · apply forall₂_positionsEach rest ancestors (place + 1)
        intro index path
        have later := below (index + 1) path
        rw [← Nat.add_assoc, Nat.add_right_comm] at later
        exact later

end

mutual

theorem length_listing (tree : Tree) (ancestors : List String) :
    (tree.listing ancestors).length = tree.size := by
  cases tree with
  | node head children =>
      rw [listing, List.length_cons, size, length_listingEach, Nat.add_comm]

theorem length_listingEach (trees : List Tree) (ancestors : List String) :
    (listingEach ancestors trees).length = sizeList trees := by
  cases trees with
  | nil => rfl
  | cons tree rest =>
      rw [listingEach, List.length_append, sizeList, length_listing,
        length_listingEach]

end

end Tree

namespace Located

/-- A search comes to another one in this many rounds. -/
inductive Search.Rounds (kinds : List String) : Nat → Search → Search → Prop where
  | none (search : Search) : Rounds kinds 0 search search
  | more {count : Nat} {search next last : Search} :
      search.next? kinds = some next → Rounds kinds count next last →
      Rounds kinds (count + 1) search last

/-- A search ends after one round for each node that it has to look at. -/
theorem Search.exists_rounds (kinds : List String) (search : Search) :
    ∃ last, Rounds kinds search.size search last ∧ last.next? kinds = none ∧
      last.found.toList = search.finish kinds := by
  induction search using finish.induct kinds with
  | case1 search stopped =>
      have idle : search.size = 0 := by
        simp [size, next?_eq_none_iff.mp stopped, sizeEach]
      refine ⟨search, idle ▸ .none search, stopped, ?_⟩
      rw [finish_eq_inAll, inAll_of_stopped stopped]
  | case2 search next round induction =>
      obtain ⟨last, rounds, stopped, found⟩ := induction
      refine ⟨last, size_of_next? round ▸ .more round rounds, stopped, ?_⟩
      rw [found, finish_eq_inAll, finish_eq_inAll, inAll_of_next? round]

theorem Search.size_below (located : Located) :
    (below located).size =
      (Tree.listingEach (located.tree.kind :: located.ancestors)
        located.tree.children).length := by
  simp [size, below, sizeEach_reverse, children, sizeEach_map,
    Tree.length_listingEach]

theorem mem_positionsBelow_iff {located : Located} {position : List Nat} :
    position ∈ Tree.positionsEach 0 located.tree.children ↔
      position ≠ [] ∧ ∃ node, located.descend? position = some node := by
  obtain ⟨⟨head, children⟩, ancestors⟩ := located
  rw [← Tree.mem_positions_iff, Tree.positions, List.mem_cons, Tree.children]
  cases position with
  | nil =>
      simp only [ne_eq, not_true_eq_false, false_and, iff_false]
      intro member
      obtain ⟨_, _, _, _, _, impossible⟩ := Tree.mem_positionsEach_iff.mp member
      cases impossible
  | cons index path => simp

theorem forall₂_positionsBelow (located : Located) :
    List.Forall₂ (fun position node => located.descend? position = some node)
      (Tree.positionsEach 0 located.tree.children)
      (Tree.listingEach (located.tree.kind :: located.ancestors)
        located.tree.children) := by
  obtain ⟨⟨head, children⟩, ancestors⟩ := located
  have all := Tree.forall₂_positions (.node head children) ancestors
  rw [Tree.positions, Tree.listing] at all
  cases all with
  | cons _ below => exact below

/-- The nodes of some kinds below a node, as a filter of all nodes below it in
document order.  Each stands at a position of its own: the positions increase,
and they are all positions below that lead to a node of those kinds.  The
search that finds them ends after one round for every node below. -/
theorem descendantsOfKind_inDocumentOrder (located : Located)
    (kinds : List String) :
    located.descendantsOfKind kinds =
        (Tree.listingEach (located.tree.kind :: located.ancestors)
          located.tree.children).filter (fun node => kinds.contains node.kind) ∧
      (∃ positions : List (List Nat),
        positions.Pairwise (· < ·) ∧
        (∀ position, position ∈ positions ↔ position ≠ [] ∧
          ∃ node, located.descend? position = some node ∧ node.kind ∈ kinds) ∧
        List.Forall₂ (fun position node => located.descend? position = some node)
          positions (located.descendantsOfKind kinds)) ∧
      ∃ last,
        Search.Rounds kinds
          (Tree.listingEach (located.tree.kind :: located.ancestors)
            located.tree.children).length (.below located) last ∧
        last.stack = #[] ∧
        last.found.toList = located.descendantsOfKind kinds := by
  refine ⟨descendantsOfKind_eq_filter located kinds, ?_, ?_⟩
  · let wanted (position : List Nat) : Bool :=
      (located.descend? position).any fun node => kinds.contains node.kind
    refine ⟨(Tree.positionsEach 0 located.tree.children).filter wanted,
      (Tree.pairwise_positionsEach 0 _).filter wanted, ?_, ?_⟩
    · intro position
      have reaches : wanted position = true ↔
          ∃ node, located.descend? position = some node ∧ node.kind ∈ kinds := by
        simp [wanted, Option.any_eq_true]
      rw [List.mem_filter, reaches, mem_positionsBelow_iff, and_assoc]
      refine and_congr_right fun _ => ⟨And.right, fun found => ⟨?_, found⟩⟩
      obtain ⟨node, reached, _⟩ := found
      exact ⟨node, reached⟩
    · rw [descendantsOfKind_eq_filter]
      refine List.rel_filter ?_ (forall₂_positionsBelow located)
      intro position node reached
      simp [wanted, reached]
  · obtain ⟨last, rounds, stopped, found⟩ :=
      Search.exists_rounds kinds (.below located)
    rw [Search.size_below] at rounds
    exact ⟨last, rounds, Search.next?_eq_none_iff.mp stopped, found⟩

end Located

end SymbolDiff
