import SymbolDiff.Tree

/-!
# Document order

A search for kinds of nodes works off a stack.  This file lists the nodes of a
tree by recursion on the tree, each with the kinds that enclose it, and shows
that a search is a filter of that listing.  The listing in turn holds exactly
the nodes that child positions lead to, so later files can speak of the nodes
below another one without speaking of a search.
-/

namespace SymbolDiff

namespace Tree

mutual

/-- The nodes of a tree in document order, its root first. -/
def listing (ancestors : List String) : Tree → List Located
  | .node head children =>
      ⟨.node head children, ancestors⟩ ::
        listingEach (head.kind :: ancestors) children

def listingEach (ancestors : List String) : List Tree → List Located
  | [] => []
  | tree :: rest => listing ancestors tree ++ listingEach ancestors rest

end

theorem listing_eq (ancestors : List String) (tree : Tree) :
    listing ancestors tree =
      ⟨tree, ancestors⟩ ::
        listingEach (tree.kind :: ancestors) tree.children := by
  cases tree
  rfl

theorem listingEach_eq_flatMap (ancestors : List String) (trees : List Tree) :
    listingEach ancestors trees = trees.flatMap (listing ancestors) := by
  induction trees with
  | nil => rfl
  | cons tree rest induction => rw [listingEach, induction, List.flatMap_cons]

mutual

/-- What encloses a tree only adds to what encloses its nodes. -/
theorem listing_append (inner above : List String) (tree : Tree) :
    tree.listing (inner ++ above) =
      (tree.listing inner).map
        fun node => ⟨node.tree, node.ancestors ++ above⟩ := by
  cases tree with
  | node head children =>
      rw [listing, listing, List.map_cons, ← List.cons_append,
        listingEach_append (head.kind :: inner) above children]

theorem listingEach_append (inner above : List String) (trees : List Tree) :
    listingEach (inner ++ above) trees =
      (listingEach inner trees).map
        fun node => ⟨node.tree, node.ancestors ++ above⟩ := by
  cases trees with
  | nil => rfl
  | cons tree rest =>
      rw [listingEach, listingEach, List.map_append,
        listing_append inner above tree, listingEach_append inner above rest]

end

mutual

/-- The kinds that enclose a node of a tree are those of other nodes, apart
from the kinds that enclose the tree. -/
theorem kind_of_mem_ancestors (above : List String) (tree : Tree)
    {node : Located} (listed : node ∈ tree.listing above)
    {kind : String} (encloses : kind ∈ node.ancestors) :
    kind ∈ above ∨ ∃ other ∈ tree.listing above, other.kind = kind := by
  cases tree with
  | node head children =>
      rw [listing, List.mem_cons] at listed
      rcases listed with rfl | inside
      · exact .inl encloses
      · rcases kind_of_mem_ancestorsEach (head.kind :: above) children inside
          encloses with outside | ⟨other, member, same⟩
        · rcases List.mem_cons.mp outside with rfl | outer
          · exact .inr ⟨_, List.mem_cons_self, rfl⟩
          · exact .inl outer
        · exact .inr ⟨other, List.mem_cons_of_mem _ member, same⟩

theorem kind_of_mem_ancestorsEach (above : List String) (trees : List Tree)
    {node : Located} (listed : node ∈ listingEach above trees)
    {kind : String} (encloses : kind ∈ node.ancestors) :
    kind ∈ above ∨ ∃ other ∈ listingEach above trees, other.kind = kind := by
  cases trees with
  | nil => cases listed
  | cons tree rest =>
      rw [listingEach, List.mem_append] at listed
      rcases listed with first | later
      · rcases kind_of_mem_ancestors above tree first encloses with
          outside | ⟨other, member, same⟩
        · exact .inl outside
        · exact .inr ⟨other, List.mem_append_left _ member, same⟩
      · rcases kind_of_mem_ancestorsEach above rest later encloses with
          outside | ⟨other, member, same⟩
        · exact .inl outside
        · exact .inr ⟨other, List.mem_append_right _ member, same⟩

end

end Tree

namespace Located

/-- A node stands strictly below another one. -/
def Below (node located : Located) : Prop :=
  ∃ position path, located.descend? (position :: path) = some node

theorem flatMap_listing_children (located : Located) :
    located.children.flatMap (fun child => child.tree.listing child.ancestors) =
      Tree.listingEach (located.tree.kind :: located.ancestors)
        located.tree.children := by
  rw [children, List.flatMap_map, Tree.listingEach_eq_flatMap]

namespace Search

variable {kinds : List String} {search next : Search}

/-- What a search finds in all: what it has found, and the nodes of the kinds
among those that its stack lists from the top. -/
def inAll (kinds : List String) (search : Search) : List Located :=
  search.found.toList ++
    (search.stack.toList.reverse.flatMap fun located =>
        located.tree.listing located.ancestors).filter
      fun node => kinds.contains node.kind

theorem next?_eq_none_iff : search.next? kinds = none ↔ search.stack = #[] := by
  unfold next?
  cases top : search.stack.back? with
  | none => simpa using top
  | some current =>
      obtain ⟨rest, whole⟩ := Array.back?_eq_some_iff.mp top
      simp [whole]

/-- A round does not change what a search finds in all. -/
theorem inAll_of_next? (round : search.next? kinds = some next) :
    next.inAll kinds = search.inAll kinds := by
  unfold next? at round
  split at round
  · cases round
  · rename_i current top
    cases round
    obtain ⟨rest, whole⟩ := Array.back?_eq_some_iff.mp top
    simp only [inAll, whole, Array.pop_push, Array.toList_appendList,
      Array.toList_push, List.reverse_append, List.reverse_reverse,
      List.reverse_singleton, List.flatMap_append, List.flatMap_singleton,
      flatMap_listing_children, Tree.listing_eq current.ancestors]
    rw [List.filter_append, List.filter_append, List.filter_cons]
    split
    · simp [Array.toList_push]
    · rfl

theorem inAll_of_stopped (stopped : search.next? kinds = none) :
    search.inAll kinds = search.found.toList := by
  simp [inAll, next?_eq_none_iff.mp stopped]

theorem finish_eq_inAll (kinds : List String) (search : Search) :
    search.finish kinds = search.inAll kinds := by
  induction search using finish.induct kinds with
  | case1 search stopped =>
      rw [finish, stopped, inAll_of_stopped stopped]
  | case2 search next round induction =>
      rw [finish, round]
      dsimp only
      rw [induction, inAll_of_next? round]

end Search

theorem descendantsOfKind_eq_filter
    (located : Located) (kinds : List String) :
    located.descendantsOfKind kinds =
      (Tree.listingEach (located.tree.kind :: located.ancestors)
          located.tree.children).filter
        fun node => kinds.contains node.kind := by
  rw [descendantsOfKind, Search.finish_eq_inAll, Search.inAll, Search.below]
  simp [flatMap_listing_children]

theorem descendantsOfKind_singleton (located : Located) (kind : String) :
    located.descendantsOfKind [kind] =
      (Tree.listingEach (located.tree.kind :: located.ancestors)
          located.tree.children).filter fun node => node.kind = kind := by
  rw [descendantsOfKind_eq_filter]
  apply List.filter_congr
  intro node _
  simp

theorem mem_children_iff (node located : Located) :
    node ∈ located.children ↔
      node.tree ∈ located.tree.children ∧
        node.ancestors = located.tree.kind :: located.ancestors := by
  obtain ⟨tree, ancestors⟩ := node
  simp only [children, List.mem_map, mk.injEq]
  constructor
  · rintro ⟨child, member, rfl, rfl⟩
    exact ⟨member, rfl⟩
  · rintro ⟨member, rfl⟩
    exact ⟨tree, member, rfl, rfl⟩

theorem descend?_cons_eq_some_iff
    (located node : Located) (position : Nat) (path : List Nat) :
    located.descend? (position :: path) = some node ↔
      ∃ child, located.children[position]? = some child ∧
        child.descend? path = some node := by
  rw [descend?]
  cases located.children[position]? with
  | none => simp
  | some child => simp

/-- A node stands below another one when it is, or stands below, a child. -/
theorem below_iff (node located : Located) :
    node.Below located ↔
      ∃ child ∈ located.children, node = child ∨ node.Below child := by
  constructor
  · rintro ⟨position, path, reached⟩
    obtain ⟨child, found, further⟩ :=
      (descend?_cons_eq_some_iff located node position path).mp reached
    refine ⟨child, List.mem_of_getElem? found, ?_⟩
    cases path with
    | nil =>
        left
        exact (Option.some.inj further).symm
    | cons next path =>
        right
        exact ⟨next, path, further⟩
  · rintro ⟨child, member, here | deeper⟩
    · obtain ⟨position, found⟩ := List.mem_iff_getElem?.mp member
      subst here
      exact ⟨position, [],
        (descend?_cons_eq_some_iff located node position []).mpr
          ⟨node, found, rfl⟩⟩
    · obtain ⟨position, found⟩ := List.mem_iff_getElem?.mp member
      obtain ⟨next, path, reached⟩ := deeper
      exact ⟨position, next :: path,
        (descend?_cons_eq_some_iff located node position _).mpr
          ⟨child, found, reached⟩⟩

theorem descend?_append (located : Located) (first second : List Nat) :
    located.descend? (first ++ second) =
      (located.descend? first).bind fun node => node.descend? second := by
  induction first generalizing located with
  | nil => rfl
  | cons position rest induction =>
      rw [List.cons_append, descend?, descend?]
      cases located.children[position]? with
      | none => rfl
      | some child => exact induction child

theorem Below.trans {node between located : Located}
    (lower : node.Below between) (upper : between.Below located) :
    node.Below located := by
  obtain ⟨position, path, reached⟩ := lower
  obtain ⟨first, before, found⟩ := upper
  refine ⟨first, before ++ position :: path, ?_⟩
  rw [← List.cons_append, descend?_append, found]
  exact reached

end Located

namespace Tree

open Located (below_iff mem_children_iff)

mutual

theorem mem_listing_iff
    (tree : Tree) (ancestors : List String) (node : Located) :
    node ∈ tree.listing ancestors ↔
      node = ⟨tree, ancestors⟩ ∨ node.Below ⟨tree, ancestors⟩ := by
  cases tree with
  | node head children =>
      rw [listing, List.mem_cons, below_iff,
        mem_listingEach_iff children (head.kind :: ancestors) node]
      simp only [mem_children_iff, Tree.children, Tree.kind, Tree.head]
      constructor
      · rintro (here | ⟨child, member, found⟩)
        · exact .inl here
        · exact .inr ⟨⟨child, head.kind :: ancestors⟩, ⟨member, rfl⟩, found⟩
      · rintro (here | ⟨⟨child, above⟩, ⟨member, same⟩, found⟩)
        · exact .inl here
        · subst same
          exact .inr ⟨child, member, found⟩

theorem mem_listingEach_iff
    (trees : List Tree) (ancestors : List String) (node : Located) :
    node ∈ listingEach ancestors trees ↔
      ∃ tree ∈ trees, node = ⟨tree, ancestors⟩ ∨
        node.Below ⟨tree, ancestors⟩ := by
  cases trees with
  | nil => simp [listingEach]
  | cons tree rest =>
      rw [listingEach, List.mem_append, mem_listing_iff tree ancestors node,
        mem_listingEach_iff rest ancestors node]
      simp only [List.mem_cons, exists_eq_or_imp]

end

end Tree

namespace Located

theorem mem_listingEach_children_iff (node located : Located) :
    node ∈ Tree.listingEach (located.tree.kind :: located.ancestors)
        located.tree.children ↔
      node.Below located := by
  rw [Tree.mem_listingEach_iff, below_iff]
  constructor
  · rintro ⟨child, member, found⟩
    exact ⟨⟨child, _⟩, (mem_children_iff _ located).mpr ⟨member, rfl⟩, found⟩
  · rintro ⟨child, member, found⟩
    obtain ⟨inside, above⟩ := (mem_children_iff child located).mp member
    exact ⟨child.tree, inside, above ▸ found⟩

/-- A search finds the nodes below that have one of the kinds, and only
those. -/
theorem mem_descendantsOfKind_iff
    (node located : Located) (kinds : List String) :
    node ∈ located.descendantsOfKind kinds ↔
      node.Below located ∧ node.kind ∈ kinds := by
  rw [descendantsOfKind_eq_filter, List.mem_filter,
    mem_listingEach_children_iff, List.contains_iff_mem]

end Located

end SymbolDiff
