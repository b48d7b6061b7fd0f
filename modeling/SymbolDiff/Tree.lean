/-!
# Syntax trees

A syntax tree over the bytes of a source file.  Each node has a kind, a byte
range, the role that it plays for its parent, and marks: whether it is named,
whether it stands for something that is missing in the source, and whether its
text can be had.  `Located` is a node together with the kinds of the nodes that
enclose it.
-/

namespace SymbolDiff

/-- What a node is apart from the nodes below it. -/
structure Head where
  kind : String
  start : Nat := 0
  stop : Nat := 0
  role : Option String := none
  isNamed : Bool := true
  isMissing : Bool := false
  hasText : Bool := true
  deriving DecidableEq, Repr

/-- A node with the nodes below it. -/
inductive Tree where
  | node (head : Head) (children : List Tree)
  deriving Repr

instance : Inhabited Tree :=
  ⟨.node ⟨"", 0, 0, none, true, false, true⟩ []⟩

namespace Tree

def head : Tree → Head
  | .node head _ => head

def children : Tree → List Tree
  | .node _ children => children

def kind (tree : Tree) : String :=
  tree.head.kind

mutual

/-- How many nodes a tree has. -/
def size : Tree → Nat
  | .node _ children => 1 + sizeList children

def sizeList : List Tree → Nat
  | [] => 0
  | tree :: rest => size tree + sizeList rest

end

mutual

/-- Whether some node is an error or stands for something missing. -/
def hasError : Tree → Bool
  | .node head children =>
    head.kind = "ERROR" || head.isMissing || hasErrorList children

def hasErrorList : List Tree → Bool
  | [] => false
  | tree :: rest => hasError tree || hasErrorList rest

end

/-- The children that are named. -/
def namedChildren (tree : Tree) : List Tree :=
  tree.children.filter fun child => child.head.isNamed

/-- The first child in a role. -/
def child? (tree : Tree) (role : String) : Option Tree :=
  tree.children.find? fun child => child.head.role = some role

/-- The children of given kinds. -/
def childrenOfKind (tree : Tree) (kinds : List String) : List Tree :=
  tree.children.filter fun child => kinds.contains child.kind

/-- The first child of given kinds. -/
def firstOfKind? (tree : Tree) (kinds : List String) : Option Tree :=
  tree.children.find? fun child => kinds.contains child.kind

/-- Whether a child is of a kind, named or not. -/
def hasToken (tree : Tree) (token : String) : Bool :=
  tree.children.any fun child => child.kind = token

/-- The named children that are not comments. -/
def significantChildren (tree : Tree) : List Tree :=
  tree.namedChildren.filter fun child => child.kind ≠ "comment"

/-- The line on which a byte stands, counted from one. -/
def lineAt (source : ByteArray) (offset : Nat) : Nat :=
  1 + ((source.extract 0 offset).toList.filter (· = 10)).length

/-- The line on which a node starts. -/
def line (source : ByteArray) (tree : Tree) : Nat :=
  lineAt source tree.head.start

/-- The bytes of a node. -/
def bytes (source : ByteArray) (tree : Tree) : ByteArray :=
  source.extract tree.head.start tree.head.stop

end Tree

/-- A node and the kinds of the nodes that enclose it, the nearest first. -/
structure Located where
  tree : Tree
  ancestors : List String

namespace Located

/-- A node that nothing encloses. -/
def root (tree : Tree) : Located :=
  ⟨tree, []⟩

/-- The nodes right below a node. -/
def children (located : Located) : List Located :=
  located.tree.children.map fun child =>
    ⟨child, located.tree.kind :: located.ancestors⟩

def kind (located : Located) : String :=
  located.tree.kind

def parentKind? (located : Located) : Option String :=
  located.ancestors[0]?

def grandparentKind? (located : Located) : Option String :=
  located.ancestors[1]?

/-- Follows child positions downwards. -/
def descend? (located : Located) : List Nat → Option Located
  | [] => some located
  | position :: rest =>
    match located.children[position]? with
    | some next => next.descend? rest
    | none => none

/-- How many nodes there are on and below some nodes. -/
def sizeEach : List Located → Nat
  | [] => 0
  | located :: rest => located.tree.size + sizeEach rest

theorem sizeEach_append (first second : List Located) :
    sizeEach (first ++ second) = sizeEach first + sizeEach second := by
  induction first with
  | nil => simp [sizeEach]
  | cons located rest hypothesis => simp [sizeEach, hypothesis, Nat.add_assoc]

theorem sizeEach_reverse (nodes : List Located) :
    sizeEach nodes.reverse = sizeEach nodes := by
  induction nodes with
  | nil => rfl
  | cons located rest hypothesis =>
    simp [sizeEach_append, sizeEach, hypothesis, Nat.add_comm]

theorem sizeEach_map (ancestors : List String) (trees : List Tree) :
    sizeEach (trees.map fun tree => ⟨tree, ancestors⟩) =
      Tree.sizeList trees := by
  induction trees with
  | nil => rfl
  | cons tree rest hypothesis => simp [sizeEach, Tree.sizeList, hypothesis]

theorem sizeEach_children (located : Located) :
    sizeEach located.children + 1 = located.tree.size := by
  obtain ⟨tree, ancestors⟩ := located
  cases tree with
  | node head children =>
    rw [Located.children, sizeEach_map]
    simp [Tree.children, Tree.size, Nat.add_comm]

/-- A search under way: the nodes that it has found, and a stack of the nodes
that it still has to look at, the next one on top. -/
structure Search where
  found : Array Located := #[]
  stack : Array Located

namespace Search

/-- The search below a node before its first round. -/
def below (located : Located) : Search :=
  { stack := located.children.reverse.toArray }

/-- One round.  The node on top is taken off, and found if it is of one of the
kinds; its children take its place, the first one on top, so that nodes are
found in document order.  With an empty stack there are no more rounds. -/
def next? (kinds : List String) (search : Search) : Option Search :=
  match search.stack.back? with
  | none => none
  | some current =>
    some
      { found :=
          if kinds.contains current.kind then search.found.push current
          else search.found
        stack := search.stack.pop ++ current.children.reverse }

/-- How many nodes a search still has to look at. -/
def size (search : Search) : Nat :=
  sizeEach search.stack.toList

/-- A round leaves one node less to look at. -/
theorem size_of_next? {kinds : List String} {search next : Search}
    (round : search.next? kinds = some next) : next.size + 1 = search.size := by
  unfold next? at round
  split at round
  · cases round
  · rename_i current top
    cases round
    obtain ⟨rest, whole⟩ := Array.back?_eq_some_iff.mp top
    have children := sizeEach_children current
    simp only [size, whole, Array.pop_push, Array.toList_appendList,
      Array.toList_push,
      sizeEach_append, sizeEach_reverse, sizeEach]
    omega

/-- What a search has found after its last round. -/
def finish (kinds : List String) (search : Search) : List Located :=
  match _ : search.next? kinds with
  | none => search.found.toList
  | some next => finish kinds next
termination_by search.size
decreasing_by
  have shorter := size_of_next? ‹search.next? kinds = some next›
  omega

end Search

/-- All nodes of given kinds below a node, in document order. -/
def descendantsOfKind (located : Located) (kinds : List String) :
    List Located :=
  (Search.below located).finish kinds

end Located

end SymbolDiff
