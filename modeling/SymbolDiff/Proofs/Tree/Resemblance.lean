import Mathlib.Data.List.Forall2
import Mathlib.Data.Option.Basic
import SymbolDiff.Proofs.Tree.DocumentOrder

/-!
# Trees that look alike

Extraction asks a node for children in roles and of kinds, and a tree for the
nodes below it.  Two trees look alike when no such question can tell them
apart: one may have comments that the other lacks, and the bodies of methods
may hold anything that does not declare what is extracted.  The first part of
the file says what such trees are, the second part that every question has
matching answers.
-/

namespace SymbolDiff

namespace Tree

/-- A comment that plays no role for its parent and has nothing below it. -/
def IsStrayComment (tree : Tree) : Prop :=
  tree.kind = "comment" ∧ tree.head.role = none ∧ tree.children = []

mutual

/-- The second tree is the first one without some of its stray comments. -/
inductive Uncommented : Tree → Tree → Prop where
  | node {head : Head} {children others : List Tree}
      (below : UncommentedEach children others) :
      Uncommented (.node head children) (.node head others)

inductive UncommentedEach : List Tree → List Tree → Prop where
  | nil : UncommentedEach [] []
  | keep {tree other : Tree} {trees others : List Tree}
      (first : Uncommented tree other)
      (rest : UncommentedEach trees others) :
      UncommentedEach (tree :: trees) (other :: others)
  | drop {tree : Tree} {trees others : List Tree}
      (stray : tree.IsStrayComment)
      (rest : UncommentedEach trees others) :
      UncommentedEach (tree :: trees) others

end

/-- No node of the tree is of one of the kinds. -/
def Lacks (kinds : List String) (tree : Tree) : Prop :=
  ∀ node ∈ tree.listing [], node.kind ∉ kinds

instance (kinds : List String) (tree : Tree) : Decidable (tree.Lacks kinds) :=
  inferInstanceAs (Decidable (∀ node ∈ tree.listing [], node.kind ∉ kinds))

end Tree

/-- The bodies that extraction does not look into, by the kinds of the nodes
that have and that are such a body.  The `excluded` kinds must not occur in
one.  A node of an `exposed` kind shows its child in the given role with all
that is below it, bodies included. -/
structure Bodies where
  method : String
  block : String
  excluded : List String
  exposed : List (String × String)

/-- The child of such a parent is a body. -/
def Bodies.Covers (bodies : Bodies) (parent child : Head) : Prop :=
  parent.kind = bodies.method ∧ child.kind = bodies.block ∧
    child.role = some "body"

namespace Tree

mutual

/-- Two trees that differ at most in stray comments of the first one and in
what the given bodies hold. -/
inductive Resembles (bodies : Bodies) : Tree → Tree → Prop where
  | node {head : Head} {children others : List Tree}
      (below : ResemblesEach bodies head children others)
      (shown : ∀ role first second, (head.kind, role) ∈ bodies.exposed →
        (Tree.node head children).child? role = some first →
        (Tree.node head others).child? role = some second →
        Uncommented first second) :
      Resembles bodies (.node head children) (.node head others)

/-- The same for the children of a node whose head is given. -/
inductive ResemblesEach (bodies : Bodies) :
    Head → List Tree → List Tree → Prop where
  | nil {parent : Head} : ResemblesEach bodies parent [] []
  | keep {parent : Head} {tree other : Tree} {trees others : List Tree}
      (first : Resembles bodies tree other)
      (rest : ResemblesEach bodies parent trees others) :
      ResemblesEach bodies parent (tree :: trees) (other :: others)
  | comment {parent : Head} {tree : Tree} {trees others : List Tree}
      (stray : tree.IsStrayComment)
      (rest : ResemblesEach bodies parent trees others) :
      ResemblesEach bodies parent (tree :: trees) others
  | body {parent head : Head} {children replaced trees others : List Tree}
      (covered : bodies.Covers parent head)
      (before : ∀ child ∈ children, child.Lacks bodies.excluded)
      (after : ∀ child ∈ replaced, child.Lacks bodies.excluded)
      (rest : ResemblesEach bodies parent trees others) :
      ResemblesEach bodies parent
        (.node head children :: trees) (.node head replaced :: others)

end

section Questions

variable {bodies : Bodies} {tree other : Tree}

/-- What the children of resembling nodes have in common: their heads, and all
that is below them unless they are bodies. -/
def Matches (bodies : Bodies) (parent : Head) (tree other : Tree) : Prop :=
  tree.head = other.head ∧
    (¬bodies.Covers parent tree.head → Resembles bodies tree other)

theorem Resembles.head_eq (resembles : Resembles bodies tree other) :
    tree.head = other.head := by
  cases resembles
  rfl

theorem Resembles.kind_eq (resembles : Resembles bodies tree other) :
    tree.kind = other.kind :=
  congrArg Head.kind resembles.head_eq

/-- Children that pass a test of their heads match one by one, as long as no
stray comment passes it. -/
theorem ResemblesEach.filter {keep : Head → Bool}
    (skips : ∀ head, head.kind = "comment" → head.role = none →
      keep head = false) :
    ∀ {parent : Head} {trees others : List Tree},
      ResemblesEach bodies parent trees others →
      List.Forall₂ (Matches bodies parent)
        (trees.filter fun child => keep child.head)
        (others.filter fun child => keep child.head)
  | _, _, _, .nil => .nil
  | _, _, _, .keep first rest => by
      have further := ResemblesEach.filter skips rest
      rw [List.filter_cons, List.filter_cons, first.head_eq]
      split
      · exact .cons ⟨first.head_eq, fun _ => first⟩ further
      · exact further
  | _, _, _, .comment stray rest => by
      have dropped := skips _ stray.1 stray.2.1
      rw [List.filter_cons_of_neg (by simp [dropped])]
      exact ResemblesEach.filter skips rest
  | parent, _, _, @ResemblesEach.body _ _ head children replaced _ _
      covered _ _ rest => by
      have further := ResemblesEach.filter skips rest
      have matched : Matches bodies parent
          (.node head children) (.node head replaced) :=
        ⟨rfl, fun uncovered => absurd covered uncovered⟩
      cases kept : keep head with
      | true =>
          rw [List.filter_cons_of_pos (by exact kept),
            List.filter_cons_of_pos (by exact kept)]
          exact .cons matched further
      | false =>
          have dropped : ¬keep head = true := by simp [kept]
          rw [List.filter_cons_of_neg (by exact dropped),
            List.filter_cons_of_neg (by exact dropped)]
          exact further

theorem Resembles.forall₂_filter
    (resembles : Resembles bodies tree other) {keep : Head → Bool}
    (skips : ∀ head, head.kind = "comment" → head.role = none →
      keep head = false) :
    List.Forall₂ (Matches bodies tree.head)
      (tree.children.filter fun child => keep child.head)
      (other.children.filter fun child => keep child.head) := by
  cases resembles with
  | node below _ => exact ResemblesEach.filter skips below

private theorem rel_head?_of_forall₂ {related : Tree → Tree → Prop}
    {trees others : List Tree} (each : List.Forall₂ related trees others) :
    Option.Rel related trees.head? others.head? := by
  cases each with
  | nil => exact .none
  | cons first _ => exact .some first

private theorem rel_of_rel {related further : Tree → Tree → Prop}
    {first second : Option Tree} (rel : Option.Rel related first second)
    (each : ∀ tree other, first = some tree → related tree other →
      further tree other) :
    Option.Rel further first second := by
  cases rel with
  | none => exact .none
  | some holds => exact .some (each _ _ rfl holds)

theorem role_of_child?
    {role : String} {child : Tree} (found : tree.child? role = some child) :
    child.head.role = some role := by
  simpa using List.find?_some found

private theorem Resembles.rel_matches_child?
    (resembles : Resembles bodies tree other) (role : String) :
    Option.Rel (Matches bodies tree.head)
      (tree.child? role) (other.child? role) := by
  have skips : ∀ head : Head, head.kind = "comment" → head.role = none →
      decide (head.role = some role) = false := by
    intro head _ noRole
    simp [noRole]
  rw [child?, child?, ← List.head?_filter, ← List.head?_filter]
  exact rel_head?_of_forall₂ (resembles.forall₂_filter skips)

/-- Only a body can be covered, so children in other roles look alike. -/
theorem Resembles.rel_child?
    (resembles : Resembles bodies tree other) (role : String)
    (notBody : role ≠ "body") :
    Option.Rel (Resembles bodies) (tree.child? role) (other.child? role) := by
  apply rel_of_rel (resembles.rel_matches_child? role)
  intro first second found matched
  apply matched.2
  rintro ⟨_, _, isBody⟩
  rw [role_of_child? found, Option.some.injEq] at isBody
  exact notBody isBody

/-- The body of a node that is no method looks alike. -/
theorem Resembles.rel_body
    (resembles : Resembles bodies tree other)
    (noMethod : tree.kind ≠ bodies.method) :
    Option.Rel (Resembles bodies)
      (tree.child? "body") (other.child? "body") := by
  apply rel_of_rel (resembles.rel_matches_child? "body")
  intro first second _ matched
  exact matched.2 fun covered => noMethod covered.1

/-- A child that is shown as a whole differs in comments only. -/
theorem Resembles.rel_exposed
    (resembles : Resembles bodies tree other) (role : String)
    (notBody : role ≠ "body")
    (exposed : (tree.kind, role) ∈ bodies.exposed) :
    Option.Rel Uncommented (tree.child? role) (other.child? role) := by
  have children := resembles.rel_child? role notBody
  cases resembles with
  | node below shown =>
      generalize inFirst : Tree.child? _ role = first at children ⊢
      generalize inSecond : Tree.child? _ role = second at children ⊢
      cases children with
      | none => exact .none
      | some _ => exact .some (shown role _ _ exposed inFirst inSecond)

/-- Children that pass a test which neither comments nor bodies pass look
alike one by one. -/
theorem Resembles.forall₂_plain
    (resembles : Resembles bodies tree other) {keep : Head → Bool}
    (plain : ∀ head, keep head = true →
      head.kind ≠ "comment" ∧ head.kind ≠ bodies.block) :
    List.Forall₂ (Resembles bodies)
      (tree.children.filter fun child => keep child.head)
      (other.children.filter fun child => keep child.head) := by
  have skips : ∀ head : Head, head.kind = "comment" → head.role = none →
      keep head = false := by
    intro head comment _
    cases kept : keep head with
    | false => rfl
    | true => exact absurd comment (plain head kept).1
  have uncovered : ∀ child ∈ tree.children.filter fun child => keep child.head,
      ¬bodies.Covers tree.head child.head := by
    intro child member covered
    have kept := (List.mem_filter.mp member).2
    exact (plain child.head kept).2 covered.2.1
  have both := (List.forall₂_and_left _ _).mpr
    ⟨uncovered, resembles.forall₂_filter skips⟩
  exact both.imp fun child partner found => found.2.2 found.1

theorem plain_of_mem {kinds : List String}
    (noComment : "comment" ∉ kinds) (noBlock : bodies.block ∉ kinds)
    (kind : String) (listed : kinds.contains kind = true) :
    kind ≠ "comment" ∧ kind ≠ bodies.block := by
  rw [List.contains_iff_mem] at listed
  constructor
  · rintro rfl
    exact noComment listed
  · rintro rfl
    exact noBlock listed

theorem Resembles.forall₂_childrenOfKind
    (resembles : Resembles bodies tree other) (kinds : List String)
    (noComment : "comment" ∉ kinds) (noBlock : bodies.block ∉ kinds) :
    List.Forall₂ (Resembles bodies)
      (tree.childrenOfKind kinds) (other.childrenOfKind kinds) :=
  resembles.forall₂_plain fun head => plain_of_mem noComment noBlock head.kind

theorem Resembles.rel_firstOfKind?
    (resembles : Resembles bodies tree other) (kinds : List String)
    (noComment : "comment" ∉ kinds) (noBlock : bodies.block ∉ kinds) :
    Option.Rel (Resembles bodies)
      (tree.firstOfKind? kinds) (other.firstOfKind? kinds) := by
  rw [firstOfKind?, firstOfKind?, ← List.head?_filter, ← List.head?_filter]
  exact rel_head?_of_forall₂
    (resembles.forall₂_childrenOfKind kinds noComment noBlock)

theorem isSome_eq_of_rel {related : Tree → Tree → Prop}
    {first second : Option Tree} (rel : Option.Rel related first second) :
    first.isSome = second.isSome := by
  cases rel with
  | none => rfl
  | some _ => rfl

private theorem hasToken_eq_isSome (tree : Tree) (token : String) :
    tree.hasToken token = (tree.firstOfKind? [token]).isSome := by
  rw [hasToken, firstOfKind?, Bool.eq_iff_iff, List.any_eq_true,
    List.find?_isSome]
  simp

theorem Resembles.hasToken_eq
    (resembles : Resembles bodies tree other) (token : String)
    (noComment : "comment" ∉ [token]) (noBlock : bodies.block ∉ [token]) :
    tree.hasToken token = other.hasToken token := by
  rw [hasToken_eq_isSome, hasToken_eq_isSome]
  exact isSome_eq_of_rel (resembles.rel_firstOfKind? [token] noComment noBlock)

theorem Resembles.forall₂_significantChildren
    (resembles : Resembles bodies tree other) :
    List.Forall₂ (Matches bodies tree.head)
      tree.significantChildren other.significantChildren := by
  have skips : ∀ head : Head, head.kind = "comment" → head.role = none →
      (decide (head.kind ≠ "comment") && head.isNamed) = false := by
    intro head comment _
    simp [comment]
  have each := resembles.forall₂_filter skips
  rw [significantChildren, significantChildren, namedChildren, namedChildren,
    List.filter_filter, List.filter_filter]
  exact each

/-- Named children of kinds that are neither comments nor bodies. -/
theorem Resembles.forall₂_namedChildren
    (resembles : Resembles bodies tree other) (kinds : List String)
    (noComment : "comment" ∉ kinds) (noBlock : bodies.block ∉ kinds) :
    List.Forall₂ (Resembles bodies)
      (tree.namedChildren.filter fun child => kinds.contains child.kind)
      (other.namedChildren.filter fun child => kinds.contains child.kind) := by
  have plain : ∀ head : Head,
      (kinds.contains head.kind && head.isNamed) = true →
        head.kind ≠ "comment" ∧ head.kind ≠ bodies.block := by
    intro head kept
    rw [Bool.and_eq_true] at kept
    exact plain_of_mem noComment noBlock head.kind kept.1
  have each := resembles.forall₂_plain plain
  rw [namedChildren, namedChildren, List.filter_filter, List.filter_filter]
  exact each

end Questions

end Tree

end SymbolDiff
