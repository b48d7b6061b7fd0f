import SymbolDiff.Proofs.Tree.Resemblance

/-!
# Nodes that are seen

Extraction walks all nodes of a file and then looks at the kinds that enclose
a node.  A choice of nodes that passes over comments, bodies and whatever a
body may hold gives nodes that look alike in trees that look alike.  The file
ends with the two ways in which trees come to look alike: comments are left
out, or the body of one method is exchanged.
-/

namespace SymbolDiff

/-- A choice of nodes by their kinds and the kinds that enclose them does not
choose comments, bodies or anything that may stand in a body. -/
structure Bodies.PassedOver (bodies : Bodies)
    (wanted : String → List String → Bool) : Prop where
  comment : ∀ ancestors, wanted "comment" ancestors = false
  block : ∀ ancestors, wanted bodies.block ancestors = false
  inside : ∀ kind inner ancestors, kind ∉ bodies.excluded →
    (∀ other ∈ inner, other ∉ bodies.excluded) →
      wanted kind (inner ++ bodies.block :: bodies.method :: ancestors) = false

/-- Nodes that look alike and are enclosed by the same kinds. -/
def Located.Resembles (bodies : Bodies) (node other : Located) : Prop :=
  Tree.Resembles bodies node.tree other.tree ∧
    node.ancestors = other.ancestors

/-- The nodes that a choice picks out. -/
def chosen (wanted : String → List String → Bool) (nodes : List Located) :
    List Located :=
  nodes.filter fun node => wanted node.kind node.ancestors

section Chosen

variable {wanted : String → List String → Bool}

@[simp] theorem chosen_nil : chosen wanted [] = [] :=
  rfl

theorem chosen_cons (node : Located) (rest : List Located) :
    chosen wanted (node :: rest) =
      if wanted node.kind node.ancestors = true then
        node :: chosen wanted rest
      else
        chosen wanted rest :=
  List.filter_cons

@[simp] theorem chosen_append (first second : List Located) :
    chosen wanted (first ++ second) =
      chosen wanted first ++ chosen wanted second :=
  List.filter_append ..

theorem chosen_eq_nil {nodes : List Located}
    (none : ∀ node ∈ nodes, wanted node.kind node.ancestors = false) :
    chosen wanted nodes = [] := by
  rw [chosen, List.filter_eq_nil_iff]
  intro node member
  simp [none node member]

end Chosen

namespace Tree

variable {bodies : Bodies} {wanted : String → List String → Bool}

/-- Below a body nothing is chosen. -/
private theorem chosen_body
    (passed : bodies.PassedOver wanted) {parent head : Head}
    (covered : bodies.Covers parent head) {children : List Tree}
    (lacking : ∀ child ∈ children, child.Lacks bodies.excluded)
    (ancestors : List String) :
    chosen wanted
      ((Tree.node head children).listing (parent.kind :: ancestors)) = [] := by
  apply chosen_eq_nil
  intro node member
  rw [listing, List.mem_cons, covered.1] at member
  rcases member with rfl | inside
  · rw [show Located.kind ⟨.node head children, _⟩ = bodies.block from
      covered.2.1]
    exact passed.block _
  · rw [listingEach_eq_flatMap, List.mem_flatMap] at inside
    obtain ⟨child, isChild, listed⟩ := inside
    rw [← List.nil_append (head.kind :: _), listing_append,
      List.mem_map] at listed
    obtain ⟨origin, original, rfl⟩ := listed
    have free := lacking child isChild
    have around : ∀ kind ∈ origin.ancestors, kind ∉ bodies.excluded := by
      intro kind encloses
      rcases kind_of_mem_ancestors [] child original encloses with
        impossible | ⟨other, otherListed, rfl⟩
      · cases impossible
      · exact free other otherListed
    have below := passed.inside origin.kind origin.ancestors ancestors
      (free origin original) around
    rw [← covered.2.1] at below
    exact below

private theorem chosen_comment
    (passed : bodies.PassedOver wanted) {tree : Tree}
    (stray : tree.IsStrayComment) (ancestors : List String) :
    chosen wanted (tree.listing ancestors) = [] := by
  obtain ⟨comment, _, leaf⟩ := stray
  apply chosen_eq_nil
  intro node member
  rw [listing_eq, leaf, listingEach, List.mem_singleton] at member
  subst member
  rw [show Located.kind ⟨tree, ancestors⟩ = "comment" from comment]
  exact passed.comment ancestors

mutual

theorem Resembles.forall₂_chosen (passed : bodies.PassedOver wanted) :
    ∀ {tree other : Tree} (ancestors : List String),
      Resembles bodies tree other →
      List.Forall₂ (Located.Resembles bodies)
        (chosen wanted (tree.listing ancestors))
        (chosen wanted (other.listing ancestors))
  | .node head children, .node _ others, ancestors, .node below shown => by
      have further :=
        ResemblesEach.forall₂_chosen passed ancestors below
      have same : Located.Resembles bodies
          ⟨.node head children, ancestors⟩ ⟨.node head others, ancestors⟩ :=
        ⟨.node below shown, rfl⟩
      rw [listing, listing, chosen_cons, chosen_cons]
      change List.Forall₂ _
        (if wanted head.kind ancestors = true then _ else _)
        (if wanted head.kind ancestors = true then _ else _)
      split
      · exact .cons same further
      · exact further

theorem ResemblesEach.forall₂_chosen (passed : bodies.PassedOver wanted) :
    ∀ {parent : Head} {trees others : List Tree} (ancestors : List String),
      ResemblesEach bodies parent trees others →
      List.Forall₂ (Located.Resembles bodies)
        (chosen wanted (listingEach (parent.kind :: ancestors) trees))
        (chosen wanted (listingEach (parent.kind :: ancestors) others))
  | _, _, _, _, .nil => .nil
  | _, _, _, ancestors, .keep first rest => by
      rw [listingEach, listingEach, chosen_append, chosen_append]
      exact List.rel_append
        (Resembles.forall₂_chosen passed _ first)
        (ResemblesEach.forall₂_chosen passed ancestors rest)
  | _, _, _, ancestors, .comment stray rest => by
      rw [listingEach, chosen_append, chosen_comment passed stray,
        List.nil_append]
      exact ResemblesEach.forall₂_chosen passed ancestors rest
  | _, _, _, ancestors, .body covered before after rest => by
      rw [listingEach, listingEach, chosen_append, chosen_append,
        chosen_body passed covered before, chosen_body passed covered after]
      exact ResemblesEach.forall₂_chosen passed ancestors rest

end

/-- The nodes of some kinds that a further choice leaves, in trees that look
alike. -/
theorem Resembles.forall₂_descendants
    {tree other : Tree} (resembles : Resembles bodies tree other)
    {kinds : List String}
    (passed : bodies.PassedOver fun kind ancestors =>
      kinds.contains kind && wanted kind ancestors) :
    List.Forall₂ (Located.Resembles bodies)
      (chosen wanted ((Located.root tree).descendantsOfKind kinds))
      (chosen wanted ((Located.root other).descendantsOfKind kinds)) := by
  have narrowed : ∀ nodes : List Located,
      chosen wanted (nodes.filter fun node => kinds.contains node.kind) =
        chosen (fun kind ancestors =>
          kinds.contains kind && wanted kind ancestors) nodes := by
    intro nodes
    rw [chosen, chosen, List.filter_filter]
    simp only [Bool.and_comm]
  rw [Located.descendantsOfKind_eq_filter, Located.descendantsOfKind_eq_filter,
    narrowed, narrowed]
  cases resembles with
  | node below _ => exact ResemblesEach.forall₂_chosen passed [] below

/-- Nodes of kinds that no body holds look alike, wherever they stand. -/
theorem Resembles.forall₂_descendantsOfKind
    {tree other : Tree} (resembles : Resembles bodies tree other)
    (kinds : List String)
    (noComment : "comment" ∉ kinds) (noBlock : bodies.block ∉ kinds)
    (declared : ∀ kind ∈ kinds, kind ∈ bodies.excluded) :
    List.Forall₂
      (fun node partner => node.kind ∈ kinds ∧ node.Resembles bodies partner)
      ((Located.root tree).descendantsOfKind kinds)
      ((Located.root other).descendantsOfKind kinds) := by
  have passed : bodies.PassedOver fun kind _ =>
      kinds.contains kind && true := by
    constructor
    · intro _
      simpa using noComment
    · intro _
      simpa using noBlock
    · intro kind _ _ outside _
      have unlisted : kind ∉ kinds := fun listed =>
        outside (declared kind listed)
      simpa using unlisted
  have each := resembles.forall₂_descendants passed
  simp only [chosen, List.filter_true] at each
  refine (List.forall₂_and_left _ _).mpr ⟨?_, each⟩
  intro node member
  exact ((Located.mem_descendantsOfKind_iff node _ kinds).mp member).2

section Comments

mutual

theorem Uncommented.refl (tree : Tree) : Uncommented tree tree := by
  cases tree with
  | node head children => exact .node (UncommentedEach.refl children)

theorem UncommentedEach.refl (trees : List Tree) :
    UncommentedEach trees trees := by
  cases trees with
  | nil => exact .nil
  | cons tree rest =>
      exact .keep (Uncommented.refl tree) (UncommentedEach.refl rest)

end

theorem Uncommented.head_eq {tree other : Tree}
    (uncommented : Uncommented tree other) : tree.head = other.head := by
  cases uncommented
  rfl

/-- A stray comment plays no role, so the first child in a role stays. -/
private theorem UncommentedEach.rel_find? (role : String) :
    ∀ {trees others : List Tree}, UncommentedEach trees others →
      Option.Rel Uncommented
        (trees.find? fun child => child.head.role = some role)
        (others.find? fun child => child.head.role = some role)
  | _, _, .nil => .none
  | _, _, .keep first rest => by
      rw [List.find?_cons, List.find?_cons, first.head_eq]
      split
      · exact .some first
      · exact UncommentedEach.rel_find? role rest
  | _, _, .drop stray rest => by
      rw [List.find?_cons_of_neg (by simp [stray.2.1])]
      exact UncommentedEach.rel_find? role rest

mutual

/-- Without some comments a tree looks as it did, whatever the bodies are. -/
theorem Uncommented.resembles :
    ∀ {tree other : Tree}, Uncommented tree other →
      Resembles bodies tree other
  | .node head _, .node _ _, .node below => by
      refine .node (UncommentedEach.resembles head below) ?_
      intro role first second _ inFirst inSecond
      have related := UncommentedEach.rel_find? role below
      rw [child?] at inFirst inSecond
      simp only [Tree.children] at inFirst inSecond
      rw [inFirst, inSecond] at related
      cases related with
      | some uncommented => exact uncommented

theorem UncommentedEach.resembles (parent : Head) :
    ∀ {trees others : List Tree}, UncommentedEach trees others →
      ResemblesEach bodies parent trees others
  | _, _, .nil => .nil
  | _, _, .keep first rest =>
      .keep (Uncommented.resembles first)
        (UncommentedEach.resembles parent rest)
  | _, _, .drop stray rest =>
      .comment stray (UncommentedEach.resembles parent rest)

end

end Comments

section ExchangedBody

/-- The second tree is the first one with other nodes below one body.  On the
way down to it no child is entered that is exposed, which the first child in
an exposed role is. -/
inductive Rebodied (bodies : Bodies) : Tree → Tree → Prop where
  | body {head block : Head} {before after children replaced : List Tree}
      (covered : bodies.Covers head block)
      (lacking : ∀ child ∈ children, child.Lacks bodies.excluded)
      (stillLacking : ∀ child ∈ replaced, child.Lacks bodies.excluded) :
      Rebodied bodies
        (.node head (before ++ .node block children :: after))
        (.node head (before ++ .node block replaced :: after))
  | inside {head : Head} {before after : List Tree} {tree other : Tree}
      (inner : Rebodied bodies tree other)
      (hidden : ∀ role, (head.kind, role) ∈ bodies.exposed →
        tree.head.role = some role →
          ∃ earlier ∈ before, earlier.head.role = some role) :
      Rebodied bodies
        (.node head (before ++ tree :: after))
        (.node head (before ++ other :: after))

theorem Rebodied.head_eq {tree other : Tree}
    (rebodied : Rebodied bodies tree other) : tree.head = other.head := by
  cases rebodied with
  | body => rfl
  | inside => rfl

theorem ResemblesEach.append
    {parent : Head} {others replaced : List Tree} (before : List Tree)
    (rest : ResemblesEach bodies parent others replaced) :
    ResemblesEach bodies parent (before ++ others) (before ++ replaced) := by
  induction before with
  | nil => exact rest
  | cons tree before induction =>
      exact .keep (Uncommented.refl tree).resembles induction

private theorem child?_eq_of_hidden
    {head : Head} {before after : List Tree} {tree other : Tree}
    {role : String} (same : tree.head = other.head)
    (hidden : tree.head.role = some role →
      ∃ earlier ∈ before, earlier.head.role = some role) :
    (Tree.node head (before ++ tree :: after)).child? role =
      (Tree.node head (before ++ other :: after)).child? role := by
  simp only [child?, Tree.children, List.find?_append]
  cases found : before.find? fun child => child.head.role = some role with
  | some earlier => rfl
  | none =>
      have absent : ¬tree.head.role = some role := by
        intro plays
        obtain ⟨earlier, member, alsoPlays⟩ := hidden plays
        have missed := List.find?_eq_none.mp found earlier member
        exact missed (by simpa using alsoPlays)
      have alsoAbsent : ¬other.head.role = some role := same ▸ absent
      rw [List.find?_cons_of_neg (by simpa using absent),
        List.find?_cons_of_neg (by simpa using alsoAbsent)]

/-- With another body a tree looks as it did. -/
theorem Rebodied.resembles {tree other : Tree}
    (unexposed : ∀ role, (bodies.method, role) ∉ bodies.exposed)
    (rebodied : Rebodied bodies tree other) :
    Resembles bodies tree other := by
  induction rebodied with
  | @body head block before after children replaced covered lacking
      stillLacking =>
      have rest : ResemblesEach bodies head after after :=
        UncommentedEach.resembles head (UncommentedEach.refl after)
      refine .node (ResemblesEach.append before
        (.body covered lacking stillLacking rest)) ?_
      intro role _ _ exposed
      rw [covered.1] at exposed
      exact absurd exposed (unexposed role)
  | @inside head before after tree other inner hidden induction =>
      have rest : ResemblesEach bodies head after after :=
        UncommentedEach.resembles head (UncommentedEach.refl after)
      refine .node (ResemblesEach.append before (.keep induction rest)) ?_
      intro role first second exposed inFirst inSecond
      rw [child?_eq_of_hidden inner.head_eq (hidden role exposed),
        inSecond] at inFirst
      rw [Option.some.inj inFirst]
      exact Uncommented.refl _

end ExchangedBody

end Tree

end SymbolDiff
