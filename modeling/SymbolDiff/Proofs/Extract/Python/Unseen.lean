import SymbolDiff.Extract.Python
import SymbolDiff.Proofs.Extract.SameAnswers

/-!
# What Python extraction does not see

The body of a function is a block.  Nothing of it is extracted unless it
declares a class or holds a module.  The exception is the left side of a type
statement, which is searched for its first name as a whole.  Each part of
extraction has one outcome on trees that look alike, and so has the whole.
-/

namespace SymbolDiff.Extract.Python

open SymbolDiff.Tree (Resembles Matches Uncommented)
open Outcome

/-- Bodies of functions, and what they must not hold to stay unseen. -/
def bodies : Bodies where
  method := "function_definition"
  block := "block"
  excluded := ["class_definition", rootKind]
  exposed := [("type_alias_statement", "left")]

section Methods

variable {tree other : Tree} (source : ByteArray)

theorem extractParameter_eq
    (resembles : Resembles bodies tree other) (ordinal : Nat) :
    extractParameter source ordinal tree =
      extractParameter source ordinal other := by
  have names := resembles.rel_firstOfKind? splatNameKinds
    (by decide) (by decide)
  rw [extractParameter, extractParameter, resembles.kind_eq,
    textOf_eq_of_head source resembles.head_eq,
    textOfChild_eq source resembles "name" (by decide),
    annotationText_eq_of_rel source (resembles.rel_child? "type" (by decide)),
    found_eq_of_head source resembles.head_eq]
  generalize tree.firstOfKind? _ = first at names ⊢
  generalize other.firstOfKind? _ = second at names ⊢
  cases names with
  | none => rfl
  | some alike => simp only [textOf_eq_of_head source alike.head_eq]

theorem extractParameters_eq {trees others : List Tree}
    (each : List.Forall₂ (Resembles bodies) trees others) (ordinal : Nat) :
    extractParameters source ordinal trees =
      extractParameters source ordinal others := by
  induction each generalizing ordinal with
  | nil => rfl
  | cons first _ induction =>
      rw [extractParameters, extractParameters,
        extractParameter_eq source first, induction]

theorem extractMethod_eq (resembles : Resembles bodies tree other) :
    extractMethod source tree = extractMethod source other := by
  apply (rel_requireChild source resembles.head_eq
    (resembles.rel_child? "parameters" (by decide))).bind_eq
  intro list others alike
  rw [textOfChild_eq source resembles "name" (by decide),
    annotationText_eq_of_rel source
      (resembles.rel_child? "return_type" (by decide)),
    extractParameters_eq source
      (alike.forall₂_namedChildren parameterKinds (by decide) (by decide))]

theorem rel_undecorated (resembles : Resembles bodies tree other) :
    Rel (Resembles bodies)
      (undecorated source tree) (undecorated source other) := by
  rw [undecorated, undecorated, resembles.kind_eq]
  split
  · exact rel_requireChild source resembles.head_eq
      (resembles.rel_child? "definition" (by decide))
  · exact .ok resembles

theorem memberMethod_eq (resembles : Resembles bodies tree other) :
    memberMethod source tree = memberMethod source other := by
  rw [memberMethod, memberMethod, resembles.kind_eq]
  split
  · apply (rel_undecorated source resembles).bind_eq
    intro definition partner alike
    rw [alike.kind_eq, extractMethod_eq source alike]
  · rfl

/-- Kinds of the members of a class body that are methods. -/
def methodKinds : List String :=
  ["function_definition", "decorated_definition"]

private theorem memberMethod_of_not_mem {member : Tree}
    (unlisted : methodKinds.contains member.kind = false) :
    memberMethod source member = .ok [] := by
  rw [memberMethod, if_neg]
  simpa [methodKinds] using unlisted

theorem flatten_append_nil {α : Type} (before after : List (List α)) :
    (before ++ [] :: after).flatten = (before ++ after).flatten := by
  simp

/-- Only members of the kinds of methods contribute methods. -/
theorem extractMethods_eq_filter (body : Tree) :
    extractMethods source body =
      ((body.namedChildren.filter fun member =>
          methodKinds.contains member.kind).mapM
        (memberMethod source)).map List.flatten := by
  rw [extractMethods, bind_pure_eq_map]
  apply map_mapM_filter _ flatten_append_nil
  intro member _ unlisted
  exact memberMethod_of_not_mem source unlisted

theorem extractMethods_eq (resembles : Resembles bodies tree other) :
    extractMethods source tree = extractMethods source other := by
  rw [extractMethods_eq_filter, extractMethods_eq_filter,
    mapM_eq_of_forall₂ (memberMethod source)
      (fun _ _ same => memberMethod_eq source same)
      (resembles.forall₂_namedChildren methodKinds (by decide) (by decide))]

end Methods

section Assignments

variable {tree other : Tree} (source : ByteArray)

/-- Links of one name whose assignments look alike. -/
def Link.Resembles (first second : Link) : Prop :=
  first.name = second.name ∧
    Tree.Resembles bodies first.assignment second.assignment

/-- The links and the value of two chains that look alike. -/
def ChainsResemble (first second : List Link × Option Tree) : Prop :=
  List.Forall₂ Link.Resembles first.1 second.1 ∧
    Option.Rel (Tree.Resembles bodies) first.2 second.2

theorem assignmentLinks_eq (assignment : Tree) :
    assignmentLinks source assignment = (do
      let left ← requireChild source assignment "left"
      let own ← ownLink source left assignment
      match assignment.child? "right" with
      | none => .ok (own, none)
      | some right =>
          if right.kind = "assignment" then
            (assignmentLinks source right).map
              fun further => (own ++ further.1, further.2)
          else .ok (own, some right)) := by
  rw [assignmentLinks]
  cases requireChild source assignment "left" with
  | error fault => rfl
  | ok left =>
      dsimp only [ok_bind]
      cases ownLink source left assignment with
      | error fault => rfl
      | ok own =>
          dsimp only [ok_bind]
          split <;> rename_i found
          · rw [found]
          · rw [found]

theorem rel_ownLink
    (resembles : Tree.Resembles bodies tree other) {left partner : Tree}
    (lefts : Tree.Resembles bodies left partner) :
    Rel (List.Forall₂ Link.Resembles)
      (ownLink source left tree) (ownLink source partner other) := by
  rw [ownLink, ownLink, lefts.kind_eq,
    textOf_eq_of_head source lefts.head_eq]
  split
  · cases textOf source partner with
    | error fault => exact .error fault
    | ok name => exact .ok (.cons ⟨rfl, resembles⟩ .nil)
  · exact .ok .nil

/-- Two chains that look alike are followed in step. -/
theorem rel_assignmentLinks {tree other : Tree}
    (resembles : Tree.Resembles bodies tree other) :
    Rel ChainsResemble
      (assignmentLinks source tree) (assignmentLinks source other) := by
  rw [assignmentLinks_eq, assignmentLinks_eq]
  apply (rel_requireChild source resembles.head_eq
    (resembles.rel_child? "left" (by decide))).bind
  intro left partner lefts
  apply (rel_ownLink source resembles lefts).bind
  intro own others links
  have rights := resembles.rel_child? "right" (by decide)
  generalize found : tree.child? "right" = first at rights ⊢
  generalize other.child? "right" = second at rights ⊢
  cases rights with
  | none => exact .ok ⟨links, .none⟩
  | @some right counterpart alike =>
      simp only [alike.kind_eq]
      split
      · apply (rel_assignmentLinks alike).map
        rintro further rest ⟨restLinks, value⟩
        exact ⟨List.rel_append links restLinks, value⟩
      · exact .ok ⟨links, .some alike⟩
termination_by tree.size
decreasing_by exact size_lt_of_child? found

theorem extractField_eq {link partner : Link}
    (links : link.Resembles partner) (value : Option String) :
    extractField source value link = extractField source value partner := by
  obtain ⟨names, assignments⟩ := links
  rw [extractField, extractField, names,
    annotationText_eq_of_rel source
      (assignments.rel_child? "type" (by decide))]

theorem rel_statementAssignment?
    (resembles : Tree.Resembles bodies tree other) :
    Option.Rel (Tree.Resembles bodies)
      (statementAssignment? tree) (statementAssignment? other) := by
  rw [statementAssignment?, statementAssignment?, resembles.kind_eq]
  split
  · exact resembles.rel_firstOfKind? ["assignment"] (by decide) (by decide)
  · exact .none

theorem statementFields_eq (resembles : Tree.Resembles bodies tree other) :
    statementFields source tree = statementFields source other := by
  have assignments := rel_statementAssignment? resembles
  rw [statementFields, statementFields]
  generalize statementAssignment? tree = first at assignments ⊢
  generalize statementAssignment? other = second at assignments ⊢
  cases assignments with
  | none => rfl
  | some alike =>
      apply (rel_assignmentLinks source alike).bind_eq
      rintro ⟨links, value⟩ ⟨partners, counterpart⟩ ⟨each, values⟩
      dsimp only
      rw [textOf?_eq_of_rel source values]
      congr 1
      funext text
      exact mapM_eq_of_forall₂ (extractField source text)
        (fun _ _ same => extractField_eq source same text) each

/-- Only expression statements declare fields. -/
theorem extractFields_eq_filter (body : Tree) :
    extractFields source body =
      ((body.namedChildren.filter fun statement =>
          ["expression_statement"].contains statement.kind).mapM
        (statementFields source)).map List.flatten := by
  rw [extractFields, bind_pure_eq_map]
  apply map_mapM_filter _ flatten_append_nil
  intro statement _ unlisted
  have other : statement.kind ≠ "expression_statement" := by
    simpa using unlisted
  rw [statementFields, statementAssignment?, if_neg other]

theorem extractFields_eq (resembles : Tree.Resembles bodies tree other) :
    extractFields source tree = extractFields source other := by
  rw [extractFields_eq_filter, extractFields_eq_filter,
    mapM_eq_of_forall₂ (statementFields source)
      (fun _ _ same => statementFields_eq source same)
      (resembles.forall₂_namedChildren ["expression_statement"]
        (by decide) (by decide))]

end Assignments

section Classes

variable {tree other : Tree} (source : ByteArray)

/-- A base is only looked into when it is a subscript, which no body is. -/
theorem extractBase_eq {parent : Head}
    (matched : Matches bodies parent tree other) :
    extractBase source tree = extractBase source other := by
  have kinds : tree.kind = other.kind := congrArg Head.kind matched.1
  rw [extractBase, extractBase, ← kinds,
    textOf_eq_of_head source matched.1]
  split
  · rename_i subscript
    apply textOfChild_eq source (matched.2 _) "value" (by decide)
    rintro ⟨_, isBlock, _⟩
    rw [show tree.head.kind = "subscript" from subscript] at isBlock
    exact absurd isBlock (by decide)
  · rfl

theorem extractBases_eq (resembles : Resembles bodies tree other) :
    extractBases source tree = extractBases source other := by
  have lists := resembles.rel_child? "superclasses" (by decide)
  rw [extractBases, extractBases]
  generalize tree.child? _ = first at lists ⊢
  generalize other.child? _ = second at lists ⊢
  cases lists with
  | none => rfl
  | @some list partner alike =>
      apply mapM_eq_of_forall₂ (extractBase source)
        (fun _ _ same => extractBase_eq source same)
      apply List.rel_filter _ alike.forall₂_significantChildren
      intro base counterpart same
      simp only [Tree.kind, same.1]

theorem extractClass_eq
    (resembles : Resembles bodies tree other)
    (isClass : tree.kind ≠ bodies.method) :
    extractClass source tree = extractClass source other := by
  rw [extractClass, extractClass,
    textOfChild_eq source resembles "name" (by decide)]
  congr 1
  funext name
  apply (rel_requireChild source resembles.head_eq
    (resembles.rel_body isClass)).bind_eq
  intro body partner same
  rw [extractBases_eq source resembles, extractMethods_eq source same,
    extractFields_eq source same]

end Classes

section Bindings

variable {tree other : Tree} (source : ByteArray)

theorem isAliasAssignment_eq (resembles : Resembles bodies tree other) :
    isAliasAssignment source tree = isAliasAssignment source other := by
  have types := resembles.rel_child? "type" (by decide)
  rw [isAliasAssignment, isAliasAssignment,
    Tree.isSome_eq_of_rel (resembles.rel_child? "right" (by decide))]
  generalize tree.child? "type" = first at types ⊢
  generalize other.child? "type" = second at types ⊢
  cases types with
  | none => rfl
  | some alike => simp only [annotationText_eq source alike]

/-- The target of a type statement is searched as a whole, so it must not
differ in more than comments.  For the search the bodies are of no kind at
all, and no name may stand in them. -/
theorem aliasName_eq (uncommented : Uncommented tree other) :
    aliasName source tree = aliasName source other := by
  have whole : Resembles ⟨"", "", ["identifier"], []⟩ tree other :=
    uncommented.resembles
  have names := whole.forall₂_descendantsOfKind ["identifier"]
    (by decide) (by decide) (by decide)
  rw [aliasName, aliasName, whole.kind_eq,
    textOf_eq_of_head source whole.head_eq,
    found_eq_of_head source whole.head_eq]
  generalize (Located.root tree).descendantsOfKind _ = first at names ⊢
  generalize (Located.root other).descendantsOfKind _ = second at names ⊢
  cases names with
  | nil => rfl
  | cons found _ =>
      simp only [textOf_eq_of_head source found.2.1.head_eq]

theorem extractAliasStatement_eq
    (resembles : Resembles bodies tree other)
    (isAlias : tree.kind = "type_alias_statement") :
    extractAliasStatement source tree =
      extractAliasStatement source other := by
  have exposed : (tree.kind, "left") ∈ bodies.exposed := by
    rw [isAlias]
    decide
  apply (rel_requireChild source resembles.head_eq
    (resembles.rel_exposed "left" (by decide) exposed)).bind_eq
  intro left partner lefts
  rw [aliasName_eq source lefts,
    textOfChild_eq source resembles "right" (by decide)]

theorem extractAliasAssignment_eq (resembles : Resembles bodies tree other) :
    extractAliasAssignment source tree =
      extractAliasAssignment source other := by
  rw [extractAliasAssignment, extractAliasAssignment,
    textOfChild_eq source resembles "left" (by decide),
    textOfChild_eq source resembles "right" (by decide)]

theorem mapM_extractVariable_eq {links partners : List Link}
    (each : List.Forall₂ Link.Resembles links partners)
    {value counterpart : Option Tree}
    (values : Option.Rel (Resembles bodies) value counterpart) :
    links.mapM (extractVariable source value) =
      partners.mapM (extractVariable source counterpart) := by
  have step : extractVariable source value =
      extractVariable source counterpart := by
    funext link
    rw [extractVariable, extractVariable, textOf?_eq_of_rel source values]
  rw [step]
  apply mapM_eq_of_forall₂ (extractVariable source counterpart) _ each
  rintro link partner ⟨names, assignments⟩
  rw [extractVariable, extractVariable, names,
    annotationText_eq_of_rel source
      (assignments.rel_child? "type" (by decide))]

theorem extractBinding_eq {node partner : Located}
    (resembles : node.Resembles bodies partner) :
    extractBinding source node = extractBinding source partner := by
  obtain ⟨alike, enclosed⟩ := resembles
  have kinds : node.kind = partner.kind := alike.kind_eq
  rw [extractBinding, extractBinding, ← kinds, Located.parentKind?,
    Located.parentKind?, isModuleAssignment, isModuleAssignment,
    Located.grandparentKind?, Located.grandparentKind?, enclosed]
  split
  · rename_i isAlias
    rw [extractAliasStatement_eq source alike isAlias]
  · split
    · apply (rel_assignmentLinks source alike).bind_eq
      rintro ⟨links, value⟩ ⟨others, counterpart⟩ ⟨each, values⟩
      dsimp only at each values ⊢
      have empty : links.isEmpty = others.isEmpty := by
        cases each with
        | nil => rfl
        | cons _ _ => rfl
      rw [empty, isAliasAssignment_eq source alike,
        extractAliasAssignment_eq source alike,
        mapM_extractVariable_eq source each values]
    · rfl

end Bindings

section Files

/-- The kinds of nodes that may bind names of the module. -/
def bindingKinds : List String := ["assignment", "type_alias_statement"]

/-- Whether a node of such a kind stands where it binds names of the module. -/
def bindsInModule (kind : String) (ancestors : List String) : Bool :=
  if kind = "type_alias_statement" then decide (ancestors[0]? = some rootKind)
  else decide (ancestors[1]? = some rootKind)

/-- In a body, what stands one or two levels above a node is in the body, or
is the body or its function, and so is no module. -/
private theorem bindsInModule_in_body (kind : String)
    {inner : List String} (around : ∀ other ∈ inner, other ∉ bodies.excluded)
    (ancestors : List String) :
    bindsInModule kind
      (inner ++ bodies.block :: bodies.method :: ancestors) = false := by
  have noModule :
      ∀ other ∈ inner, decide (some other = some rootKind) = false := by
    intro other member
    rw [decide_eq_false_iff_not, Option.some.injEq]
    rintro rfl
    exact around _ member (by decide)
  rw [bindsInModule]
  match inner with
  | [] =>
      split
      · rfl
      · rfl
  | [parent] =>
      split
      · exact noModule parent (by simp)
      · rfl
  | parent :: grandparent :: _ =>
      split
      · exact noModule parent (by simp)
      · exact noModule grandparent (by simp)

private theorem passedOver_bindings :
    bodies.PassedOver fun kind ancestors =>
      bindingKinds.contains kind && bindsInModule kind ancestors where
  comment _ := rfl
  block _ := rfl
  inside kind inner ancestors _ around := by
    rw [bindsInModule_in_body kind around, Bool.and_false]

/-- A node that binds no name of the module contributes nothing. -/
private theorem extractBinding_of_not_bindsInModule
    (source : ByteArray) {node : Located}
    (elsewhere : bindsInModule node.kind node.ancestors = false) :
    extractBinding source node = .ok ([], []) := by
  rw [bindsInModule] at elsewhere
  rw [extractBinding]
  split
  · rename_i isAlias
    rw [if_pos isAlias, decide_eq_false_iff_not] at elsewhere
    exact if_neg elsewhere
  · rename_i isAssignment
    rw [if_neg isAssignment, decide_eq_false_iff_not] at elsewhere
    apply if_neg
    rw [isModuleAssignment, decide_eq_true_iff]
    exact elsewhere

/-- The aliases and the variables of several bindings, each in order. -/
def collectBindings (bound : List (List TypeAlias × List Variable)) :
    List TypeAlias × List Variable :=
  ((bound.map Prod.fst).flatten, (bound.map Prod.snd).flatten)

/-- Only nodes that bind names of the module contribute bindings. -/
theorem extractRoot_eq_filter (source : ByteArray) (tree : Tree) :
    extractRoot source tree = (do
      let symbols ← ((Located.root tree).descendantsOfKind
        ["class_definition"]).mapM fun node => extractClass source node.tree
      let bound ← ((chosen bindsInModule
        ((Located.root tree).descendantsOfKind bindingKinds)).mapM
          (extractBinding source)).map collectBindings
      return {
        classes := symbols.filterMap Sum.getLeft?
        interfaces := symbols.filterMap Sum.getRight?
        types := bound.1
        bindings := bound.2 }) := by
  have collected : ((((Located.root tree).descendantsOfKind bindingKinds).mapM
        (extractBinding source)).map collectBindings) =
      ((chosen bindsInModule
        ((Located.root tree).descendantsOfKind bindingKinds)).mapM
          (extractBinding source)).map collectBindings := by
    apply map_mapM_filter
    · intro node _ elsewhere
      exact extractBinding_of_not_bindsInModule source elsewhere
    · intro before after
      simp [collectBindings]
  rw [← collected, extractRoot]
  congr 1
  funext symbols
  dsimp only [bindingKinds]
  cases ((Located.root tree).descendantsOfKind
      ["assignment", "type_alias_statement"]).mapM (extractBinding source) with
  | error fault => rfl
  | ok bound => rfl

/-- Trees that look alike have one outcome. -/
theorem extractRoot_eq (source : ByteArray) {tree other : Tree}
    (resembles : Resembles bodies tree other) :
    extractRoot source tree = extractRoot source other := by
  have classes := mapM_eq_of_forall₂
    (fun node : Located => extractClass source node.tree)
    (fun node partner found => extractClass_eq source found.2.1 (by
      have isClass : node.tree.kind = "class_definition" :=
        List.mem_singleton.mp found.1
      rw [isClass]
      decide))
    (resembles.forall₂_descendantsOfKind ["class_definition"]
      (by decide) (by decide) (by decide))
  have bindings := mapM_eq_of_forall₂ (extractBinding source)
    (fun _ _ found => extractBinding_eq source found)
    (resembles.forall₂_descendants passedOver_bindings)
  rw [extractRoot_eq_filter, extractRoot_eq_filter, classes, bindings]

end Files

end SymbolDiff.Extract.Python
