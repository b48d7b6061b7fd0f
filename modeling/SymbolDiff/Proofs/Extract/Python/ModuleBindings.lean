import SymbolDiff.Proofs.Extract.Python.Chain

/-!
# Bindings of a module

Extraction looks at every assignment of a file and keeps those that stand two
levels below a module.  Where the file is the only module, these are the
assignments in its own statements, and the assignments further inside a chain
are passed over.  `moduleBindings` goes along the statements of the file and
the chains that start in them; it records each name once.
-/

namespace SymbolDiff.Extract.Python

open Outcome

/-- The target of an assignment, if it is a name, with the assignment. -/
def nameTarget? (assignment : Tree) : Option (Tree × Tree) :=
  match assignment.child? "left" with
  | some left =>
      if left.kind = "identifier" then some (left, assignment) else none
  | none => none

/-- The names among the targets of a chain, from left to right. -/
def nameTargets (assignment : Tree) : List (Tree × Tree) :=
  (chain assignment).filterMap nameTarget?

/-- The variable of a target: its name, the annotation of its own assignment
and the value that it shares with the other targets. -/
def targetVariable (source : ByteArray) (value : Option Tree)
    (target : Tree × Tree) : Except Fault Variable := do
  let name ← textOf source target.1
  let type ← annotationText source (target.2.child? "type")
  let text ← textOf? source value
  return { name, isExported := isExported name, type, value := text }

/-- A chain defines a type when its first assignment has a value and is
annotated so, and some target of it is a name. -/
def definesType (source : ByteArray) (assignment : Tree) : Except Fault Bool :=
  match assignment.child? "type", assignment.child? "right" with
  | some type, some _ =>
      if (nameTargets assignment).isEmpty then .ok false
      else (annotationText source (some type)).map aliasAnnotations.contains
  | _, _ => .ok false

/-- What a chain of assignments records: one type, or a variable for each of
its names. -/
def chainBindings (source : ByteArray) (assignment : Tree) :
    Except Fault (List TypeAlias × List Variable) := do
  if ← definesType source assignment then
    let name ← textOfChild source assignment "left"
    let type ← textOfChild source assignment "right"
    return ([{ name, isExported := isExported name, type }], [])
  else
    let bound ← (nameTargets assignment).mapM
      (targetVariable source (sharedValue? assignment))
    return ([], bound)

/-- What a statement of the module records: the type that it defines as a type
statement, and the chains that start in it. -/
def statementBindings (source : ByteArray) (statement : Tree) :
    Except Fault (List TypeAlias × List Variable) := do
  let defined ← if statement.kind = "type_alias_statement" then
    (extractAliasStatement source statement).map fun type => [type]
  else .ok []
  let chains ← (statement.childrenOfKind ["assignment"]).mapM
    (chainBindings source)
  return (defined ++ (collectBindings chains).1, (collectBindings chains).2)

/-- What the statements of a module record, one after the other. -/
def moduleBindings (source : ByteArray) (tree : Tree) :
    Except Fault (List TypeAlias × List Variable) :=
  (tree.children.mapM (statementBindings source)).map collectBindings

/-- The file is a module and no other node is one. -/
structure OnlyModule (tree : Tree) : Prop where
  root : tree.kind = rootKind
  below : ∀ child ∈ tree.children, child.Lacks [rootKind]

section Chains

variable {source : ByteArray}

/-- A name that was read from a target. -/
def Link.ReadFrom (source : ByteArray) (target : Tree × Tree) (link : Link) :
    Prop :=
  textOf source target.1 = .ok link.name ∧ link.assignment = target.2

theorem forall₂_readFrom {assignments : List Tree} {own : List (List Link)}
    (read : assignments.mapM (targetLink source) = .ok own) :
    List.Forall₂ (Link.ReadFrom source)
      (assignments.filterMap nameTarget?) own.flatten := by
  have each := mapM_eq_ok_iff.mp read
  clear read
  induction each with
  | nil => exact .nil
  | @cons assignment links rest following first _ induction =>
      rw [targetLink, requireChild] at first
      cases found : assignment.child? "left" with
      | none =>
          rw [found] at first
          cases first
      | some left =>
          rw [found, ok_bind, ownLink] at first
          rw [List.flatten_cons]
          by_cases isName : left.kind = "identifier"
          · rw [if_pos isName] at first
            obtain ⟨name, text, rfl⟩ := map_eq_ok_iff.mp first
            have target : nameTarget? assignment = some (left, assignment) := by
              rw [nameTarget?, found]
              exact if_pos isName
            rw [List.filterMap_cons_some target]
            exact .cons ⟨text, rfl⟩ induction
          · rw [if_neg isName] at first
            cases first
            have target : nameTarget? assignment = none := by
              rw [nameTarget?, found]
              exact if_neg isName
            rw [List.filterMap_cons_none target]
            exact induction

theorem extractVariable_eq_target {target : Tree × Tree} {link : Link}
    (read : link.ReadFrom source target) (value : Option Tree) :
    targetVariable source value target =
      extractVariable source value link := by
  obtain ⟨text, same⟩ := read
  rw [targetVariable, extractVariable, text, same]
  rfl

theorem definesType_eq {assignment : Tree}
    (named : ¬(nameTargets assignment).isEmpty = true) :
    definesType source assignment = isAliasAssignment source assignment := by
  rw [definesType, isAliasAssignment]
  cases assignment.child? "type" with
  | none => rfl
  | some type =>
      cases assignment.child? "right" with
      | none => rfl
      | some right =>
          dsimp only
          rw [if_neg named, if_pos (Option.isSome_some)]
          rfl

theorem definesType_of_nameless {assignment : Tree}
    (nameless : (nameTargets assignment).isEmpty = true) :
    definesType source assignment = .ok false := by
  rw [definesType]
  split
  · rw [if_pos nameless]
  · rfl

/-- What extraction makes of a chain is what the chain records. -/
theorem chainBindings_of_recordLinks {assignment : Tree}
    {bound : List TypeAlias × List Variable}
    (recorded : assignmentLinks source assignment >>=
      recordLinks source assignment = .ok bound) :
    chainBindings source assignment = .ok bound := by
  obtain ⟨read, links, recorded⟩ := bind_eq_ok_iff.mp recorded
  rw [assignmentLinks_eq_chain] at links
  obtain ⟨own, targets, rfl⟩ := map_eq_ok_iff.mp links
  have each : List.Forall₂ (Link.ReadFrom source) (nameTargets assignment)
      own.flatten := forall₂_readFrom targets
  have bindings : (nameTargets assignment).mapM
        (targetVariable source (sharedValue? assignment)) =
      own.flatten.mapM (extractVariable source (sharedValue? assignment)) := by
    apply mapM_eq_of_rel _ each
    intro target link readFrom
    exact extractVariable_eq_target readFrom _
  have empty : own.flatten.isEmpty = (nameTargets assignment).isEmpty := by
    rw [Bool.eq_iff_iff, List.isEmpty_iff_length_eq_zero,
      List.isEmpty_iff_length_eq_zero, each.length_eq]
  have defined : (do
        let type ← extractAliasAssignment source assignment
        return ([type], [])) = (do
        let name ← textOfChild source assignment "left"
        let type ← textOfChild source assignment "right"
        return ([{ name, isExported := isExported name, type }],
          ([] : List Variable))) := by
    rw [extractAliasAssignment, bind_assoc]
    congr 1
    funext name
    rw [bind_assoc]
    rfl
  simp only [recordLinks, empty, defined] at recorded
  by_cases nameless : (nameTargets assignment).isEmpty = true
  · rw [if_pos nameless] at recorded
    cases recorded
    rw [chainBindings, definesType_of_nameless nameless,
      List.isEmpty_iff.mp nameless]
    rfl
  · rw [if_neg nameless] at recorded
    rw [chainBindings, definesType_eq nameless, bindings]
    exact recorded

end Chains

section Positions

/-- The nodes of a statement of the module that bind names of the module. -/
def bindingNodes (statement : Tree) : List Located :=
  (if statement.kind = "type_alias_statement" then
      [⟨statement, [rootKind]⟩]
    else []) ++
    (statement.childrenOfKind ["assignment"]).map
      fun assignment => ⟨assignment, [statement.kind, rootKind]⟩

/-- Whether a node binds names of the module, by its kind and where it
stands. -/
def isModuleBinding (kind : String) (ancestors : List String) : Bool :=
  bindingKinds.contains kind && bindsInModule kind ancestors

theorem kind_ne_of_lacks {tree part : Tree} (lacks : tree.Lacks [rootKind])
    (inside : part.Inside tree) : part.kind ≠ rootKind := by
  obtain ⟨node, listed, rfl⟩ := inside
  exact fun same => lacks node listed (List.mem_singleton.mpr same)

theorem lacks_child {tree child : Tree} (lacks : tree.Lacks [rootKind])
    (member : child ∈ tree.children) : child.Lacks [rootKind] := by
  intro node listed isModule
  have inside : node.tree.Inside child := ⟨node, listed, rfl⟩
  exact kind_ne_of_lacks lacks
    (inside.trans ((Tree.Inside.refl tree).child member))
    (List.mem_singleton.mp isModule)

theorem bindsInModule_eq_false (kind : String) {nearest next : String}
    (nearestKind : nearest ≠ rootKind) (nextKind : next ≠ rootKind)
    (outer : List String) :
    bindsInModule kind (nearest :: next :: outer) = false := by
  rw [bindsInModule]
  split
  · simpa using nearestKind
  · simpa using nextKind

/-- More than two levels below the only module nothing binds its names. -/
theorem chosen_deep_eq_nil {trees : List Tree} {parent above : String}
    (outer : List String)
    (parentKind : parent ≠ rootKind) (aboveKind : above ≠ rootKind)
    (inner : ∀ tree ∈ trees, tree.Lacks [rootKind]) :
    chosen isModuleBinding
      (Tree.listingEach (parent :: above :: outer) trees) = [] := by
  apply chosen_eq_nil
  intro node member
  rw [← List.nil_append (parent :: above :: outer), Tree.listingEach_append,
    List.mem_map] at member
  obtain ⟨origin, listed, rfl⟩ := member
  have noModule : ∀ kind ∈ origin.ancestors, kind ≠ rootKind := by
    intro kind encloses
    rcases Tree.kind_of_mem_ancestorsEach [] trees listed encloses with
      impossible | ⟨other, otherListed, rfl⟩
    · cases impossible
    · rw [Tree.listingEach_eq_flatMap, List.mem_flatMap] at otherListed
      obtain ⟨tree, inTrees, inTree⟩ := otherListed
      exact kind_ne_of_lacks (inner tree inTrees) ⟨other, inTree, rfl⟩
  rw [isModuleBinding, Bool.and_eq_false_iff]
  right
  -- the two nearest kinds are kinds of the trees or the two that are given
  match around : origin.ancestors with
  | [] => exact bindsInModule_eq_false _ parentKind aboveKind outer
  | [only] =>
      have onlyKind := noModule only (by simp [around])
      exact bindsInModule_eq_false _ onlyKind parentKind _
  | nearest :: next :: rest =>
      have nearestKind := noModule nearest (by simp [around])
      have nextKind := noModule next (by simp [around])
      exact bindsInModule_eq_false _ nearestKind nextKind _

theorem isModuleBinding_child (kind : String) :
    isModuleBinding kind [rootKind] = true ↔ kind = "type_alias_statement" := by
  rw [isModuleBinding, bindsInModule, Bool.and_eq_true]
  constructor
  · rintro ⟨_, binds⟩
    split at binds
    · assumption
    · simp at binds
  · rintro rfl
    decide

theorem isModuleBinding_grandchild (kind : String) {parent : String}
    (parentKind : parent ≠ rootKind) :
    isModuleBinding kind [parent, rootKind] = true ↔ kind = "assignment" := by
  rw [isModuleBinding, bindsInModule, Bool.and_eq_true, List.contains_iff_mem,
    bindingKinds, List.mem_pair]
  constructor
  · rintro ⟨listed, binds⟩
    split at binds
    · simp [parentKind] at binds
    · rename_i other
      exact listed.resolve_right other
  · rintro rfl
    simp

theorem chosen_listing (ancestors : List String) (tree : Tree) :
    chosen isModuleBinding (tree.listing ancestors) =
      if isModuleBinding tree.kind ancestors = true then
        ⟨tree, ancestors⟩ :: chosen isModuleBinding
          (Tree.listingEach (tree.kind :: ancestors) tree.children)
      else chosen isModuleBinding
        (Tree.listingEach (tree.kind :: ancestors) tree.children) := by
  rw [Tree.listing_eq]
  exact chosen_cons _ _

/-- Of the nodes below a statement its own assignments bind names. -/
theorem chosen_statement_children {parent : String} {children : List Tree}
    (parentKind : parent ≠ rootKind)
    (each : ∀ child ∈ children, child.Lacks [rootKind]) :
    chosen isModuleBinding (Tree.listingEach [parent, rootKind] children) =
      (children.filter fun child => ["assignment"].contains child.kind).map
        fun assignment => ⟨assignment, [parent, rootKind]⟩ := by
  induction children with
  | nil => rfl
  | cons child rest induction =>
      rw [List.forall_mem_cons] at each
      have childKind := kind_ne_of_lacks each.1 (.refl child)
      have deeper := chosen_deep_eq_nil [rootKind] childKind parentKind
        fun inner member => lacks_child each.1 member
      rw [Tree.listingEach, chosen_append, induction each.2, chosen_listing,
        deeper]
      by_cases assigns : child.kind = "assignment"
      · rw [if_pos ((isModuleBinding_grandchild _ parentKind).mpr assigns),
          List.filter_cons_of_pos (by simpa using assigns)]
        rfl
      · rw [if_neg (fun binds => assigns
            ((isModuleBinding_grandchild _ parentKind).mp binds)),
          List.filter_cons_of_neg (by simpa using assigns)]
        rfl

theorem chosen_statement {statement : Tree}
    (lacks : statement.Lacks [rootKind]) :
    chosen isModuleBinding (statement.listing [rootKind]) =
      bindingNodes statement := by
  have notModule := kind_ne_of_lacks lacks (.refl statement)
  have below := chosen_statement_children notModule
    fun child member => lacks_child lacks member
  rw [chosen_listing, below, bindingNodes, Tree.childrenOfKind]
  by_cases statementKind : statement.kind = "type_alias_statement"
  · rw [if_pos ((isModuleBinding_child _).mpr statementKind),
      if_pos statementKind]
    rfl
  · rw [if_neg (fun binds => statementKind
        ((isModuleBinding_child _).mp binds)), if_neg statementKind]
    rfl

/-- The nodes that bind names of the only module are its type statements and
the assignments in its statements. -/
theorem chosen_descendants {tree : Tree} (only : OnlyModule tree) :
    chosen bindsInModule
        ((Located.root tree).descendantsOfKind bindingKinds) =
      tree.children.flatMap bindingNodes := by
  have narrowed : chosen bindsInModule
        ((Located.root tree).descendantsOfKind bindingKinds) =
      chosen isModuleBinding (Tree.listingEach [rootKind] tree.children) := by
    rw [Located.descendantsOfKind_eq_filter, chosen, List.filter_filter, chosen,
      Located.root, only.root]
    congr 1
    funext node
    exact Bool.and_comm _ _
  rw [narrowed]
  have each := only.below
  generalize tree.children = statements at each
  induction statements with
  | nil => rfl
  | cons statement rest induction =>
      rw [List.forall_mem_cons] at each
      rw [Tree.listingEach, chosen_append, chosen_statement each.1,
        induction each.2, List.flatMap_cons]

end Positions

section Files

variable {source : ByteArray}

theorem collectBindings_append
    (first second : List (List TypeAlias × List Variable)) :
    collectBindings (first ++ second) =
      ((collectBindings first).1 ++ (collectBindings second).1,
        (collectBindings first).2 ++ (collectBindings second).2) := by
  simp [collectBindings]

theorem mapM_chainBindings {statement : Tree}
    {chains : List (List TypeAlias × List Variable)}
    (assigned : ((statement.childrenOfKind ["assignment"]).map
      fun assignment => ⟨assignment, [statement.kind, rootKind]⟩).mapM
        (extractBinding source) = .ok chains) :
    (statement.childrenOfKind ["assignment"]).mapM (chainBindings source) =
      .ok chains := by
  rw [List.mapM_map, mapM_eq_ok_iff] at assigned
  rw [mapM_eq_ok_iff]
  have kinds : ∀ assignment ∈ statement.childrenOfKind ["assignment"],
      assignment.kind = "assignment" := by
    intro assignment member
    exact List.mem_singleton.mp
      ((Tree.mem_childrenOfKind_iff _ _ _).mp member).2
  apply ((List.forall₂_and_left _ _).mpr ⟨kinds, assigned⟩).imp
  rintro assignment chain ⟨isAssignment, extracted⟩
  have other : Located.kind ⟨assignment, [statement.kind, rootKind]⟩ ≠
      "type_alias_statement" := by
    rw [Located.kind, isAssignment]
    decide
  rw [Function.comp_apply,
    extractBinding_of_assignment source other rfl] at extracted
  exact chainBindings_of_recordLinks extracted

theorem statementBindings_of_mapM {statement : Tree}
    {bound : List (List TypeAlias × List Variable)}
    (done : (bindingNodes statement).mapM (extractBinding source) = .ok bound) :
    statementBindings source statement = .ok (collectBindings bound) := by
  obtain ⟨front, chains, defined, assigned, rfl⟩ :=
    mapM_append_eq_ok_iff.mp done
  rw [statementBindings, mapM_chainBindings assigned, collectBindings_append]
  by_cases isStatement : statement.kind = "type_alias_statement"
  · have extracted : extractBinding source ⟨statement, [rootKind]⟩ = _ :=
      extractBinding_of_statement source isStatement rfl
    rw [if_pos isStatement, List.mapM_cons, List.mapM_nil,
      extracted] at defined
    rw [if_pos isStatement]
    cases found : extractAliasStatement source statement with
    | error fault =>
        rw [found] at defined
        cases defined
    | ok type =>
        rw [found] at defined
        cases defined
        rfl
  · rw [if_neg isStatement] at defined ⊢
    cases defined
    rfl

/-- Statement by statement, the same is collected. -/
theorem mapM_statementBindings {statements : List Tree}
    {bound : List (List TypeAlias × List Variable)}
    (done : (statements.flatMap bindingNodes).mapM (extractBinding source) =
      .ok bound) :
    (statements.mapM (statementBindings source)).map collectBindings =
      .ok (collectBindings bound) := by
  induction statements generalizing bound with
  | nil =>
      cases done
      rfl
  | cons statement rest induction =>
      rw [List.flatMap_cons] at done
      obtain ⟨front, back, first, others, rfl⟩ :=
        mapM_append_eq_ok_iff.mp done
      obtain ⟨following, recorded, same⟩ :=
        map_eq_ok_iff.mp (induction others)
      rw [List.mapM_cons, statementBindings_of_mapM first, recorded,
        collectBindings_append, ← same]
      rfl

/-- On a file that is the only module, the types and variables are what its
statements record. -/
theorem extractRoot_moduleBindings (source : ByteArray) (tree : Tree)
    (only : OnlyModule tree) {symbols : Source}
    (done : extractRoot source tree = .ok symbols) :
    moduleBindings source tree = .ok (symbols.types, symbols.bindings) := by
  rw [extractRoot_eq_filter, chosen_descendants only] at done
  obtain ⟨_, _, done⟩ := bind_eq_ok_iff.mp done
  obtain ⟨collected, extracted, done⟩ := bind_eq_ok_iff.mp done
  cases done
  obtain ⟨bound, walked, rfl⟩ := map_eq_ok_iff.mp extracted
  exact mapM_statementBindings walked

/-- Two names that share a value, the first of them with a type. -/
theorem extractRoot_moduleBindings_chain :
    let source := "x: int = y = 1".toUTF8
    let leaf (kind : String) (start stop : Nat) (role : String) : Tree :=
      .node { kind, start, stop, role := some role } []
    let inner : Tree :=
      .node { kind := "assignment", start := 9, stop := 14,
              role := some "right" }
        [leaf "identifier" 9 10 "left", leaf "integer" 13 14 "right"]
    let file : Tree :=
      .node { kind := "module" }
        [.node { kind := "expression_statement" }
          [.node { kind := "assignment", start := 0, stop := 14 }
            [leaf "identifier" 0 1 "left", leaf "type" 3 6 "type", inner]]]
    OnlyModule file ∧ ∃ symbols, extractRoot source file = .ok symbols ∧
      symbols.bindings =
        [{ name := "x", isExported := true, type := "int", value := some "1" },
         { name := "y", isExported := true, value := some "1" }] ∧
      moduleBindings source file = .ok (symbols.types, symbols.bindings) := by
  intro source leaf inner file
  have only : OnlyModule file := ⟨rfl, by decide⟩
  have done : extractRoot source file = .ok
      { bindings :=
          [{ name := "x", isExported := true, type := "int", value := some "1" },
           { name := "y", isExported := true, value := some "1" }] } := by
    decide +kernel
  exact ⟨only, _, done, rfl, extractRoot_moduleBindings source file only done⟩

end Files

end SymbolDiff.Extract.Python
