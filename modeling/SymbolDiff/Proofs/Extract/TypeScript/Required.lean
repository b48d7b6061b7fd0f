import SymbolDiff.Extract.TypeScript
import SymbolDiff.Proofs.Extract.Required

/-!
# What TypeScript extraction requires

A file is complete when each declaration in it has the children without which
there is nothing to extract: its name, the body, the parameters of its
methods.  On a file whose texts can all be had, extraction succeeds exactly
when the file is complete, and otherwise names a node and the role that is
missing there.
-/

namespace SymbolDiff.Extract.TypeScript

open Outcome

/-- A method has a name and parameters, and each parameter has a pattern. -/
structure CompleteMethod (tree : Tree) : Prop where
  name : tree.Has "name"
  parameters : ∃ list, tree.child? "parameters" = some list ∧
    ∀ parameter ∈ list.children, parameter.kind ∈ parameterKinds →
      parameter.Has "pattern"

/-- A class has a name, a body with complete methods and named fields, and
names its base class if it extends one. -/
structure CompleteClass (tree : Tree) : Prop where
  name : tree.Has "name"
  base : ∀ heritage, tree.firstOfKind? ["class_heritage"] = some heritage →
    ∀ clause, heritage.firstOfKind? ["extends_clause"] = some clause →
      clause.Has "value"
  body : ∃ body, tree.child? "body" = some body ∧
    ∀ member ∈ body.children,
      (member.kind ∈ methodKinds → CompleteMethod member) ∧
      (member.kind = "public_field_definition" → member.Has "name")

/-- An interface has a name and a body with complete methods and named
properties. -/
structure CompleteInterface (tree : Tree) : Prop where
  name : tree.Has "name"
  body : ∃ body, tree.child? "body" = some body ∧
    ∀ member ∈ body.children,
      (member.kind = "method_signature" → CompleteMethod member) ∧
      (member.kind = "property_signature" → member.Has "name")

/-- Whatever is extracted from a file has what it has to have. -/
structure Complete (tree : Tree) : Prop where
  classes : ∀ node : Located, node.Below (.root tree) →
    node.kind ∈ classKinds → CompleteClass node.tree
  interfaces : ∀ node : Located, node.Below (.root tree) →
    node.kind = "interface_declaration" → CompleteInterface node.tree
  types : ∀ node : Located, node.Below (.root tree) →
    node.kind = "type_alias_declaration" →
      node.tree.Has "name" ∧ node.tree.Has "value"
  bindings : ∀ node : Located, node.Below (.root tree) →
    node.kind = "variable_declarator" → isModuleVariable node = true →
      node.tree.Has "name"

section Members

variable {source : ByteArray} {file tree : Tree}
variable (legible : Legible source file) (inside : tree.Inside file)

include legible inside

theorem decided_extractParameter (ordinal : Nat) :
    Decided (tree.Has "pattern") (Lacking source file)
      (extractParameter source ordinal tree) := by
  have name := legible.textOfChild inside "pattern"
  have type := legible.annotationText (inside.child? "type")
  rw [extractParameter]
  refine (name.bind fun name _ => type.map _).congr ?_
  rw [and_true]

omit inside in
theorem decided_extractParameters {trees : List Tree}
    (inside : ∀ parameter ∈ trees, parameter.Inside file) (ordinal : Nat) :
    Decided (∀ parameter ∈ trees, parameter.Has "pattern")
      (Lacking source file) (extractParameters source ordinal trees) := by
  induction trees generalizing ordinal with
  | nil => simp [extractParameters, Decided]
  | cons first rest induction =>
      have parameter := decided_extractParameter legible
        (inside first List.mem_cons_self) ordinal
      have following := induction
        (fun other member => inside other (List.mem_cons_of_mem first member))
        (ordinal + 1)
      rw [extractParameters, List.forall_mem_cons]
      exact parameter.bind fun parameter _ => following.map (parameter :: ·)

theorem decided_extractMethod :
    Decided (CompleteMethod tree) (Lacking source file)
      (extractMethod source tree) := by
  have name := legible.textOfChild inside "name"
  have returnType := legible.annotationText (inside.child? "return_type")
  refine Decided.congr (requireChild_bind source inside "parameters"
    fun list within => name.bind fun name _ => returnType.bind
      fun returnType _ => (decided_extractParameters legible
        (within.childrenOfKind parameterKinds) 0).map _) ?_
  simp only [Tree.forall_mem_childrenOfKind_iff, true_and]
  constructor
  · rintro ⟨list, found, named, patterns⟩
    exact ⟨named, list, found, patterns⟩
  · rintro ⟨named, list, found, patterns⟩
    exact ⟨list, found, named, patterns⟩

/-- The visibility of a field can always be told. -/
theorem decided_fieldVisibility (name : Tree) :
    Decided True (Lacking source file) (fieldVisibility source tree name) := by
  rw [fieldVisibility]
  split
  · trivial
  · cases found : tree.firstOfKind? ["accessibility_modifier"] with
    | none => trivial
    | some modifier =>
        have here := inside.firstOfKind? _ modifier found
        refine (legible.textOf here).andThen fun word _ => ?_
        split
        · trivial
        · split
          · trivial
          · trivial

theorem decided_extractFieldNamed (role : String) :
    Decided (tree.Has role) (Lacking source file)
      (extractFieldNamed source role tree) := by
  have type := legible.annotationText (inside.child? "type")
  have value := legible.textOf? (inside.child? "value")
  refine Decided.congr (requireChild_bind source inside role
    fun name within => (legible.textOf within).andThen fun _ _ =>
      type.andThen fun _ _ => value.andThen fun _ _ =>
        (decided_fieldVisibility legible inside name).map _) ?_
  simp only [and_true, Tree.Has]

/-- A complete method also declares its fields.  The constructor is read a
second time here, and nothing is asked that was not asked before. -/
theorem decided_constructorFields (complete : CompleteMethod tree) :
    Decided True (Lacking source file) (constructorFields source tree) := by
  obtain ⟨named, list, found, patterns⟩ := complete
  have name := legible.textOfChild inside "name"
  rw [constructorFields]
  refine (name.congr (iff_true_intro named)).andThen fun word _ => ?_
  split
  · trivial
  · refine Decided.congr (requireChild_bind source inside "parameters"
      fun list within => Decided.mapM fun parameter member =>
        decided_extractFieldNamed legible
          (within.childrenOfKind parameterKinds parameter
            (List.mem_of_mem_filter member)) "pattern") ?_
    refine iff_true_intro ⟨list, found, ?_⟩
    intro parameter member
    obtain ⟨child, isParameter⟩ := (Tree.mem_childrenOfKind_iff _ _ _).mp
      (List.mem_of_mem_filter member)
    exact patterns parameter child isParameter

theorem decided_extractParameterProperties
    (complete : ∀ member ∈ tree.childrenOfKind methodKinds,
      CompleteMethod member) :
    Decided True (Lacking source file)
      (extractParameterProperties source tree) := by
  have each : Decided (∀ method ∈ tree.childrenOfKind ["method_definition"], True)
      (Lacking source file)
      ((tree.childrenOfKind ["method_definition"]).mapM
        (constructorFields source)) := by
    apply Decided.mapM
    intro method member
    obtain ⟨child, kind⟩ := (Tree.mem_childrenOfKind_iff _ _ _).mp member
    have isMethod : method.kind ∈ methodKinds := by
      rw [List.mem_singleton.mp kind]
      decide
    exact decided_constructorFields legible (inside.child child)
      (complete method ((Tree.mem_childrenOfKind_iff _ _ _).mpr
        ⟨child, isMethod⟩))
  exact (each.map List.flatten).congr (by simp)

theorem decided_extractProperty :
    Decided (tree.Has "name") (Lacking source file)
      (extractProperty source tree) := by
  have name := legible.textOfChild inside "name"
  have type := legible.annotationText (inside.child? "type")
  refine Decided.congr (name.bind fun name _ => type.map _) ?_
  rw [and_true]

omit inside in
theorem decided_extractNames {found : Option Tree}
    (inside : ∀ clause ∈ found, clause.Inside file) :
    Decided True (Lacking source file) (extractNames source found) := by
  cases found with
  | none => trivial
  | some clause =>
      have here := inside clause rfl
      exact (legible.texts here.significantChildren).map some

theorem decided_extractBaseClass :
    Decided
      (∀ clause, tree.firstOfKind? ["extends_clause"] = some clause →
        clause.Has "value")
      (Lacking source file) (extractBaseClass source tree) := by
  rw [extractBaseClass]
  cases found : tree.firstOfKind? ["extends_clause"] with
  | none => simp [Decided]
  | some clause =>
      have here := inside.firstOfKind? _ clause found
      refine ((legible.textOfChild here "value").map some).congr ?_
      simp

theorem decided_extractHeritage :
    Decided
      (∀ heritage, tree.firstOfKind? ["class_heritage"] = some heritage →
        ∀ clause, heritage.firstOfKind? ["extends_clause"] = some clause →
          clause.Has "value")
      (Lacking source file) (extractHeritage source tree) := by
  rw [extractHeritage]
  cases found : tree.firstOfKind? ["class_heritage"] with
  | none => simp [Decided]
  | some heritage =>
      have here := inside.firstOfKind? _ heritage found
      have base := decided_extractBaseClass legible here
      have names := decided_extractNames legible
        (here.firstOfKind? ["implements_clause"])
      refine Decided.congr (base.bind fun _ _ => names.map _) ?_
      simp

end Members

section Declarations

variable {source : ByteArray} {file : Tree} {node : Located}
variable (legible : Legible source file) (inside : node.tree.Inside file)

include legible inside

theorem decided_extractClass :
    Decided (CompleteClass node.tree) (Lacking source file)
      (extractClass source node) := by
  have heritage := decided_extractHeritage legible inside
  have name := legible.textOfChild inside "name"
  have members (body : Tree) (within : body.Inside file) :
      Decided
        (∀ member ∈ body.childrenOfKind methodKinds, CompleteMethod member)
        (Lacking source file)
        ((body.childrenOfKind methodKinds).mapM (extractMethod source)) :=
    Decided.mapM fun method member =>
      decided_extractMethod legible (within.childrenOfKind _ method member)
  have fields (body : Tree) (within : body.Inside file) :
      Decided
        (∀ member ∈ body.childrenOfKind ["public_field_definition"],
          member.Has "name")
        (Lacking source file)
        ((body.childrenOfKind ["public_field_definition"]).mapM
          (extractField source)) :=
    Decided.mapM fun field member =>
      decided_extractFieldNamed legible
        (within.childrenOfKind _ field member) "name"
  refine Decided.congr (requireChild_bind source inside "body"
    fun body within => heritage.bind fun _ _ => name.bind fun _ _ =>
      (members body within).bind fun _ done => (fields body within).bind
        fun _ _ => (decided_extractParameterProperties legible within
          ((members body within).exists_ok_iff.mp ⟨_, done⟩)).map _) ?_
  simp only [Tree.forall_mem_childrenOfKind_iff, List.mem_singleton, and_true]
  constructor
  · rintro ⟨body, found, base, named, methods, fields⟩
    exact ⟨named, base, body, found, fun member child =>
      ⟨methods member child, fields member child⟩⟩
  · rintro ⟨named, base, body, found, members⟩
    exact ⟨body, found, base, named, fun member child =>
      (members member child).1, fun member child => (members member child).2⟩

theorem decided_extractInterface :
    Decided (CompleteInterface node.tree) (Lacking source file)
      (extractInterface source node) := by
  have extended := decided_extractNames legible
    (inside.firstOfKind? ["extends_type_clause"])
  have name := legible.textOfChild inside "name"
  refine Decided.congr (requireChild_bind source inside "body"
    fun body within => extended.andThen fun _ _ => name.bind fun _ _ =>
      Decided.bind (Decided.mapM fun method member =>
          decided_extractMethod legible
            (within.childrenOfKind _ method member)) fun _ _ =>
        (Decided.mapM fun property member =>
          decided_extractProperty legible
            (within.childrenOfKind _ property member)).map _) ?_
  simp only [Tree.forall_mem_childrenOfKind_iff, List.mem_singleton]
  constructor
  · rintro ⟨body, found, named, methods, properties⟩
    exact ⟨named, body, found, fun member child =>
      ⟨methods member child, properties member child⟩⟩
  · rintro ⟨named, body, found, members⟩
    exact ⟨body, found, named, fun member child =>
      (members member child).1, fun member child => (members member child).2⟩

theorem decided_extractTypeAlias :
    Decided (node.tree.Has "name" ∧ node.tree.Has "value")
      (Lacking source file) (extractTypeAlias source node) := by
  have name := legible.textOfChild inside "name"
  have value := legible.textOfChild inside "value"
  exact name.bind fun _ _ => value.map _

theorem decided_extractVariable :
    Decided (node.tree.Has "name") (Lacking source file)
      (extractVariable source node) := by
  have name := legible.textOfChild inside "name"
  have type := legible.annotationText (inside.child? "type")
  have value := legible.textOf? (inside.child? "value")
  refine Decided.congr
    (name.bind fun _ _ => type.andThen fun _ _ => value.map _) ?_
  rw [and_true]

end Declarations

theorem decided_extractRoot {source : ByteArray} {tree : Tree}
    (legible : Legible source tree) :
    Decided (Complete tree) (Lacking source tree) (extractRoot source tree) := by
  have classes := decided_mapM_descendants classKinds
    fun node inside => decided_extractClass legible inside
  have interfaces := decided_mapM_descendants ["interface_declaration"]
    fun node inside => decided_extractInterface legible inside
  have types := decided_mapM_descendants ["type_alias_declaration"]
    fun node inside => decided_extractTypeAlias legible inside
  have bindings := Decided.mapM
    fun node (found : node ∈ ((Located.root tree).descendantsOfKind
        ["variable_declarator"]).filter isModuleVariable) =>
      decided_extractVariable legible (.of_below
        ((Located.mem_descendantsOfKind_iff _ _ _).mp
          (List.mem_of_mem_filter found)).1)
  refine Decided.congr (classes.bind fun _ _ => interfaces.bind fun _ _ =>
    types.bind fun _ _ => bindings.map _) ?_
  simp only [List.mem_filter, Located.mem_descendantsOfKind_iff,
    List.mem_singleton, and_imp]
  constructor
  · rintro ⟨classes, interfaces, types, bindings⟩
    exact ⟨classes, interfaces, types, bindings⟩
  · rintro ⟨classes, interfaces, types, bindings⟩
    exact ⟨classes, interfaces, types, bindings⟩

/-- Extraction succeeds exactly on complete files, and names a missing child
otherwise. -/
theorem extractRoot_succeeds_iff_complete
    (source : ByteArray) (tree : Tree) (legible : Legible source tree) :
    ((∃ symbols, extractRoot source tree = .ok symbols) ↔ Complete tree) ∧
      (¬Complete tree →
        ∃ fault, extractRoot source tree = .error fault ∧
          Lacking source tree fault) := by
  have decided := decided_extractRoot legible
  exact ⟨decided.exists_ok_iff, decided.exists_error⟩

/-- A constructor whose parameter declares a field, with and without the
pattern that both the parameter and the field are named by. -/
theorem extractRoot_succeeds_iff_complete_constructor :
    let source := "class A{constructor(private p){}}".toUTF8
    let leaf (kind : String) (start stop : Nat) (role : Option String) : Tree :=
      .node { kind, start, stop, role } []
    let parameter (pattern : List Tree) : Tree :=
      .node { kind := "required_parameter", start := 20, stop := 29 }
        (leaf "accessibility_modifier" 20 27 none :: pattern)
    let file (pattern : List Tree) : Tree :=
      .node { kind := "program" }
        [.node { kind := "class_declaration" }
          [leaf "type_identifier" 6 7 (some "name"),
            .node { kind := "class_body", role := some "body" }
              [.node { kind := "method_definition" }
                [leaf "property_identifier" 8 19 (some "name"),
                  .node { kind := "formal_parameters", role := some "parameters" }
                    [parameter pattern]]]]]
    let named := file [leaf "identifier" 28 29 (some "pattern")]
    let nameless := file []
    Legible source named ∧ Complete named ∧
      Legible source nameless ∧ ¬Complete nameless ∧
      ∃ fault, extractRoot source nameless = .error fault ∧
        Lacking source nameless fault := by
  intro source leaf parameter file named nameless
  have readNamed : Legible source named := by decide +kernel
  have readNameless : Legible source nameless := by decide +kernel
  have extracted : (extractRoot source named).isOk = true := by decide +kernel
  have refused : (extractRoot source nameless).isOk = false := by
    decide +kernel
  obtain ⟨succeeds, -⟩ :=
    extractRoot_succeeds_iff_complete source named readNamed
  obtain ⟨fails, fault⟩ :=
    extractRoot_succeeds_iff_complete source nameless readNameless
  have complete : Complete named := by
    apply succeeds.mp
    cases outcome : extractRoot source named with
    | ok symbols => exact ⟨symbols, rfl⟩
    | error fault => simp [outcome, Except.isOk, Except.toBool] at extracted
  have incomplete : ¬Complete nameless := by
    rw [← fails]
    rintro ⟨symbols, outcome⟩
    simp [outcome, Except.isOk, Except.toBool] at refused
  exact ⟨readNamed, complete, readNameless, incomplete, fault incomplete⟩

end SymbolDiff.Extract.TypeScript
