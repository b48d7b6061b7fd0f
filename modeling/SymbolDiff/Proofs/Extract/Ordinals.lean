import SymbolDiff.Extract.Source
import SymbolDiff.Proofs.Extract.Python.Classes
import SymbolDiff.Proofs.Symbol.ParameterOrder

/-!
# Ordinals

Extraction passes over what stands between the parameters of a method before
it numbers them, so that ordinals are positions.  A comparison of methods
never looks at ordinals but counts positions for itself.  The two agree: an
order is marked as changed exactly when ordinals differ.
-/

namespace SymbolDiff

/-- The methods of each class and of each interface. -/
def Source.methodLists (symbols : Source) : List (List Method) :=
  symbols.classes.map ClassSymbol.methods ++
    symbols.interfaces.map InterfaceSymbol.methods

namespace Extract

open Outcome

/-- Where the trees of a language hold the signatures of methods: the kinds of
declarations that have any, the definitions in the body of a declaration, the
parameters of a list without what separates them, and the node that names a
parameter. -/
structure Signatures where
  declarations : List String
  methods (declaration body : Tree) : List Tree
  parameters (list : Tree) : List Tree
  name? (parameter : Tree) : Option Tree

def Python.signatures : Signatures where
  declarations := ["class_definition"]
  methods _ body := methodNodes body
  parameters list :=
    list.namedChildren.filter fun node => node.kind ∈ parameterKinds
  name? parameter :=
    if parameter.kind ∈ bareParameterKinds then some parameter
    else if parameter.kind = "typed_parameter" then
      parameter.firstOfKind? splatNameKinds
    else parameter.child? "name"

def TypeScript.signatures : Signatures where
  declarations := classKinds ++ ["interface_declaration"]
  methods declaration body :=
    if declaration.kind = "interface_declaration" then
      body.childrenOfKind ["method_signature"]
    else body.childrenOfKind methodKinds
  parameters list := list.childrenOfKind parameterKinds
  name? parameter := parameter.child? "pattern"

def signaturesOf : Dialect → Signatures
  | .python => Python.signatures
  | .typescript | .tsx => TypeScript.signatures

section Signatures

variable (signatures : Signatures) (source : ByteArray)

/-- A parameter has the name that its node gives it, and its place among the
parameters as ordinal. -/
structure ParameterOf (placed : Tree × Nat) (parameter : Parameter) : Prop where
  named : ∃ name, signatures.name? placed.1 = some name ∧
    textOf source name = .ok parameter.name
  ordinal : parameter.ordinal = placed.2

/-- A method has one parameter for each parameter of its definition. -/
structure MethodOf (definition : Tree) (method : Method) : Prop where
  named : ∃ name, definition.child? "name" = some name ∧
    textOf source name = .ok method.name
  parameters : ∃ list, definition.child? "parameters" = some list ∧
    List.Forall₂ (ParameterOf signatures source)
      (signatures.parameters list).zipIdx method.parameters

/-- Methods are those of a declaration, one for each definition in it. -/
def DeclaredIn (tree : Tree) (methods : List Method) : Prop :=
  ∃ declaration : Located, declaration.Below (.root tree) ∧
    declaration.kind ∈ signatures.declarations ∧
    ∃ body, declaration.tree.child? "body" = some body ∧
      List.Forall₂ (MethodOf signatures source)
        (signatures.methods declaration.tree body) methods

end Signatures

/-- A method that some file has. -/
def Extracted (method : Method) : Prop :=
  ∃ dialect source tree symbols, ofRoot dialect source tree = .ok symbols ∧
    ∃ methods ∈ symbols.methodLists, method ∈ methods

section Methods

variable {signatures : Signatures} {source : ByteArray}

theorem numbered_of_forall₂ {nodes : List Tree} {parameters : List Parameter}
    (each : List.Forall₂ (ParameterOf signatures source) nodes.zipIdx
      parameters) : Numbered parameters := by
  have ordinals : nodes.zipIdx.map Prod.snd =
      parameters.map Parameter.ordinal := by
    apply map_eq_map_iff_forall₂.mpr
    apply each.imp
    intro placed parameter ofNode
    exact ofNode.ordinal.symm
  rw [Numbered, ← ordinals, List.zipIdx_map_snd, ← each.length_eq,
    List.length_zipIdx, List.range_eq_range']

theorem DeclaredIn.numbered {tree : Tree} {methods : List Method}
    (declared : DeclaredIn signatures source tree methods) {method : Method}
    (member : method ∈ methods) : Numbered method.parameters := by
  obtain ⟨declaration, _, _, body, _, each⟩ := declared
  obtain ⟨definition, _, ofDefinition⟩ := exists_of_mem_of_forall₂ each member
  obtain ⟨list, _, parameters⟩ := ofDefinition.parameters
  exact numbered_of_forall₂ parameters

/-- Reading a signature makes a method of it, if reading a node makes a
parameter. -/
theorem methodOf_of_read {read : Nat → Tree → Except Fault Parameter}
    (each : ∀ {ordinal node parameter}, read ordinal node = .ok parameter →
      ParameterOf signatures source (node, ordinal) parameter)
    {definition : Tree} {method : Method}
    (done : (do
      let list ← requireChild source definition "parameters"
      let name ← textOfChild source definition "name"
      let returnType ← annotationText source (definition.child? "return_type")
      let parameters ← (signatures.parameters list).zipIdx.mapM fun placed =>
        read placed.2 placed.1
      return { name, returnType, parameters } : Except Fault Method) =
        .ok method) :
    MethodOf signatures source definition method := by
  obtain ⟨list, found, done⟩ := requireChild_bind_eq_ok_iff.mp done
  obtain ⟨name, named, done⟩ := bind_eq_ok_iff.mp done
  obtain ⟨returnType, _, done⟩ := bind_eq_ok_iff.mp done
  obtain ⟨parameters, made, done⟩ := bind_eq_ok_iff.mp done
  cases done
  refine ⟨requireChild_bind_eq_ok_iff.mp named, list, found, ?_⟩
  apply (mapM_eq_ok_iff.mp made).imp
  intro placed parameter
  exact each

end Methods

namespace Python

variable {source : ByteArray}

theorem extractParameters_eq_mapM (ordinal : Nat) (nodes : List Tree) :
    extractParameters source ordinal nodes =
      (nodes.zipIdx ordinal).mapM fun placed =>
        extractParameter source placed.2 placed.1 := by
  induction nodes generalizing ordinal with
  | nil => rfl
  | cons node rest induction =>
      rw [extractParameters, List.zipIdx_cons, List.mapM_cons, induction]

theorem parameterOf_extractParameter {node : Tree} {ordinal : Nat}
    {parameter : Parameter}
    (done : extractParameter source ordinal node = .ok parameter) :
    ParameterOf signatures source (node, ordinal) parameter := by
  rw [extractParameter] at done
  by_cases bare : node.kind ∈ bareParameterKinds
  · rw [if_pos (List.contains_iff_mem.mpr bare)] at done
    obtain ⟨name, read, done⟩ := bind_eq_ok_iff.mp done
    cases done
    exact ⟨⟨node, if_pos bare, read⟩, rfl⟩
  · rw [if_neg (by simpa using bare)] at done
    by_cases typed : node.kind = "typed_parameter"
    · rw [if_pos typed] at done
      cases found : node.firstOfKind? splatNameKinds with
      | none =>
          rw [found] at done
          cases done
      | some nameNode =>
          rw [found] at done
          obtain ⟨name, read, done⟩ := bind_eq_ok_iff.mp done
          obtain ⟨type, _, done⟩ := bind_eq_ok_iff.mp done
          cases done
          refine ⟨⟨nameNode, ?_, read⟩, rfl⟩
          exact (if_neg bare).trans ((if_pos typed).trans found)
    · rw [if_neg typed] at done
      obtain ⟨name, read, done⟩ := bind_eq_ok_iff.mp done
      obtain ⟨type, _, done⟩ := bind_eq_ok_iff.mp done
      cases done
      obtain ⟨nameNode, found, read⟩ := requireChild_bind_eq_ok_iff.mp read
      refine ⟨⟨nameNode, ?_, read⟩, rfl⟩
      exact (if_neg bare).trans ((if_neg typed).trans found)

theorem methodOf_extractMethod {definition : Tree} {method : Method}
    (done : extractMethod source definition = .ok method) :
    MethodOf signatures source definition method := by
  apply methodOf_of_read parameterOf_extractParameter
  simpa only [extractMethod, extractParameters_eq_mapM, signatures,
    List.contains_eq_mem] using done

theorem declaredIn_of_declares {tree : Tree} {node : Located}
    (found : node ∈ (Located.root tree).descendantsOfKind ["class_definition"])
    {name : String} {isExported : Bool} {methods : List Method}
    (declares : Declares source node.tree name isExported methods) :
    DeclaredIn signatures source tree methods := by
  obtain ⟨below, kind⟩ := (Located.mem_descendantsOfKind_iff _ _ _).mp found
  obtain ⟨body, inBody, each⟩ := declares.members
  refine ⟨node, below, kind, body, inBody, each.imp ?_⟩
  intro definition method made
  exact methodOf_extractMethod made

theorem declaredIn_of_extractRoot {tree : Tree} {symbols : Source}
    (done : extractRoot source tree = .ok symbols) {methods : List Method}
    (member : methods ∈ symbols.methodLists) :
    DeclaredIn signatures source tree methods := by
  obtain ⟨records, extracted, done⟩ := bind_eq_ok_iff.mp done
  obtain ⟨_, _, done⟩ := bind_eq_ok_iff.mp done
  cases done
  rcases List.mem_append.mp member with inClass | inInterface
  · obtain ⟨symbol, listed, rfl⟩ := List.mem_map.mp inClass
    obtain ⟨record, recorded, left⟩ := List.mem_filterMap.mp listed
    obtain ⟨node, found, made⟩ := exists_item_of_mem extracted recorded
    rw [Sum.getLeft?_eq_some_iff.mp left] at made
    exact declaredIn_of_declares found (describes_of_extractClass made).declares
  · obtain ⟨symbol, listed, rfl⟩ := List.mem_map.mp inInterface
    obtain ⟨record, recorded, right⟩ := List.mem_filterMap.mp listed
    obtain ⟨node, found, made⟩ := exists_item_of_mem extracted recorded
    rw [Sum.getRight?_eq_some_iff.mp right] at made
    exact declaredIn_of_declares found (describes_of_extractClass made).declares

end Python

namespace TypeScript

variable {source : ByteArray}

theorem extractParameters_eq_mapM (ordinal : Nat) (nodes : List Tree) :
    extractParameters source ordinal nodes =
      (nodes.zipIdx ordinal).mapM fun placed =>
        extractParameter source placed.2 placed.1 := by
  induction nodes generalizing ordinal with
  | nil => rfl
  | cons node rest induction =>
      rw [extractParameters, List.zipIdx_cons, List.mapM_cons, induction]

theorem parameterOf_extractParameter {node : Tree} {ordinal : Nat}
    {parameter : Parameter}
    (done : extractParameter source ordinal node = .ok parameter) :
    ParameterOf signatures source (node, ordinal) parameter := by
  obtain ⟨name, read, done⟩ := bind_eq_ok_iff.mp done
  obtain ⟨type, _, done⟩ := bind_eq_ok_iff.mp done
  cases done
  exact ⟨requireChild_bind_eq_ok_iff.mp read, rfl⟩

theorem methodOf_extractMethod {definition : Tree} {method : Method}
    (done : extractMethod source definition = .ok method) :
    MethodOf signatures source definition method := by
  apply methodOf_of_read parameterOf_extractParameter
  simpa only [extractMethod, extractParameters_eq_mapM, signatures] using done

theorem declaredIn_of_mapM {tree : Tree} {node : Located}
    (below : node.Below (.root tree))
    (kind : node.kind ∈ signatures.declarations)
    {body : Tree} (inBody : node.tree.child? "body" = some body)
    {methods : List Method}
    (made : (signatures.methods node.tree body).mapM (extractMethod source) =
      .ok methods) :
    DeclaredIn signatures source tree methods := by
  refine ⟨node, below, kind, body, inBody, ?_⟩
  apply (mapM_eq_ok_iff.mp made).imp
  intro definition method
  exact methodOf_extractMethod

theorem declaredIn_of_extractClass {tree : Tree} {node : Located}
    (found : node ∈ (Located.root tree).descendantsOfKind classKinds)
    {symbol : ClassSymbol} (done : extractClass source node = .ok symbol) :
    DeclaredIn signatures source tree symbol.methods := by
  obtain ⟨below, kind⟩ := (Located.mem_descendantsOfKind_iff _ _ _).mp found
  obtain ⟨body, inBody, done⟩ := requireChild_bind_eq_ok_iff.mp done
  obtain ⟨_, _, done⟩ := bind_eq_ok_iff.mp done
  obtain ⟨_, _, done⟩ := bind_eq_ok_iff.mp done
  obtain ⟨methods, made, done⟩ := bind_eq_ok_iff.mp done
  obtain ⟨_, _, done⟩ := bind_eq_ok_iff.mp done
  obtain ⟨_, _, done⟩ := bind_eq_ok_iff.mp done
  cases done
  apply declaredIn_of_mapM below (List.mem_append_left _ kind) inBody
  -- interfaces have signatures only, so the kind of a class has to be another
  have other : node.tree.kind ≠ "interface_declaration" := by
    intro isInterface
    rw [Located.kind, isInterface] at kind
    revert kind
    decide
  have chosen : signatures.methods node.tree body =
      body.childrenOfKind methodKinds := if_neg other
  rw [chosen]
  exact made

theorem declaredIn_of_extractInterface {tree : Tree} {node : Located}
    (found : node ∈
      (Located.root tree).descendantsOfKind ["interface_declaration"])
    {symbol : InterfaceSymbol}
    (done : extractInterface source node = .ok symbol) :
    DeclaredIn signatures source tree symbol.methods := by
  obtain ⟨below, kind⟩ := (Located.mem_descendantsOfKind_iff _ _ _).mp found
  obtain ⟨body, inBody, done⟩ := requireChild_bind_eq_ok_iff.mp done
  obtain ⟨_, _, done⟩ := bind_eq_ok_iff.mp done
  obtain ⟨_, _, done⟩ := bind_eq_ok_iff.mp done
  obtain ⟨methods, made, done⟩ := bind_eq_ok_iff.mp done
  obtain ⟨_, _, done⟩ := bind_eq_ok_iff.mp done
  cases done
  apply declaredIn_of_mapM below (List.mem_append_right _ kind) inBody
  have chosen : signatures.methods node.tree body =
      body.childrenOfKind ["method_signature"] :=
    if_pos (List.mem_singleton.mp kind)
  rw [chosen]
  exact made

theorem declaredIn_of_extractRoot {tree : Tree} {symbols : Source}
    (done : extractRoot source tree = .ok symbols) {methods : List Method}
    (member : methods ∈ symbols.methodLists) :
    DeclaredIn signatures source tree methods := by
  obtain ⟨classes, ofClasses, done⟩ := bind_eq_ok_iff.mp done
  obtain ⟨interfaces, ofInterfaces, done⟩ := bind_eq_ok_iff.mp done
  obtain ⟨_, _, done⟩ := bind_eq_ok_iff.mp done
  obtain ⟨_, _, done⟩ := bind_eq_ok_iff.mp done
  cases done
  rcases List.mem_append.mp member with inClass | inInterface
  · obtain ⟨symbol, listed, rfl⟩ := List.mem_map.mp inClass
    obtain ⟨node, found, made⟩ := exists_item_of_mem ofClasses listed
    exact declaredIn_of_extractClass found made
  · obtain ⟨symbol, listed, rfl⟩ := List.mem_map.mp inInterface
    obtain ⟨node, found, made⟩ := exists_item_of_mem ofInterfaces listed
    exact declaredIn_of_extractInterface found made

end TypeScript

theorem declaredIn_of_ofRoot {dialect : Dialect} {source : ByteArray}
    {tree : Tree}
    {symbols : Source} (done : ofRoot dialect source tree = .ok symbols)
    {methods : List Method} (member : methods ∈ symbols.methodLists) :
    DeclaredIn (signaturesOf dialect) source tree methods := by
  cases dialect with
  | typescript => exact TypeScript.declaredIn_of_extractRoot done member
  | tsx => exact TypeScript.declaredIn_of_extractRoot done member
  | python => exact Python.declaredIn_of_extractRoot done member

theorem Extracted.numbered {method : Method} (extracted : Extracted method) :
    Numbered method.parameters := by
  obtain ⟨_, _, _, _, done, _, listed, member⟩ := extracted
  exact (declaredIn_of_ofRoot done listed).numbered member

/-- The methods of a file have their parameters numbered from zero, one for
each parameter node in order.  Of any two methods a comparison marks the order
of parameters as changed exactly when two parameters of one name and
occurrence have different ordinals. -/
theorem ordinals_tell_order (dialect : Dialect) (source : ByteArray) (tree : Tree)
    {symbols : Source} (done : ofRoot dialect source tree = .ok symbols) :
    ∀ methods ∈ symbols.methodLists,
      DeclaredIn (signaturesOf dialect) source tree methods ∧
        ∀ old ∈ methods, Numbered old.parameters ∧
          ∀ new, Extracted new →
            (MarksOrder old.parameters new.parameters
                (compareMethod old new).value ↔
              OrdinalsDiffer old.parameters new.parameters) := by
  intro methods listed
  refine ⟨declaredIn_of_ofRoot done listed, ?_⟩
  intro old member
  have extracted : Extracted old := ⟨_, _, _, _, done, methods, listed, member⟩
  refine ⟨extracted.numbered, ?_⟩
  intro new other
  rw [marksOrder_compareMethod_iff]
  exact moved_iff_ordinalsDiffer extracted.numbered other.numbered

/-- A parameter between two of one name moves the second of them; neither a
separator nor a comment counts. -/
theorem ordinals_tell_order_repeated :
    let source := "C f a b a".toUTF8
    let leaf (kind : String) (start : Nat) (role : Option String) : Tree :=
      .node { kind, start, stop := start + 1, role } []
    let file (parameters : List Tree) : Tree :=
      .node { kind := "module" }
        [.node { kind := "class_definition" }
          [leaf "identifier" 0 (some "name"),
            .node { kind := "block", role := some "body" }
              [.node { kind := "function_definition" }
                [leaf "identifier" 2 (some "name"),
                  .node { kind := "parameters", role := some "parameters" }
                    parameters]]]]
    let before := file
      [leaf "identifier" 4 none, leaf "keyword_separator" 5 none,
        leaf "identifier" 8 none]
    let after := file
      [leaf "identifier" 4 none, leaf "comment" 5 none, leaf "identifier" 6 none,
        leaf "identifier" 8 none]
    let old : Method := { name := "f", parameters :=
      [{ name := "a", ordinal := 0 }, { name := "a", ordinal := 1 }] }
    let new : Method := { name := "f", parameters :=
      [{ name := "a", ordinal := 0 }, { name := "b", ordinal := 1 },
        { name := "a", ordinal := 2 }] }
    ofRoot .python source before =
        .ok { classes :=
          [{ name := "C", isExported := true, methods := [old] }] } ∧
      ofRoot .python source after =
        .ok { classes :=
          [{ name := "C", isExported := true, methods := [new] }] } ∧
      DeclaredIn Python.signatures source before [old] ∧
      MarksOrder old.parameters new.parameters (compareMethod old new).value := by
  intro source leaf file before after old new
  have first : ofRoot .python source before =
      .ok { classes :=
        [{ name := "C", isExported := true, methods := [old] }] } := by
    decide +kernel
  have second : ofRoot .python source after =
      .ok { classes :=
        [{ name := "C", isExported := true, methods := [new] }] } := by
    decide +kernel
  have extracted : Extracted new :=
    ⟨.python, source, after, _, second, [new], List.mem_singleton_self _,
      List.mem_singleton_self _⟩
  have differ : OrdinalsDiffer old.parameters new.parameters :=
    ⟨{ name := "a", ordinal := 1 }, { name := "a", ordinal := 2 }, 1,
      ⟨[{ name := "a", ordinal := 0 }], [], rfl, rfl⟩,
      ⟨[{ name := "a", ordinal := 0 }, { name := "b", ordinal := 1 }], [], rfl,
        rfl⟩,
      rfl, by decide⟩
  obtain ⟨declared, each⟩ := ordinals_tell_order .python source before first [old]
    (List.mem_singleton_self _)
  have marks := (each old (List.mem_singleton_self _)).2 new extracted
  exact ⟨first, second, declared, marks.mpr differ⟩

end Extract

end SymbolDiff
