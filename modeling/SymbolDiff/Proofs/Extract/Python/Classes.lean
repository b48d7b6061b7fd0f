import SymbolDiff.Extract.Python
import SymbolDiff.Proofs.Extract.Required

/-!
# Classes and protocols

Every class definition below the root of a file becomes a class or an
interface, and which of the two its bases decide.  `Divided` says so for a
list of definitions at once: each of them gives the next class or the next
interface, so that nothing is lost, doubled or put out of order.
-/

namespace SymbolDiff.Extract.Python

open Outcome

/-- An argument of a class that is a base and neither a keyword argument nor a
splat. -/
def IsBase (argument : Tree) : Prop :=
  argument.head.isNamed = true ∧
    argument.kind ∉ ["comment", "keyword_argument", "list_splat",
      "dictionary_splat"]

instance (argument : Tree) : Decidable (IsBase argument) :=
  inferInstanceAs (Decidable (_ ∧ _))

/-- The bases of a class, as nodes. -/
def baseNodes (tree : Tree) : List Tree :=
  match tree.child? "superclasses" with
  | none => []
  | some list => list.children.filter fun argument => IsBase argument

/-- The name of a base; of a subscript it is the name that is subscripted. -/
def BaseName (source : ByteArray) (base : Tree) (name : String) : Prop :=
  if base.kind = "subscript" then
    ∃ value, base.child? "value" = some value ∧ textOf source value = .ok name
  else textOf source base = .ok name

/-- The names of all bases of a class, in order. -/
def Bases (source : ByteArray) (tree : Tree) (names : List String) : Prop :=
  List.Forall₂ (BaseName source) (baseNodes tree) names

/-- Some base of a class is a protocol. -/
def IsProtocol (source : ByteArray) (tree : Tree) : Prop :=
  ∃ names, Bases source tree names ∧ ∃ name ∈ names, name ∈ protocolBases

/-- The function that a member of a class body is, or the one that its
decorators stand before. -/
def methodNode? (member : Tree) : Option Tree :=
  if member.kind = "function_definition" then some member
  else if member.kind = "decorated_definition" then
    (member.child? "definition").filter (·.kind = "function_definition")
  else none

/-- The functions that a class body defines, as nodes. -/
def methodNodes (body : Tree) : List Tree :=
  body.namedChildren.filterMap methodNode?

/-- What a class and an interface have in common: the name of the definition,
and a method for each function in its body. -/
structure Declares (source : ByteArray) (tree : Tree) (name : String)
    (isExported : Bool) (methods : List Method) : Prop where
  named : ∃ child, tree.child? "name" = some child ∧
    textOf source child = .ok name
  exported : isExported = true ↔ name.toList.head? ≠ some '_'
  members : ∃ body, tree.child? "body" = some body ∧
    List.Forall₂ (fun node method => extractMethod source node = .ok method)
      (methodNodes body) methods

/-- A class has its first base as base class and the others as interfaces. -/
structure DescribesClass (source : ByteArray) (tree : Tree)
    (symbol : ClassSymbol) : Prop where
  declares : Declares source tree symbol.name symbol.isExported symbol.methods
  noProtocol : ¬IsProtocol source tree
  bases : Bases source tree (symbol.baseClass.toList ++ symbol.interfaces.getD [])
  first : symbol.baseClass = none → symbol.interfaces = none
  others : symbol.interfaces ≠ some []

/-- An interface extends the bases that are no protocols, if there are any. -/
structure DescribesInterface (source : ByteArray) (tree : Tree)
    (symbol : InterfaceSymbol) : Prop where
  declares : Declares source tree symbol.name symbol.isExported symbol.methods
  protocol : IsProtocol source tree
  extended : ∃ names, Bases source tree names ∧
    symbol.extended.getD [] = names.filter (· ∉ protocolBases) ∧
    (symbol.extended = none ↔ ∀ name ∈ names, name ∈ protocolBases)

/-- Definitions are divided into classes and interfaces, each of them in the
order of the definitions. -/
inductive Divided (source : ByteArray) :
    List Tree → List ClassSymbol → List InterfaceSymbol → Prop where
  | nil : Divided source [] [] []
  | ofClass {tree : Tree} {trees : List Tree} {symbol : ClassSymbol}
      {classes : List ClassSymbol} {interfaces : List InterfaceSymbol} :
      DescribesClass source tree symbol →
      Divided source trees classes interfaces →
      Divided source (tree :: trees) (symbol :: classes) interfaces
  | ofInterface {tree : Tree} {trees : List Tree} {symbol : InterfaceSymbol}
      {classes : List ClassSymbol} {interfaces : List InterfaceSymbol} :
      DescribesInterface source tree symbol →
      Divided source trees classes interfaces →
      Divided source (tree :: trees) classes (symbol :: interfaces)

/-- The class definitions below the root of a file, in document order. -/
def classNodes (tree : Tree) : List Tree :=
  ((Tree.listingEach [tree.kind] tree.children).filter
    fun node => node.kind = "class_definition").map Located.tree

section Bases

variable {source : ByteArray} {tree : Tree}

theorem extractBase_eq_ok_iff {name : String} :
    extractBase source tree = .ok name ↔ BaseName source tree name := by
  rw [extractBase, BaseName]
  split
  · exact requireChild_bind_eq_ok_iff
  · exact Iff.rfl

theorem extractBases_eq_ok_iff {names : List String} :
    extractBases source tree = .ok names ↔ Bases source tree names := by
  rw [extractBases, Bases, baseNodes]
  cases tree.child? "superclasses" with
  | none => simp [eq_comm]
  | some list =>
      have same : (list.significantChildren.filter
            fun base => !nonBaseKinds.contains base.kind) =
          list.children.filter fun argument => IsBase argument := by
        rw [Tree.significantChildren, Tree.namedChildren, List.filter_filter,
          List.filter_filter]
        apply List.filter_congr
        intro argument _
        rw [Bool.eq_iff_iff]
        simp [IsBase, nonBaseKinds]
        tauto
      dsimp only
      rw [same, mapM_eq_ok_iff]
      simp only [extractBase_eq_ok_iff]

theorem isProtocol_iff {names : List String} (bases : Bases source tree names) :
    IsProtocol source tree ↔ names.any protocolBases.contains = true := by
  have only : ∀ others, Bases source tree others ↔ names = others := by
    intro others
    rw [← extractBases_eq_ok_iff, extractBases_eq_ok_iff.mpr bases]
    simp
  simp [IsProtocol, only]

end Bases

section Methods

variable {source : ByteArray}

theorem forall₂_memberMethod {member : Tree} {methods : List Method}
    (done : memberMethod source member = .ok methods) :
    List.Forall₂ (fun node method => extractMethod source node = .ok method)
      (methodNode? member).toList methods := by
  have ofDefinition : ∀ definition : Tree,
      (if definition.kind = "function_definition" then do
          let method ← extractMethod source definition
          return [method]
        else return []) = .ok methods →
      List.Forall₂ (fun node method => extractMethod source node = .ok method)
        (if definition.kind = "function_definition" then [definition] else [])
        methods := by
    intro definition made
    split at made
    · obtain ⟨method, extracted, made⟩ := bind_eq_ok_iff.mp made
      cases made
      rename_i isFunction
      rw [if_pos isFunction]
      exact .cons extracted .nil
    · cases made
      rename_i other
      rw [if_neg other]
      exact .nil
  rw [memberMethod] at done
  rw [methodNode?]
  by_cases plain : member.kind = "function_definition"
  · have bare : ¬member.kind = "decorated_definition" := by
      rw [plain]
      decide
    rw [if_pos (by simp [plain]), undecorated, if_neg bare, ok_bind] at done
    have found := ofDefinition member done
    rw [if_pos plain] at found ⊢
    exact found
  · rw [if_neg plain]
    by_cases decorated : member.kind = "decorated_definition"
    · rw [if_pos (by simp [decorated]), undecorated, if_pos decorated] at done
      obtain ⟨definition, child, made⟩ := requireChild_bind_eq_ok_iff.mp done
      have found := ofDefinition definition made
      rw [if_pos decorated, child, Option.filter_some]
      by_cases isFunction : definition.kind = "function_definition"
      · rw [if_pos isFunction] at found
        rw [if_pos (by simpa using isFunction)]
        exact found
      · rw [if_neg isFunction] at found
        rw [if_neg (by simpa using isFunction)]
        exact found
    · rw [if_neg (by simp [plain, decorated])] at done
      cases done
      rw [if_neg decorated]
      exact .nil

theorem forall₂_members {members : List Tree} {perMember : List (List Method)}
    (each : List.Forall₂ (fun member methods => memberMethod source member =
      .ok methods) members perMember) :
    List.Forall₂ (fun node method => extractMethod source node = .ok method)
      (members.filterMap methodNode?) perMember.flatten := by
  induction each with
  | nil => exact .nil
  | @cons member methods rest following first _ induction =>
      have here := forall₂_memberMethod first
      rw [List.flatten_cons]
      cases found : methodNode? member with
      | none =>
          rw [found, Option.toList_none, List.forall₂_nil_left_iff] at here
          rw [List.filterMap_cons_none found, here]
          exact induction
      | some node =>
          rw [found] at here
          rw [List.filterMap_cons_some found]
          exact List.rel_append here induction

theorem forall₂_extractMethods {body : Tree} {methods : List Method}
    (done : extractMethods source body = .ok methods) :
    List.Forall₂ (fun node method => extractMethod source node = .ok method)
      (methodNodes body) methods := by
  obtain ⟨perMember, walked, done⟩ := bind_eq_ok_iff.mp done
  cases done
  exact forall₂_members (mapM_eq_ok_iff.mp walked)

end Methods

section Definitions

variable {source : ByteArray} {tree : Tree}

/-- A definition is described by the class or by the interface that it
becomes. -/
def Describes (source : ByteArray) (tree : Tree) :
    ClassSymbol ⊕ InterfaceSymbol → Prop
  | .inl symbol => DescribesClass source tree symbol
  | .inr symbol => DescribesInterface source tree symbol

theorem toList_head?_append_nonEmpty?_tail (names : List String) :
    names.head?.toList ++ (nonEmpty? names.tail).getD [] = names := by
  cases names with
  | nil => rfl
  | cons first rest =>
      cases rest with
      | nil => rfl
      | cons second others => rfl

theorem getD_nonEmpty? (names : List String) :
    (nonEmpty? names).getD [] = names := by
  cases names with
  | nil => rfl
  | cons first rest => rfl

theorem nonEmpty?_eq_none_iff (names : List String) :
    nonEmpty? names = none ↔ names = [] := by
  cases names with
  | nil => simp [nonEmpty?]
  | cons first rest => simp [nonEmpty?]

theorem nonEmpty?_ne_some_nil (names : List String) :
    nonEmpty? names ≠ some [] := by
  cases names with
  | nil => simp [nonEmpty?]
  | cons first rest => simp [nonEmpty?]

theorem describes_of_extractClass {symbol : ClassSymbol ⊕ InterfaceSymbol}
    (done : extractClass source tree = .ok symbol) :
    Describes source tree symbol := by
  rw [extractClass] at done
  obtain ⟨name, named, done⟩ := bind_eq_ok_iff.mp done
  obtain ⟨body, inBody, done⟩ := requireChild_bind_eq_ok_iff.mp done
  obtain ⟨names, read, done⟩ := bind_eq_ok_iff.mp done
  obtain ⟨methods, extracted, done⟩ := bind_eq_ok_iff.mp done
  obtain ⟨fields, _, done⟩ := bind_eq_ok_iff.mp done
  have bases := extractBases_eq_ok_iff.mp read
  have declares : Declares source tree name (isExported name) methods := by
    refine ⟨requireChild_bind_eq_ok_iff.mp named, ?_, body, inBody,
      forall₂_extractMethods extracted⟩
    simp [isExported]
  by_cases protocol : names.any protocolBases.contains = true
  · rw [if_pos protocol] at done
    cases done
    refine ⟨declares, (isProtocol_iff bases).mpr protocol, names, bases, ?_, ?_⟩
    · rw [getD_nonEmpty?]
      apply List.filter_congr
      intro base _
      simp
    · rw [nonEmpty?_eq_none_iff, List.filter_eq_nil_iff]
      simp
  · rw [if_neg protocol] at done
    cases done
    refine ⟨declares,
      fun isProtocol => protocol ((isProtocol_iff bases).mp isProtocol),
      ?_, ?_, nonEmpty?_ne_some_nil _⟩
    · rw [toList_head?_append_nonEmpty?_tail]
      exact bases
    · intro empty
      rw [List.head?_eq_none_iff.mp empty]
      rfl

theorem divided_of_forall₂ {trees : List Tree}
    {symbols : List (ClassSymbol ⊕ InterfaceSymbol)}
    (each : List.Forall₂ (Describes source) trees symbols) :
    Divided source trees (symbols.filterMap Sum.getLeft?)
      (symbols.filterMap Sum.getRight?) := by
  induction each with
  | nil => exact .nil
  | @cons tree symbol trees symbols here _ induction =>
      cases symbol with
      | inl symbol => exact .ofClass here induction
      | inr symbol => exact .ofInterface here induction

end Definitions

theorem map_tree_descendants (tree : Tree) :
    ((Located.root tree).descendantsOfKind ["class_definition"]).map
      Located.tree =
      classNodes tree := by
  rw [Located.descendantsOfKind_singleton]
  rfl

/-- The class definitions of a file become its classes and interfaces, one by
one and in document order.  A definition becomes an interface exactly when one
of its bases is a protocol, and nothing but its bases and the functions in its
body is recorded of it. -/
theorem extractRoot_divides (source : ByteArray) (tree : Tree) {symbols : Source}
    (done : extractRoot source tree = .ok symbols) :
    Divided source (classNodes tree) symbols.classes symbols.interfaces := by
  obtain ⟨records, extracted, done⟩ := bind_eq_ok_iff.mp done
  obtain ⟨_, _, done⟩ := bind_eq_ok_iff.mp done
  cases done
  apply divided_of_forall₂
  rw [← map_tree_descendants, List.forall₂_map_left_iff]
  apply (mapM_eq_ok_iff.mp extracted).imp
  intro node record made
  exact describes_of_extractClass made

/-- A protocol that extends a class, with a class and a decorated function
inside. -/
theorem extractRoot_divides_nested :
    let source := "A B Protocol C f".toUTF8
    let leaf (kind : String) (start stop : Nat) (role : Option String) : Tree :=
      .node { kind, start, stop, role } []
    let method : Tree :=
      .node { kind := "function_definition", role := some "definition" }
        [leaf "identifier" 15 16 (some "name"),
          leaf "parameters" 16 16 (some "parameters")]
    let inner : Tree :=
      .node { kind := "class_definition" }
        [leaf "identifier" 13 14 (some "name"),
          .node { kind := "block", role := some "body" }
            [.node { kind := "decorated_definition" } [method]]]
    let outer : Tree :=
      .node { kind := "class_definition" }
        [leaf "identifier" 0 1 (some "name"),
          .node { kind := "argument_list", role := some "superclasses" }
            [leaf "identifier" 2 3 none,
              .node { kind := "subscript" }
                [leaf "identifier" 4 12 (some "value")],
              leaf "keyword_argument" 0 1 none],
          .node { kind := "block", role := some "body" } [inner]]
    let file : Tree := .node { kind := "module" } [outer]
    ∃ symbols, extractRoot source file = .ok symbols ∧
      symbols.interfaces =
        [{ name := "A", isExported := true, extended := some ["B"] }] ∧
      symbols.classes =
        [{ name := "C", isExported := true, methods := [{ name := "f" }] }] ∧
      Divided source (classNodes file) symbols.classes symbols.interfaces := by
  intro source leaf method inner outer file
  have done : extractRoot source file = .ok
      { classes :=
          [{ name := "C", isExported := true, methods := [{ name := "f" }] }]
        interfaces :=
          [{ name := "A", isExported := true, extended := some ["B"] }] } := by
    decide +kernel
  exact ⟨_, done, rfl, rfl, extractRoot_divides source file done⟩

end SymbolDiff.Extract.Python
