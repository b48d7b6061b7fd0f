import SymbolDiff.Proofs.Extract.Python.Chain

/-!
# What Python extraction requires

A file is complete when each class in it has a name, a body and members that
can be read, each assignment of a chain that binds names of the module or of a
class has a target, and each type statement of the module has a name and a
type.  On a file whose texts can all be had, extraction succeeds exactly when
the file is complete, and otherwise names a node and what it falls short of.
-/

namespace SymbolDiff.Extract.Python

open Outcome

/-- A parameter with a type holds its name as a child, and one with a default
in a role; other parameters are their own name. -/
structure NamedParameter (tree : Tree) : Prop where
  typed : tree.kind = "typed_parameter" →
    ∃ name ∈ tree.children, name.kind ∈ splatNameKinds
  defaulted : tree.kind ∈ ["default_parameter", "typed_default_parameter"] →
    tree.Has "name"

structure CompleteMethod (tree : Tree) : Prop where
  name : tree.Has "name"
  parameters : ∃ list, tree.child? "parameters" = some list ∧
    ∀ parameter ∈ list.namedChildren, NamedParameter parameter

/-- Each assignment of a chain has a target. -/
def Targeted (assignment : Tree) : Prop :=
  ∀ link ∈ chain assignment, link.Has "left"

/-- A member of a class body is a complete method if it is a function, with or
without decorators, and has all its targets if it is an assignment. -/
structure CompleteMember (member : Tree) : Prop where
  method : member.kind = "function_definition" → CompleteMethod member
  decorated : member.kind = "decorated_definition" →
    ∃ definition, member.child? "definition" = some definition ∧
      (definition.kind = "function_definition" → CompleteMethod definition)
  assigned : member.kind = "expression_statement" →
    ∀ assignment, member.firstOfKind? ["assignment"] = some assignment →
      Targeted assignment

structure CompleteClass (tree : Tree) : Prop where
  name : tree.Has "name"
  bases : ∀ list, tree.child? "superclasses" = some list →
    ∀ base ∈ list.significantChildren, base.kind = "subscript" →
      base.Has "value"
  body : ∃ body, tree.child? "body" = some body ∧
    ∀ member ∈ body.namedChildren, CompleteMember member

/-- A type statement has a type and a target that is a name or holds one. -/
structure CompleteAlias (tree : Tree) : Prop where
  left : ∃ left, tree.child? "left" = some left ∧
    (left.kind = "identifier" ∨
      ∃ name : Located, name.Below (.root left) ∧ name.kind = "identifier")
  right : tree.Has "right"

/-- Whatever is extracted from a file has what it has to have. -/
structure Complete (tree : Tree) : Prop where
  classes : ∀ node : Located, node.Below (.root tree) →
    node.kind = "class_definition" → CompleteClass node.tree
  assignments : ∀ node : Located, node.Below (.root tree) →
    node.kind = "assignment" → node.grandparentKind? = some rootKind →
      Targeted node.tree
  aliases : ∀ node : Located, node.Below (.root tree) →
    node.kind = "type_alias_statement" → node.parentKind? = some rootKind →
      CompleteAlias node.tree

/-- A node is not what a shortfall says is missing in it.  Texts are no matter
here. -/
def FallsShort (tree : Tree) : Shortfall → Prop
  | .missingRole kind role => tree.kind = kind ∧ tree.child? role = none
  | .namelessParameter =>
      tree.kind = "typed_parameter" ∧
        ∀ name ∈ tree.children, name.kind ∉ splatNameKinds
  | .namelessAlias =>
      tree.kind ≠ "identifier" ∧
        ∀ name : Located, name.Below (.root tree) → name.kind ≠ "identifier"
  | .noText _ => False
  | .notUtf8 _ => False

/-- The fault of a node inside a tree that falls short of what the fault
names. -/
def Short (source : ByteArray) (tree : Tree) (fault : Fault) : Prop :=
  ∃ part shortfall, part.Inside tree ∧ FallsShort part shortfall ∧
    fault = .found source part shortfall

theorem Short.of_lacking {source : ByteArray} {tree : Tree} :
    ∀ fault, Lacking source tree fault → Short source tree fault := by
  intro fault lacking
  obtain ⟨part, role, inside, missing, same⟩ := lacking
  exact ⟨part, .missingRole part.kind role, inside, ⟨rfl, missing⟩, same⟩

/-- What is no parameter needs no name. -/
theorem NamedParameter.of_not_mem {tree : Tree}
    (other : tree.kind ∉ parameterKinds) :
    NamedParameter tree := by
  constructor
  · intro typed
    rw [typed] at other
    exact absurd (by decide) other
  · intro defaulted
    exact absurd (List.mem_append_right _ (List.mem_cons_of_mem _ defaulted))
      other

section Members

variable {source : ByteArray} {file tree : Tree}
variable (legible : Legible source file) (inside : tree.Inside file)

include legible inside

theorem decided_extractTypedParameter (ordinal : Nat)
    (typed : tree.kind = "typed_parameter") :
    Decided (∃ name ∈ tree.children, name.kind ∈ splatNameKinds)
      (Short source file) (extractParameter source ordinal tree) := by
  have notBare : ¬bareParameterKinds.contains tree.kind = true := by
    rw [typed]
    decide
  rw [extractParameter, if_neg notBare, if_pos typed]
  cases found : tree.firstOfKind? splatNameKinds with
  | none =>
      have nameless := (tree.firstOfKind?_eq_none_iff _).mp found
      refine ⟨?_, tree, .namelessParameter, inside, ⟨typed, nameless⟩, rfl⟩
      rintro ⟨name, child, listed⟩
      exact nameless name child listed
  | some name =>
      have present : ∃ name ∈ tree.children, name.kind ∈ splatNameKinds := by
        by_contra nameless
        have none := (tree.firstOfKind?_eq_none_iff splatNameKinds).mpr
          fun name child listed => nameless ⟨name, child, listed⟩
        rw [found] at none
        cases none
      have text := legible.textOf (inside.firstOfKind? _ name found)
      have type := legible.annotationText (inside.child? "type")
      have both := text.andThen fun name _ => type.map
        fun type => ({ name, type, ordinal } : Parameter)
      exact (both.widen Short.of_lacking).congr (iff_of_true trivial present)

theorem decided_extractParameter (ordinal : Nat)
    (accepted : tree.kind ∈ parameterKinds) :
    Decided (NamedParameter tree) (Short source file)
      (extractParameter source ordinal tree) := by
  by_cases typed : tree.kind = "typed_parameter"
  · apply (decided_extractTypedParameter legible inside ordinal typed).congr
    constructor
    · intro named
      refine ⟨fun _ => named, fun defaulted => ?_⟩
      rw [typed] at defaulted
      exact absurd defaulted (by decide)
    · intro named
      exact named.typed typed
  · by_cases bare : tree.kind ∈ bareParameterKinds
    · have named : NamedParameter tree := by
        refine ⟨fun same => absurd same typed, fun defaulted => ?_⟩
        simp only [List.mem_cons, List.not_mem_nil, or_false] at defaulted
        rcases defaulted with same | same
        · rw [same] at bare
          exact absurd bare (by decide)
        · rw [same] at bare
          exact absurd bare (by decide)
      have text := (legible.textOf inside).map
        fun name => ({ name, ordinal } : Parameter)
      rw [extractParameter, if_pos (List.contains_iff_mem.mpr bare)]
      exact (text.widen Short.of_lacking).congr (iff_of_true trivial named)
    · have defaulted :
          tree.kind ∈ ["default_parameter", "typed_default_parameter"] := by
        rw [parameterKinds, List.mem_append] at accepted
        rcases accepted with impossible | others
        · exact absurd impossible bare
        · rcases List.mem_cons.mp others with impossible | rest
          · exact absurd impossible typed
          · exact rest
      have name := legible.textOfChild inside "name"
      have type := legible.annotationText (inside.child? "type")
      have both := name.bind fun name _ => type.map
        fun type => ({ name, type, ordinal, isOptional := true } : Parameter)
      rw [extractParameter, if_neg (by simpa using bare), if_neg typed]
      apply (both.widen Short.of_lacking).congr
      rw [and_true]
      constructor
      · intro named
        exact ⟨fun same => absurd same typed, fun _ => named⟩
      · intro named
        exact named.defaulted defaulted

omit inside in
theorem decided_extractParameters {trees : List Tree}
    (inside : ∀ parameter ∈ trees, parameter.Inside file)
    (accepted : ∀ parameter ∈ trees, parameter.kind ∈ parameterKinds)
    (ordinal : Nat) :
    Decided (∀ parameter ∈ trees, NamedParameter parameter)
      (Short source file) (extractParameters source ordinal trees) := by
  induction trees generalizing ordinal with
  | nil => simp [extractParameters, Decided]
  | cons first rest induction =>
      rw [List.forall_mem_cons] at inside accepted
      have parameter := decided_extractParameter legible inside.1 ordinal
        accepted.1
      have following := induction inside.2 accepted.2 (ordinal + 1)
      rw [extractParameters, List.forall_mem_cons]
      exact parameter.bind fun parameter _ => following.map (parameter :: ·)

theorem decided_extractMethod :
    Decided (CompleteMethod tree) (Short source file)
      (extractMethod source tree) := by
  have name := (legible.textOfChild inside "name").widen Short.of_lacking
  have returnType :=
    (legible.annotationText (inside.child? "return_type")).widen
      Short.of_lacking
  have parameters (list : Tree) (within : list.Inside file) :
      Decided (∀ parameter ∈ list.namedChildren, NamedParameter parameter)
        (Short source file)
        (extractParameters source 0 (list.namedChildren.filter
          fun parameter => parameterKinds.contains parameter.kind)) := by
    refine Decided.congr (decided_extractParameters legible ?_ ?_ 0) ?_
    · intro parameter member
      exact within.namedChildren parameter (List.mem_of_mem_filter member)
    · intro parameter member
      exact List.contains_iff_mem.mp (List.mem_filter.mp member).2
    · simp only [List.mem_filter, List.contains_iff_mem, and_imp]
      constructor
      · intro named parameter child
        by_cases accepted : parameter.kind ∈ parameterKinds
        · exact named parameter child accepted
        · exact .of_not_mem accepted
      · intro named parameter child _
        exact named parameter child
  refine Decided.congr (requireChild_bind_expecting source inside "parameters"
    Short.of_lacking fun list within => name.bind fun name _ =>
      returnType.andThen fun returnType _ =>
        (parameters list within).map _) ?_
  constructor
  · rintro ⟨list, found, named, parameters⟩
    exact ⟨named, list, found, parameters⟩
  · rintro ⟨named, list, found, parameters⟩
    exact ⟨list, found, named, parameters⟩

theorem decided_memberMethod :
    Decided
      ((tree.kind = "function_definition" → CompleteMethod tree) ∧
        (tree.kind = "decorated_definition" →
          ∃ definition, tree.child? "definition" = some definition ∧
            (definition.kind = "function_definition" →
              CompleteMethod definition)))
      (Short source file) (memberMethod source tree) := by
  -- what follows once the definition is known
  have method (definition : Tree) (within : definition.Inside file) :
      Decided
        (definition.kind = "function_definition" → CompleteMethod definition)
        (Short source file)
        (if definition.kind = "function_definition" then do
            let method ← extractMethod source definition
            return [method]
          else return []) := by
    split
    · rename_i isFunction
      have whole := decided_extractMethod legible within
      apply (whole.map fun method => [method]).congr
      simp [isFunction]
    · rename_i other
      exact fun isFunction => absurd isFunction other
  rw [memberMethod]
  by_cases plain : tree.kind = "function_definition"
  · have bare : ¬tree.kind = "decorated_definition" := by
      rw [plain]
      decide
    rw [if_pos (by simp [plain]), undecorated, if_neg bare, ok_bind]
    apply (method tree inside).congr
    constructor
    · intro complete
      exact ⟨complete, fun decorated => absurd decorated bare⟩
    · intro complete
      exact complete.1
  · by_cases decorated : tree.kind = "decorated_definition"
    · have defined := requireChild_bind_expecting source inside "definition"
        Short.of_lacking method
      rw [if_pos (by simp [decorated]), undecorated, if_pos decorated]
      apply defined.congr
      constructor
      · intro complete
        exact ⟨fun isFunction => absurd isFunction plain, fun _ => complete⟩
      · intro complete
        exact complete.2 decorated
    · rw [if_neg (by simp [plain, decorated])]
      exact ⟨fun isFunction => absurd isFunction plain,
        fun isDecorated => absurd isDecorated decorated⟩

theorem decided_assignmentLinks :
    Decided (Targeted tree) (Lacking source file)
      (assignmentLinks source tree) := by
  have target (link : Tree) (member : link ∈ chain tree) :
      Decided (link.Has "left") (Lacking source file)
        (targetLink source link) := by
    have within := inside_of_mem_chain inside link member
    have own (left : Tree) (here : left.Inside file) :
        Decided True (Lacking source file) (ownLink source left link) := by
      rw [ownLink]
      split
      · exact (legible.textOf here).map fun name => [Link.mk name link]
      · trivial
    have bound := requireChild_bind source within "left" own
    exact bound.congr (by simp [Tree.Has])
  rw [assignmentLinks_eq_chain]
  exact (Decided.mapM target).map _

theorem decided_statementFields :
    Decided
      (tree.kind = "expression_statement" →
        ∀ assignment, tree.firstOfKind? ["assignment"] = some assignment →
          Targeted assignment)
      (Lacking source file) (statementFields source tree) := by
  rw [statementFields, statementAssignment?]
  by_cases statement : tree.kind = "expression_statement"
  · rw [if_pos statement]
    cases found : tree.firstOfKind? ["assignment"] with
    | none => simp [Decided]
    | some assignment =>
        have here := inside.firstOfKind? _ assignment found
        have links := decided_assignmentLinks legible here
        have fields (read : List Link × Option Tree)
            (done : assignmentLinks source assignment = .ok read) :
            Decided True (Lacking source file) (do
              let value ← textOf? source read.2
              read.1.mapM (extractField source value)) := by
          obtain ⟨linked, shared⟩ := inside_of_assignmentLinks here done
          apply (legible.textOf? shared).andThen
          intro text _
          have each := Decided.mapM fun link (member : link ∈ read.1) =>
            (legible.annotationText
              ((linked link member).child? "type")).map fun type =>
                ({ name := link.name, type, value := text
                   visibility := visibilityOf link.name
                   isReadOnly := isReadOnlyType type } : Field)
          exact each.congr (by simp)
        apply (links.bind fields).congr
        simp [statement]
  · rw [if_neg statement]
    exact fun isStatement => absurd isStatement statement

theorem decided_extractBases :
    Decided
      (∀ list, tree.child? "superclasses" = some list →
        ∀ base ∈ list.significantChildren, base.kind = "subscript" →
          base.Has "value")
      (Lacking source file) (extractBases source tree) := by
  rw [extractBases]
  cases found : tree.child? "superclasses" with
  | none => simp [Decided]
  | some list =>
      have here := inside.child? "superclasses" list found
      have base (item : Tree) (within : item.Inside file) :
          Decided (item.kind = "subscript" → item.Has "value")
            (Lacking source file) (extractBase source item) := by
        rw [extractBase]
        by_cases applied : item.kind = "subscript"
        · rw [if_pos applied]
          exact (legible.textOfChild within "value").congr (by simp [applied])
        · rw [if_neg applied]
          exact (legible.textOf within).congr (by simp [applied])
      have each := Decided.mapM fun item
          (member : item ∈ list.significantChildren.filter
            fun base => !nonBaseKinds.contains base.kind) =>
        base item (here.significantChildren item
          (List.mem_of_mem_filter member))
      apply each.congr
      simp only [Option.some.injEq, forall_eq', List.mem_filter, and_imp]
      constructor
      · intro valued item child applied
        apply valued item child
        · rw [applied]
          decide
        · exact applied
      · intro valued item child _ applied
        exact valued item child applied

theorem decided_extractClass :
    Decided (CompleteClass tree) (Short source file)
      (extractClass source tree) := by
  have name := (legible.textOfChild inside "name").widen Short.of_lacking
  have bases := (decided_extractBases legible inside).widen Short.of_lacking
  have methods (body : Tree) (within : body.Inside file) :=
    (Decided.mapM fun member (child : member ∈ body.namedChildren) =>
      decided_memberMethod legible (within.namedChildren member child)).map
        List.flatten
  have fields (body : Tree) (within : body.Inside file) :=
    ((Decided.mapM fun member (child : member ∈ body.namedChildren) =>
      decided_statementFields legible
        (within.namedChildren member child)).map List.flatten).widen
          Short.of_lacking
  refine Decided.congr (name.bind fun _ _ =>
    requireChild_bind_expecting source inside "body" Short.of_lacking
      fun body within => bases.bind fun _ _ =>
        (methods body within).bind fun _ _ =>
          (fields body within).bind fun _ _ => (?_ : Decided True _ _)) ?_
  · split
    · trivial
    · trivial
  · constructor
    · rintro ⟨named, body, found, valued, methods, fields, -⟩
      refine ⟨named, valued, body, found, fun member child => ?_⟩
      obtain ⟨plain, decorated⟩ := methods member child
      exact ⟨plain, decorated, fields member child⟩
    · rintro ⟨named, valued, body, found, members⟩
      refine ⟨named, body, found, valued, fun member child => ?_,
        fun member child => (members member child).assigned, trivial⟩
      exact ⟨(members member child).method, (members member child).decorated⟩

theorem decided_aliasName :
    Decided
      (tree.kind = "identifier" ∨
        ∃ name : Located, name.Below (.root tree) ∧ name.kind = "identifier")
      (Short source file) (aliasName source tree) := by
  rw [aliasName]
  by_cases plain : tree.kind = "identifier"
  · rw [if_pos plain]
    have text := (legible.textOf inside).widen Short.of_lacking
    exact text.congr (iff_of_true trivial (.inl plain))
  · rw [if_neg plain]
    have names := fun name : Located =>
      Located.mem_descendantsOfKind_iff name (.root tree) ["identifier"]
    cases found : (Located.root tree).descendantsOfKind ["identifier"] with
    | nil =>
        have nameless : ∀ name : Located, name.Below (.root tree) →
            name.kind ≠ "identifier" := by
          intro name below isName
          have listed := (names name).mpr ⟨below, List.mem_singleton.mpr isName⟩
          rw [found] at listed
          cases listed
        refine ⟨?_, tree, .namelessAlias, inside, ⟨plain, nameless⟩, rfl⟩
        rintro (isName | ⟨name, below, isName⟩)
        · exact plain isName
        · exact nameless name below isName
    | cons first rest =>
        obtain ⟨below, isName⟩ := (names first).mp (found ▸ List.mem_cons_self)
        have text := (legible.textOf
          ((Tree.Inside.of_below below).trans inside)).widen Short.of_lacking
        exact text.congr (iff_of_true trivial
          (.inr ⟨first, below, List.mem_singleton.mp isName⟩))

theorem decided_extractAliasStatement :
    Decided (CompleteAlias tree) (Short source file)
      (extractAliasStatement source tree) := by
  have right := (legible.textOfChild inside "right").widen Short.of_lacking
  refine Decided.congr (requireChild_bind_expecting source inside "left"
    Short.of_lacking fun left within =>
      (decided_aliasName legible within).bind fun _ _ => right.map _) ?_
  constructor
  · rintro ⟨left, found, named, typed⟩
    exact ⟨⟨left, found, named⟩, typed⟩
  · rintro ⟨⟨left, found, named⟩, typed⟩
    exact ⟨left, found, named, typed⟩

theorem decided_isAliasAssignment :
    Decided True (Lacking source file) (isAliasAssignment source tree) := by
  rw [isAliasAssignment]
  cases found : tree.child? "type" with
  | none => trivial
  | some type =>
      dsimp only
      split
      · exact (legible.annotationText (found ▸ inside.child? "type")).map _
      · trivial

omit legible inside in
theorem has_right_of_isAliasAssignment
    (verdict : isAliasAssignment source tree = .ok true) :
    tree.Has "right" := by
  rw [isAliasAssignment] at verdict
  cases found : tree.child? "type" with
  | none =>
      rw [found] at verdict
      cases verdict
  | some type =>
      rw [found] at verdict
      dsimp only at verdict
      split at verdict
      · rename_i present
        exact Option.isSome_iff_exists.mp present
      · cases verdict

omit inside in
theorem decided_extractVariable {link : Link} {value : Option Tree}
    (inside : link.assignment.Inside file)
    (shared : ∀ tree ∈ value, tree.Inside file) :
    Decided True (Lacking source file) (extractVariable source value link) := by
  have type := legible.annotationText (inside.child? "type")
  have text := legible.textOf? shared
  exact type.andThen fun _ _ => text.map _

theorem decided_extractAliasAssignment :
    Decided (tree.Has "left" ∧ tree.Has "right") (Lacking source file)
      (extractAliasAssignment source tree) := by
  have name := legible.textOfChild inside "left"
  have type := legible.textOfChild inside "right"
  exact name.bind fun _ _ => type.map _

/-- Once all targets of a chain are there, nothing else is missing. -/
theorem decided_recordLinks (targeted : Targeted tree)
    {read : List Link × Option Tree}
    (done : assignmentLinks source tree = .ok read) :
    Decided True (Lacking source file) (recordLinks source tree read) := by
  obtain ⟨linked, shared⟩ := inside_of_assignmentLinks inside done
  rw [recordLinks]
  split
  · trivial
  · apply (decided_isAliasAssignment legible inside).andThen
    intro isAlias verdict
    cases isAlias with
    | true =>
        have left : tree.Has "left" :=
          targeted tree (List.mem_of_head? (head?_chain tree))
        have right := has_right_of_isAliasAssignment verdict
        have type := (decided_extractAliasAssignment legible inside).map
          fun type => ([type], ([] : List Variable))
        exact type.congr (iff_of_true ⟨left, right⟩ trivial)
    | false =>
        have each := Decided.mapM fun link (member : link ∈ read.1) =>
          decided_extractVariable legible (linked link member) shared
        exact (each.map fun bound => (([] : List TypeAlias), bound)).congr
          (by simp)

end Members

theorem decided_extractBinding {source : ByteArray} {file : Tree}
    {node : Located} (legible : Legible source file)
    (inside : node.tree.Inside file) :
    Decided
      ((node.kind = "type_alias_statement" →
          node.parentKind? = some rootKind → CompleteAlias node.tree) ∧
        (node.kind ≠ "type_alias_statement" →
          node.grandparentKind? = some rootKind → Targeted node.tree))
      (Short source file) (extractBinding source node) := by
  by_cases statement : node.kind = "type_alias_statement"
  · by_cases atTop : node.parentKind? = some rootKind
    · rw [extractBinding_of_statement source statement atTop]
      have type := (decided_extractAliasStatement legible inside).map
        fun type => ([type], ([] : List Variable))
      exact type.congr (by simp [statement, atTop])
    · rw [extractBinding, if_pos statement, if_neg atTop]
      exact ⟨fun _ top => absurd top atTop,
        fun other => absurd statement other⟩
  · by_cases inModule : node.grandparentKind? = some rootKind
    · rw [extractBinding_of_assignment source statement inModule]
      have links := decided_assignmentLinks legible inside
      have recorded := links.bind fun read done =>
        decided_recordLinks legible inside
          (links.exists_ok_iff.mp ⟨read, done⟩) done
      apply (recorded.widen Short.of_lacking).congr
      simp [statement, inModule]
    · rw [extractBinding, if_neg statement, isModuleAssignment,
        if_neg (by simpa using inModule)]
      exact ⟨fun isStatement => absurd isStatement statement,
        fun _ module => absurd module inModule⟩

theorem decided_extractRoot {source : ByteArray} {tree : Tree}
    (legible : Legible source tree) :
    Decided (Complete tree) (Short source tree) (extractRoot source tree) := by
  have classes := decided_mapM_descendants ["class_definition"]
    fun node inside => decided_extractClass legible inside
  have bindings := decided_mapM_descendants bindingKinds
    fun node inside => decided_extractBinding legible inside
  refine Decided.congr (classes.bind fun _ _ => bindings.map _) ?_
  constructor
  · rintro ⟨classes, bindings⟩
    refine ⟨fun node below isClass => ?_, fun node below isAssignment => ?_,
      fun node below isStatement => ?_⟩
    · exact classes node below (List.mem_singleton.mpr isClass)
    · have listed : node.kind ∈ bindingKinds := by
        rw [isAssignment]
        decide
      apply (bindings node below listed).2
      rw [isAssignment]
      decide
    · have listed : node.kind ∈ bindingKinds := by
        rw [isStatement]
        decide
      exact (bindings node below listed).1 isStatement
  · intro complete
    refine ⟨fun node below isClass => ?_, fun node below listed => ?_⟩
    · exact complete.classes node below (List.mem_singleton.mp isClass)
    · refine ⟨complete.aliases node below, fun other => ?_⟩
      have isAssignment : node.kind = "assignment" := by
        rw [bindingKinds, List.mem_pair] at listed
        exact listed.resolve_right other
      exact complete.assignments node below isAssignment

/-- Extraction succeeds exactly on complete files, and otherwise names a node
that falls short of something it has to have. -/
theorem extractRoot_ok_iff_complete
    (source : ByteArray) (tree : Tree) (legible : Legible source tree) :
    ((∃ symbols, extractRoot source tree = .ok symbols) ↔ Complete tree) ∧
      (¬Complete tree →
        ∃ fault, extractRoot source tree = .error fault ∧
          Short source tree fault) := by
  have decided := decided_extractRoot legible
  exact ⟨decided.exists_ok_iff, decided.exists_error⟩

/-- A field whose value is an assignment in turn, with and without the target
of that inner assignment. -/
theorem extractRoot_ok_iff_complete_chain :
    let source := "class A: x = y = 1".toUTF8
    let leaf (kind : String) (start stop : Nat) (role : String) : Tree :=
      .node { kind, start, stop, role := some role } []
    let inner (target : List Tree) : Tree :=
      .node { kind := "assignment", start := 13, stop := 18,
              role := some "right" }
        (target ++ [leaf "integer" 17 18 "right"])
    let file (target : List Tree) : Tree :=
      .node { kind := "module" }
        [.node { kind := "class_definition" }
          [leaf "identifier" 6 7 "name",
            .node { kind := "block", role := some "body" }
              [.node { kind := "expression_statement" }
                [.node { kind := "assignment", start := 9, stop := 18 }
                  [leaf "identifier" 9 10 "left", inner target]]]]]
    let whole := file [leaf "identifier" 13 14 "left"]
    let cut := file []
    Legible source whole ∧ Complete whole ∧
      Legible source cut ∧ ¬Complete cut ∧
      ∃ fault, extractRoot source cut = .error fault ∧
        Short source cut fault := by
  intro source leaf inner file whole cut
  have readWhole : Legible source whole := by decide +kernel
  have readCut : Legible source cut := by decide +kernel
  have extracted : (extractRoot source whole).isOk = true := by decide +kernel
  have refused : (extractRoot source cut).isOk = false := by decide +kernel
  obtain ⟨succeeds, -⟩ := extractRoot_ok_iff_complete source whole readWhole
  obtain ⟨fails, fault⟩ := extractRoot_ok_iff_complete source cut readCut
  have complete : Complete whole := by
    apply succeeds.mp
    cases outcome : extractRoot source whole with
    | ok symbols => exact ⟨symbols, rfl⟩
    | error fault => simp [outcome, Except.isOk, Except.toBool] at extracted
  have incomplete : ¬Complete cut := by
    rw [← fails]
    rintro ⟨symbols, outcome⟩
    simp [outcome, Except.isOk, Except.toBool] at refused
  exact ⟨readWhole, complete, readCut, incomplete, fault incomplete⟩

end SymbolDiff.Extract.Python
