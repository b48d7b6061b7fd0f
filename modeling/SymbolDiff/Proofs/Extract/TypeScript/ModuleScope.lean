import SymbolDiff.Extract.TypeScript
import SymbolDiff.Proofs.Outcome
import SymbolDiff.Proofs.Tree.Enclosure

/-!
# Which variables are taken for module variables

A declarator is judged by what encloses its declaration, which is two or three
nodes of the way up to the root.  Where that is the root, the declaration stands
at the top level.  Where it is an export statement, nothing is known of the way
further up: the judgement tells the top level as long as every export statement
is a child of the root, and fails inside a namespace that exports.
-/

namespace SymbolDiff.Extract.TypeScript

open Outcome
open Located (forall_below_root_iff)

/-- The root is the only node of its kind. -/
structure OnlyProgram (tree : Tree) : Prop where
  root : tree.kind = rootKind
  below : ∀ node : Located, node.Below (.root tree) → node.kind ≠ rootKind

/-- Every export statement is a child of the root. -/
def ExportsAtRoot (tree : Tree) : Prop :=
  ∀ node : Located, node.Below (.root tree) → node.kind = exportWrapper →
    node.ancestors = [tree.kind]

/-- Between the declaration of a declarator and the root stand at most one
`declare` and at most one export statement, and nothing else. -/
def AtTopLevel (declarator : Located) : Prop :=
  ∃ declaration wrappers root,
    declarator.ancestors = declaration :: (wrappers ++ [root]) ∧
      wrappers.Nodup ∧ wrappers ⊆ [ambientWrapper, exportWrapper]

/-- An export statement holds the declaration of a declarator, directly or
through `declare`, wherever it stands itself. -/
def HeldByExport (declarator : Located) : Prop :=
  ∃ declaration between above,
    declarator.ancestors =
        declaration :: (between ++ exportWrapper :: above) ∧
      (between = [] ∨ between = [ambientWrapper])

/-- All that the judgement looks at. -/
theorem isModuleVariable_eq_true_iff {declarator : Located} :
    isModuleVariable declarator = true ↔
      ∃ declaration between kind above,
        declarator.ancestors = declaration :: (between ++ kind :: above) ∧
          (between = [] ∨ between = [ambientWrapper]) ∧
          (kind = exportWrapper ∨ kind = rootKind) := by
  rw [isModuleVariable, declarationEnclosure?]
  constructor
  · intro accepted
    cases enclosed : declarator.ancestors with
    | nil => simp [enclosed] at accepted
    | cons declaration above =>
        rw [enclosed] at accepted
        cases above with
        | nil => simp [enclosingKind?] at accepted
        | cons parent above =>
            by_cases ambient : parent = ambientWrapper
            · subst ambient
              cases above with
              | nil => simp [enclosingKind?] at accepted
              | cons kind above =>
                  refine ⟨declaration, [ambientWrapper], kind, above, rfl,
                    .inr rfl, ?_⟩
                  simpa [enclosingKind?] using accepted
            · refine ⟨declaration, [], parent, above, rfl, .inl rfl, ?_⟩
              simpa [enclosingKind?, ambient] using accepted
  · intro found
    obtain ⟨declaration, between, kind, above, enclosed, between, kinds⟩ := found
    rw [enclosed]
    rcases between with rfl | rfl <;> rcases kinds with rfl | rfl <;> rfl

section Rooted

variable {tree : Tree} {declarator : Located}

/-- Above a node of the root's kind there is nothing. -/
theorem OnlyProgram.eq_nil_of_suffix (only : OnlyProgram tree)
    (below : declarator.Below (.root tree)) {above : List String}
    (encloses : rootKind :: above <:+ declarator.ancestors) : above = [] := by
  rcases Located.exists_enclosing below encloses with
    outside | ⟨other, here | deeper, kind, rfl⟩
  · exact absurd outside.length_le (by simp [Located.root])
  · rw [here, Located.root]
  · exact absurd kind (only.below other deeper)

theorem OnlyProgram.isModuleVariable_of_atTopLevel (only : OnlyProgram tree)
    (below : declarator.Below (.root tree)) (top : AtTopLevel declarator) :
    isModuleVariable declarator = true := by
  obtain ⟨declaration, wrappers, root, enclosed, distinct, known⟩ := top
  obtain ⟨inner, above⟩ := Located.ancestors_of_below below
  have ends : (declaration :: wrappers) ++ [root] = inner ++ [tree.kind] :=
    enclosed.symm.trans above
  have last := (List.append_inj' ends rfl).2
  rw [only.root, List.cons.injEq] at last
  obtain ⟨rfl, -⟩ := last
  rw [isModuleVariable_eq_true_iff]
  cases wrappers with
  | nil => exact ⟨declaration, [], rootKind, [], enclosed, .inl rfl, .inr rfl⟩
  | cons nearest further =>
      rw [List.cons_subset] at known
      rcases List.mem_pair.mp known.1 with rfl | rfl
      · cases further with
        | nil =>
            exact ⟨declaration, [ambientWrapper], rootKind, [], enclosed,
              .inr rfl, .inr rfl⟩
        | cons next outer =>
            -- A second `declare` is ruled out, so the next wrapper exports.
            have different : next ≠ ambientWrapper := by
              intro same
              subst same
              exact (List.nodup_cons.mp distinct).1 List.mem_cons_self
            have wrapper := known.2 List.mem_cons_self
            have exported := (List.mem_pair.mp wrapper).resolve_left different
            exact ⟨declaration, [ambientWrapper], next, outer ++ [rootKind],
              enclosed, .inr rfl, .inl exported⟩
      · exact ⟨declaration, [], exportWrapper, further ++ [rootKind],
          enclosed, .inl rfl, .inl rfl⟩

/-- The judgement tells the top level, and lets pass whatever an export
statement holds. -/
theorem OnlyProgram.isModuleVariable_iff (only : OnlyProgram tree)
    (below : declarator.Below (.root tree)) :
    isModuleVariable declarator = true ↔
      AtTopLevel declarator ∨ HeldByExport declarator := by
  constructor
  · intro accepted
    obtain ⟨declaration, between, kind, above, enclosed, ambient, kinds⟩ :=
      isModuleVariable_eq_true_iff.mp accepted
    rcases kinds with rfl | rfl
    · exact .inr ⟨declaration, between, above, enclosed, ambient⟩
    · left
      have suffix : rootKind :: above <:+ declarator.ancestors := by
        rw [enclosed, ← List.cons_append]
        exact List.suffix_append _ _
      rw [only.eq_nil_of_suffix below suffix] at enclosed
      refine ⟨declaration, between, rootKind, enclosed, ?_⟩
      rcases ambient with rfl | rfl <;> simp
  · intro placed
    rcases placed with top | held
    · exact only.isModuleVariable_of_atTopLevel below top
    · obtain ⟨declaration, between, above, enclosed, ambient⟩ := held
      exact isModuleVariable_eq_true_iff.mpr
        ⟨declaration, between, exportWrapper, above, enclosed, ambient,
          .inl rfl⟩

theorem OnlyProgram.atTopLevel_of_heldByExport (only : OnlyProgram tree)
    (exports : ExportsAtRoot tree) (below : declarator.Below (.root tree))
    (held : HeldByExport declarator) : AtTopLevel declarator := by
  obtain ⟨declaration, between, above, enclosed, ambient⟩ := held
  have suffix : exportWrapper :: above <:+ declarator.ancestors := by
    rw [enclosed, ← List.cons_append]
    exact List.suffix_append _ _
  rcases Located.exists_enclosing below suffix with
    outside | ⟨other, here | deeper, kind, rfl⟩
  · exact absurd outside.length_le (by simp [Located.root])
  · subst here
    exact absurd (only.root.symm.trans kind) (by decide)
  · rw [exports other deeper kind] at enclosed
    refine ⟨declaration, between ++ [exportWrapper], tree.kind, ?_, ?_⟩
    · simpa using enclosed
    · rcases ambient with rfl | rfl <;> decide

end Rooted

/-- The variables of a file are those of the declarators at its top level and
of the declarators that an export statement holds.  The second sort adds
nothing where every export statement is a child of the root. -/
theorem moduleVariables_atTopLevel (source : ByteArray) (tree : Tree)
    (only : OnlyProgram tree) :
    (∀ declarator : Located, declarator.Below (.root tree) →
      (isModuleVariable declarator = true ↔
        AtTopLevel declarator ∨ HeldByExport declarator)) ∧
    (ExportsAtRoot tree →
      ∀ declarator : Located, declarator.Below (.root tree) →
        (isModuleVariable declarator = true ↔ AtTopLevel declarator)) ∧
    ∀ symbols, extractRoot source tree = .ok symbols →
      List.Forall₂
        (fun declarator binding =>
          extractVariable source declarator = .ok binding)
        (((Located.root tree).descendantsOfKind
          ["variable_declarator"]).filter isModuleVariable)
        symbols.bindings := by
  refine ⟨?_, ?_, ?_⟩
  · intro declarator below
    exact only.isModuleVariable_iff below
  · intro exports declarator below
    rw [only.isModuleVariable_iff below]
    constructor
    · intro placed
      rcases placed with top | held
      · exact top
      · exact only.atTopLevel_of_heldByExport exports below held
    · exact .inl
  · intro symbols done
    obtain ⟨_, -, done⟩ := bind_eq_ok_iff.mp done
    obtain ⟨_, -, done⟩ := bind_eq_ok_iff.mp done
    obtain ⟨_, -, done⟩ := bind_eq_ok_iff.mp done
    obtain ⟨bindings, extracted, done⟩ := bind_eq_ok_iff.mp done
    cases done
    exact mapM_eq_ok_iff.mp extracted

/-- An exported ambient constant and a constant inside a function. -/
theorem moduleVariables_atTopLevel_ambient :
    let source := "export declare const x;function f(){const y=1}".toUTF8
    let leaf (kind : String) (start stop : Nat) (role : String) : Tree :=
      .node { kind, start, stop, role := some role } []
    let constant (parts : List Tree) : Tree :=
      .node { kind := "lexical_declaration" }
        [.node { kind := "variable_declarator" } parts]
    let file : Tree :=
      .node { kind := "program" }
        [.node { kind := "export_statement" }
          [.node { kind := "ambient_declaration" }
            [constant [leaf "identifier" 21 22 "name"]]],
         .node { kind := "function_declaration" }
          [.node { kind := "statement_block" }
            [constant [leaf "identifier" 42 43 "name",
              leaf "number" 44 45 "value"]]]]
    OnlyProgram file ∧ ExportsAtRoot file ∧
      extractRoot source file =
        .ok { bindings := [{ name := "x", isExported := true }] } ∧
      ∀ declarator : Located, declarator.Below (.root file) →
        (isModuleVariable declarator = true ↔ AtTopLevel declarator) := by
  intro source leaf constant file
  have only : OnlyProgram file :=
    ⟨rfl, forall_below_root_iff.mpr (by decide)⟩
  have exports : ExportsAtRoot file := forall_below_root_iff.mpr (by decide)
  have done : extractRoot source file =
      .ok { bindings := [{ name := "x", isExported := true }] } := by
    decide +kernel
  exact ⟨only, exports, done,
    (moduleVariables_atTopLevel source file only).2.1 exports⟩

/-- A namespace that exports a constant: the constant is taken for one of the
module, though it stands three levels below the top. -/
theorem namespace_export_taken :
    let source := "namespace N{export const x=1}".toUTF8
    let leaf (kind : String) (start stop : Nat) (role : String) : Tree :=
      .node { kind, start, stop, role := some role } []
    let declarator : Tree :=
      .node { kind := "variable_declarator", start := 25, stop := 28 }
        [leaf "identifier" 25 26 "name", leaf "number" 27 28 "value"]
    let file : Tree :=
      .node { kind := "program" }
        [.node { kind := "expression_statement" }
          [.node { kind := "internal_module" }
            [leaf "identifier" 10 11 "name",
             .node { kind := "statement_block", role := some "body" }
              [.node { kind := "export_statement" }
                [.node { kind := "lexical_declaration" } [declarator]]]]]]
    let found : Located :=
      ⟨declarator, ["lexical_declaration", "export_statement",
        "statement_block", "internal_module", "expression_statement",
        "program"]⟩
    OnlyProgram file ∧ found.Below (.root file) ∧
      isModuleVariable found = true ∧ ¬AtTopLevel found ∧
      extractRoot source file = .ok { bindings :=
        [{ name := "x", isExported := true, value := some "1" }] } := by
  intro source leaf declarator file found
  have only : OnlyProgram file :=
    ⟨rfl, forall_below_root_iff.mpr (by decide)⟩
  have below : found.Below (.root file) := ⟨0, [0, 1, 0, 0, 0], rfl⟩
  have nested : ¬AtTopLevel found := by
    intro top
    obtain ⟨declaration, wrappers, root, enclosed, -, known⟩ := top
    have block : "statement_block" ∈ wrappers := by
      have listed : "statement_block" ∈ found.ancestors.tail.dropLast := by
        decide
      simpa [enclosed] using listed
    exact absurd (known block) (by decide)
  exact ⟨only, below, rfl, nested, by decide +kernel⟩

end SymbolDiff.Extract.TypeScript
