import SymbolDiff.Extract.Source
import SymbolDiff.Proofs.Extract.Python.Unseen
import SymbolDiff.Proofs.Extract.TypeScript.Unseen

/-!
# Changes that extraction does not notice

Leaving out comments changes nothing, and neither does exchanging what stands
in the body of a method.  Both hold for every tree, also for one that is not
well formed, and they cover faults as well as symbols: the message, the kind
of the node and the line stay the same.
-/

namespace SymbolDiff.Extract

/-- The bodies that extraction leaves unread. -/
def bodiesOf : Dialect → Bodies
  | .typescript => TypeScript.bodies
  | .tsx => TypeScript.bodies
  | .python => Python.bodies

theorem ofRoot_eq_of_resembles
    (dialect : Dialect) (source : ByteArray) {tree other : Tree}
    (resembles : tree.Resembles (bodiesOf dialect) other) :
    ofRoot dialect source tree = ofRoot dialect source other := by
  cases dialect with
  | typescript => exact TypeScript.extractRoot_eq source resembles
  | tsx => exact TypeScript.extractRoot_eq source resembles
  | python => exact Python.extractRoot_eq source resembles

/-- Comments do not count, wherever they stand. -/
theorem ofRoot_uncommented
    (dialect : Dialect) (source : ByteArray) {tree other : Tree}
    (uncommented : tree.Uncommented other) :
    ofRoot dialect source other = ofRoot dialect source tree :=
  (ofRoot_eq_of_resembles dialect source uncommented.resembles).symm

/-- Comments before a field, in its annotation and between implemented
interfaces: without them the annotation still has one part. -/
theorem ofRoot_uncommented_class :
    let source := "class A implements I, J { x: T }".toUTF8
    let comment : Tree := .node { kind := "comment" } []
    let name (start : Nat) (role : Option String) : Tree :=
      .node { kind := "identifier", start, stop := start + 1, role } []
    let interfaces (between : List Tree) : Tree :=
      .node { kind := "class_heritage" }
        [.node { kind := "implements_clause" }
          (name 19 none :: between ++ [name 22 none])]
    let field (before : List Tree) : Tree :=
      .node { kind := "public_field_definition" }
        [name 26 (some "name"),
          .node { kind := "type_annotation", role := some "type" }
            (before ++ [name 29 none])]
    let file (comments : List Tree) : Tree :=
      .node { kind := "program" }
        [.node { kind := "class_declaration" }
          [name 6 (some "name"), interfaces comments,
            .node { kind := "class_body", role := some "body" }
              (comments ++ [field comments])]]
    (file [comment]).Uncommented (file []) ∧
      ofRoot .typescript source (file []) =
        .ok {
          classes := [{
            name := "A", interfaces := some ["I", "J"]
            fields := [{ name := "x", type := "T" }] }] } := by
  intro source comment name interfaces field file
  have stray : comment.IsStrayComment := ⟨rfl, rfl, rfl⟩
  have same := Tree.Uncommented.refl
  have changed : (file [comment]).Uncommented (file []) :=
    .node (.keep (.node (.keep (same _)
      (.keep
        (.node (.keep (.node (.keep (same _) (.drop stray
          (.keep (same _) .nil)))) .nil))
      (.keep
        (.node (.drop stray (.keep (.node (.keep (same _)
          (.keep (.node (.drop stray (.keep (same _) .nil))) .nil))) .nil)))
      .nil)))) .nil)
  refine ⟨changed, ?_⟩
  rw [ofRoot_uncommented .typescript source changed]
  decide +kernel

/-- The body of a method does not count, as long as it declares nothing that
is extracted wherever it stands. -/
theorem ofRoot_rebodied
    (dialect : Dialect) (source : ByteArray) {tree other : Tree}
    (rebodied : tree.Rebodied (bodiesOf dialect) other) :
    ofRoot dialect source other = ofRoot dialect source tree := by
  have unexposed : ∀ role,
      ((bodiesOf dialect).method, role) ∉ (bodiesOf dialect).exposed := by
    intro role
    cases dialect <;> simp [bodiesOf, TypeScript.bodies, Python.bodies]
  have resembles := rebodied.resembles unexposed
  exact (ofRoot_eq_of_resembles dialect source resembles).symm

/-- An assignment in a method gives way to a type statement; neither binds a
name of the module. -/
theorem ofRoot_rebodied_method :
    let source := "class C:\n def f(): x = 1".toUTF8
    let name (start : Nat) (role : Option String) : Tree :=
      .node { kind := "identifier", start, stop := start + 1, role } []
    let assignment : Tree :=
      .node { kind := "expression_statement" }
        [.node { kind := "assignment" } [name 19 (some "left")]]
    let file (body : List Tree) : Tree :=
      .node { kind := "module" }
        [.node { kind := "class_definition" }
          [name 6 (some "name"),
            .node { kind := "block", role := some "body" }
              [.node { kind := "function_definition" }
                [name 14 (some "name"),
                  .node { kind := "parameters", role := some "parameters" } [],
                  .node { kind := "block", role := some "body" } body]]]]
    let before := file [assignment]
    let after := file [.node { kind := "type_alias_statement" } []]
    before.Rebodied (bodiesOf .python) after ∧
      ofRoot .python source after =
        .ok {
          classes := [{
            name := "C", isExported := true
            methods := [{ name := "f" }] }] } := by
  intro source name assignment file before after
  have changed : before.Rebodied (bodiesOf .python) after := by
    apply @Tree.Rebodied.inside _ _ [] []
    · apply @Tree.Rebodied.inside _ _ [name 6 (some "name")] []
      · apply @Tree.Rebodied.inside _ _ [] []
        · apply @Tree.Rebodied.body _ _ _
            [name 14 (some "name"),
              .node { kind := "parameters", role := some "parameters" } []] []
          · exact ⟨rfl, rfl, rfl⟩
          · decide
          · decide
        · simp [bodiesOf, Python.bodies]
      · simp [bodiesOf, Python.bodies]
    · simp [bodiesOf, Python.bodies]
  refine ⟨changed, ?_⟩
  rw [ofRoot_rebodied .python source changed]
  decide +kernel

end SymbolDiff.Extract
