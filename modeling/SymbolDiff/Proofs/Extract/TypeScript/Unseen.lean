import SymbolDiff.Extract.TypeScript
import SymbolDiff.Proofs.Extract.SameAnswers

/-!
# What TypeScript extraction does not see

The body of a method is a statement block.  Nothing of it is extracted unless
it declares a class, an interface or a type alias, or holds a node that makes
a variable look like one of the module.  Each part of extraction therefore has
one outcome on trees that look alike, and so has the whole.
-/

namespace SymbolDiff.Extract.TypeScript

open SymbolDiff.Tree (Resembles)
open Outcome

/-- Bodies of methods, and what they must not hold to stay unseen. -/
def bodies : Bodies where
  method := "method_definition"
  block := "statement_block"
  excluded :=
    classKinds ++
      ["interface_declaration", "type_alias_declaration", exportWrapper, rootKind]
  exposed := []

section Members

variable {tree other : Tree} (source : ByteArray)

theorem extractParameter_eq
    (resembles : Resembles bodies tree other) (ordinal : Nat) :
    extractParameter source ordinal tree =
      extractParameter source ordinal other := by
  rw [extractParameter, extractParameter,
    textOfChild_eq source resembles "pattern" (by decide),
    annotationText_eq_of_rel source (resembles.rel_child? "type" (by decide)),
    Tree.isSome_eq_of_rel (resembles.rel_child? "value" (by decide)),
    resembles.kind_eq]

theorem extractParameters_eq {trees others : List Tree}
    (each : List.Forall₂ (Resembles bodies) trees others) (ordinal : Nat) :
    extractParameters source ordinal trees =
      extractParameters source ordinal others := by
  induction each generalizing ordinal with
  | nil => rfl
  | cons first _ induction =>
      rw [extractParameters, extractParameters,
        extractParameter_eq source first, induction]

theorem extractMethod_eq (resembles : Resembles bodies tree other) :
    extractMethod source tree = extractMethod source other := by
  apply (rel_requireChild source resembles.head_eq
    (resembles.rel_child? "parameters" (by decide))).bind_eq
  intro list others alike
  rw [textOfChild_eq source resembles "name" (by decide),
    annotationText_eq_of_rel source
      (resembles.rel_child? "return_type" (by decide)),
    extractParameters_eq source
      (alike.forall₂_childrenOfKind parameterKinds (by decide) (by decide))]

theorem fieldVisibility_eq
    (resembles : Resembles bodies tree other) {name partner : Tree}
    (names : name.head = partner.head) :
    fieldVisibility source tree name = fieldVisibility source other partner := by
  have kinds : name.kind = partner.kind := congrArg Head.kind names
  have modifiers := resembles.rel_firstOfKind? ["accessibility_modifier"]
    (by decide) (by decide)
  rw [fieldVisibility, fieldVisibility, kinds]
  generalize tree.firstOfKind? _ = first at modifiers ⊢
  generalize other.firstOfKind? _ = second at modifiers ⊢
  cases modifiers with
  | none => rfl
  | some alike => simp only [textOf_eq_of_head source alike.head_eq]

theorem extractFieldNamed_eq
    (resembles : Resembles bodies tree other) (role : String)
    (notBody : role ≠ "body") :
    extractFieldNamed source role tree =
      extractFieldNamed source role other := by
  apply (rel_requireChild source resembles.head_eq
    (resembles.rel_child? role notBody)).bind_eq
  intro name partner alike
  rw [textOf_eq_of_head source alike.head_eq,
    annotationText_eq_of_rel source (resembles.rel_child? "type" (by decide)),
    textOf?_eq_of_rel source (resembles.rel_child? "value" (by decide)),
    fieldVisibility_eq source resembles alike.head_eq,
    resembles.hasToken_eq "readonly" (by decide) (by decide)]

theorem isParameterProperty_eq (resembles : Resembles bodies tree other) :
    isParameterProperty tree = isParameterProperty other := by
  rw [isParameterProperty, isParameterProperty,
    resembles.hasToken_eq "readonly" (by decide) (by decide),
    Tree.isSome_eq_of_rel (resembles.rel_firstOfKind?
      ["accessibility_modifier"] (by decide) (by decide))]

theorem constructorFields_eq (resembles : Resembles bodies tree other) :
    constructorFields source tree = constructorFields source other := by
  rw [constructorFields, constructorFields,
    textOfChild_eq source resembles "name" (by decide)]
  congr 1
  funext name
  split
  · rfl
  · apply (rel_requireChild source resembles.head_eq
      (resembles.rel_child? "parameters" (by decide))).bind_eq
    intro list others alike
    have parameters := alike.forall₂_childrenOfKind parameterKinds
      (by decide) (by decide)
    apply mapM_eq_of_forall₂ (extractFieldNamed source "pattern")
      (fun _ _ same => extractFieldNamed_eq source same "pattern" (by decide))
    apply List.rel_filter _ parameters
    intro parameter partner same
    simp only [isParameterProperty_eq same]

theorem extractParameterProperties_eq
    (resembles : Resembles bodies tree other) :
    extractParameterProperties source tree =
      extractParameterProperties source other := by
  have methods := resembles.forall₂_childrenOfKind ["method_definition"]
    (by decide) (by decide)
  rw [extractParameterProperties, extractParameterProperties,
    mapM_eq_of_forall₂ (constructorFields source)
      (fun _ _ same => constructorFields_eq source same) methods]

end Members

section Declarations

variable {node other : Located} (source : ByteArray)

theorem extractNames_eq_of_rel {found partner : Option Tree}
    (clauses : Option.Rel (Resembles bodies) found partner) :
    extractNames source found = extractNames source partner := by
  cases clauses with
  | none => rfl
  | some alike =>
      rw [extractNames, extractNames,
        mapM_eq_of_forall₂ (textOf source)
          (fun _ _ same => textOf_eq_of_head source same.1)
          alike.forall₂_significantChildren]

theorem extractHeritage_eq {tree partner : Tree}
    (resembles : Resembles bodies tree partner) :
    extractHeritage source tree = extractHeritage source partner := by
  have heritages := resembles.rel_firstOfKind? ["class_heritage"]
    (by decide) (by decide)
  rw [extractHeritage, extractHeritage]
  generalize tree.firstOfKind? _ = first at heritages ⊢
  generalize partner.firstOfKind? _ = second at heritages ⊢
  cases heritages with
  | none => rfl
  | @some heritage others alike =>
      have base : extractBaseClass source heritage =
          extractBaseClass source others := by
        have clauses := alike.rel_firstOfKind? ["extends_clause"]
          (by decide) (by decide)
        rw [extractBaseClass, extractBaseClass]
        generalize heritage.firstOfKind? _ = clause at clauses ⊢
        generalize others.firstOfKind? _ = counterpart at clauses ⊢
        cases clauses with
        | none => rfl
        | some same =>
            simp only [textOfChild_eq source same "value" (by decide)]
      simp only [base, extractNames_eq_of_rel source
        (alike.rel_firstOfKind? ["implements_clause"] (by decide) (by decide))]

theorem extractClass_eq
    (resembles : node.Resembles bodies other)
    (isClass : node.kind ≠ "method_definition") :
    extractClass source node = extractClass source other := by
  obtain ⟨alike, enclosed⟩ := resembles
  apply (rel_requireChild source alike.head_eq
    (alike.rel_body isClass)).bind_eq
  intro body partner same
  rw [extractHeritage_eq source alike,
    textOfChild_eq source alike "name" (by decide),
    mapM_eq_of_forall₂ (extractMethod source)
      (fun _ _ method => extractMethod_eq source method)
      (same.forall₂_childrenOfKind methodKinds (by decide) (by decide)),
    mapM_eq_of_forall₂ (extractField source)
      (fun _ _ field => extractFieldNamed_eq source field "name" (by decide))
      (same.forall₂_childrenOfKind ["public_field_definition"]
        (by decide) (by decide)),
    extractParameterProperties_eq source same, isExported, isExported,
    enclosed]

theorem extractProperty_eq {tree partner : Tree}
    (resembles : Resembles bodies tree partner) :
    extractProperty source tree = extractProperty source partner := by
  rw [extractProperty, extractProperty,
    textOfChild_eq source resembles "name" (by decide),
    annotationText_eq_of_rel source (resembles.rel_child? "type" (by decide)),
    resembles.hasToken_eq "readonly" (by decide) (by decide)]

theorem extractInterface_eq
    (resembles : node.Resembles bodies other)
    (isInterface : node.kind ≠ "method_definition") :
    extractInterface source node = extractInterface source other := by
  obtain ⟨alike, enclosed⟩ := resembles
  apply (rel_requireChild source alike.head_eq
    (alike.rel_body isInterface)).bind_eq
  intro body partner same
  rw [extractNames_eq_of_rel source
      (alike.rel_firstOfKind? ["extends_type_clause"] (by decide) (by decide)),
    textOfChild_eq source alike "name" (by decide),
    mapM_eq_of_forall₂ (extractMethod source)
      (fun _ _ method => extractMethod_eq source method)
      (same.forall₂_childrenOfKind ["method_signature"]
        (by decide) (by decide)),
    mapM_eq_of_forall₂ (extractProperty source)
      (fun _ _ property => extractProperty_eq source property)
      (same.forall₂_childrenOfKind ["property_signature"]
        (by decide) (by decide)),
    isExported, isExported, enclosed]

theorem extractTypeAlias_eq (resembles : node.Resembles bodies other) :
    extractTypeAlias source node = extractTypeAlias source other := by
  obtain ⟨alike, enclosed⟩ := resembles
  rw [extractTypeAlias, extractTypeAlias,
    textOfChild_eq source alike "name" (by decide),
    textOfChild_eq source alike "value" (by decide), isExported, isExported,
    enclosed]

theorem extractVariable_eq (resembles : node.Resembles bodies other) :
    extractVariable source node = extractVariable source other := by
  obtain ⟨alike, enclosed⟩ := resembles
  rw [extractVariable, extractVariable,
    textOfChild_eq source alike "name" (by decide),
    annotationText_eq_of_rel source (alike.rel_child? "type" (by decide)),
    textOf?_eq_of_rel source (alike.rel_child? "value" (by decide)),
    declarationEnclosure?, declarationEnclosure?, enclosed]

end Declarations

section Files

variable (source : ByteArray)

/-- A kind that may stand in a body is not one that makes up a module. -/
private theorem not_module_of_not_excluded {kind : String}
    (outside : kind ∉ bodies.excluded) :
    (decide (kind = exportWrapper) || decide (kind = rootKind)) = false := by
  rw [Bool.or_eq_false_iff, decide_eq_false_iff_not, decide_eq_false_iff_not]
  constructor
  · rintro rfl
    exact outside (by decide)
  · rintro rfl
    exact outside (by decide)

/-- Inside a body nothing encloses a declaration the way a module does.  The
declaration is the node above the declarator, so the cases are how far down
from the body both stand. -/
private theorem isModuleVariable_in_body (tree : Tree)
    {inner : List String} (around : ∀ kind ∈ inner, kind ∉ bodies.excluded)
    (ancestors : List String) :
    isModuleVariable
      ⟨tree, inner ++ bodies.block :: bodies.method :: ancestors⟩ = false := by
  rw [isModuleVariable, declarationEnclosure?]
  cases inner with
  | nil => rfl
  | cons first outer =>
      cases outer with
      | nil => rfl
      | cons parent above =>
          have parentOutside := around parent (by simp)
          simp only [List.cons_append, enclosingKind?]
          by_cases ambient : parent = ambientWrapper
          · rw [if_pos ambient]
            cases above with
            | nil => rfl
            | cons grandparent rest =>
                exact not_module_of_not_excluded (around grandparent (by simp))
          · rw [if_neg ambient]
            exact not_module_of_not_excluded parentOutside

private theorem passedOver_variables :
    bodies.PassedOver fun kind ancestors =>
      ["variable_declarator"].contains kind &&
        isModuleVariable ⟨default, ancestors⟩ where
  comment _ := rfl
  block _ := rfl
  inside kind inner ancestors _ around := by
    rw [isModuleVariable_in_body default around, Bool.and_false]

private theorem ne_method_of_mem {kinds : List String} {kind : String}
    (noMethod : bodies.method ∉ kinds) (listed : kind ∈ kinds) :
    kind ≠ bodies.method := by
  rintro rfl
  exact noMethod listed

/-- Trees that look alike have one outcome. -/
theorem extractRoot_eq {tree other : Tree}
    (resembles : Resembles bodies tree other) :
    extractRoot source tree = extractRoot source other := by
  have classes := mapM_eq_of_forall₂ (extractClass source)
    (fun _ _ found => extractClass_eq source found.2
      (ne_method_of_mem (by decide) found.1))
    (resembles.forall₂_descendantsOfKind classKinds
      (by decide) (by decide) (by decide))
  have interfaces := mapM_eq_of_forall₂ (extractInterface source)
    (fun _ _ found => extractInterface_eq source found.2
      (ne_method_of_mem (by decide) found.1))
    (resembles.forall₂_descendantsOfKind ["interface_declaration"]
      (by decide) (by decide) (by decide))
  have types := mapM_eq_of_forall₂ (extractTypeAlias source)
    (fun _ _ found => extractTypeAlias_eq source found.2)
    (resembles.forall₂_descendantsOfKind ["type_alias_declaration"]
      (by decide) (by decide) (by decide))
  have atModule : ∀ nodes : List Located,
      chosen (fun _ ancestors => isModuleVariable ⟨default, ancestors⟩) nodes =
        nodes.filter isModuleVariable := fun _ => rfl
  have bindings := mapM_eq_of_forall₂ (extractVariable source)
    (fun _ _ found => extractVariable_eq source found)
    (resembles.forall₂_descendants passedOver_variables)
  rw [atModule, atModule] at bindings
  rw [extractRoot, extractRoot, classes, interfaces, types, bindings]

end Files

end SymbolDiff.Extract.TypeScript
