import Mathlib.Tactic.MkIffOfInductiveProp
import SymbolDiff.Proofs.Reconcile.ByName
import SymbolDiff.Symbol.Comparison

/-!
# Sources that agree

Agreement of two sources is stated without any comparison: declarations and
members agree name by name, parameters position by position, and each part
that is compared is the same on both sides.  A comparison of sources reports
nothing exactly when they agree, so no difference is lost at any depth and no
order of declarations is ever reported.
-/

namespace SymbolDiff

/-- The names of a heritage list in order, as one text. -/
def heritageText (names : List String) : String :=
  ", ".intercalate (Text.inOrder names)

/-- Parameters agree in all parts but the ordinal. -/
@[mk_iff]
structure Parameter.Agrees (old new : Parameter) : Prop where
  name : old.name = new.name
  type : old.type = new.type
  isOptional : old.isOptional = new.isOptional

/-- Methods agree when their parameters do, position by position. -/
@[mk_iff]
structure Method.Agrees (old new : Method) : Prop where
  returnType : old.returnType = new.returnType
  parameters : List.Forall₂ Parameter.Agrees old.parameters new.parameters

@[mk_iff]
structure Field.Agrees (old new : Field) : Prop where
  type : old.type = new.type
  value : old.value = new.value
  visibility : old.visibility = new.visibility
  isReadOnly : old.isReadOnly = new.isReadOnly

/-- Classes agree when their members do, name by name, and the rest is the
same; the order of the interfaces does not count. -/
@[mk_iff]
structure ClassSymbol.Agrees (old new : ClassSymbol) : Prop where
  methods : ByName Method.Agrees old.methods new.methods
  fields : ByName Field.Agrees old.fields new.fields
  baseClass : old.baseClass = new.baseClass
  interfaces :
    old.interfaces.map heritageText = new.interfaces.map heritageText
  isExported : old.isExported = new.isExported

@[mk_iff]
structure InterfaceSymbol.Agrees (old new : InterfaceSymbol) : Prop where
  methods : ByName Method.Agrees old.methods new.methods
  fields : ByName Field.Agrees old.fields new.fields
  extended : old.extended.map heritageText = new.extended.map heritageText
  isExported : old.isExported = new.isExported

@[mk_iff]
structure TypeAlias.Agrees (old new : TypeAlias) : Prop where
  type : old.type = new.type
  isExported : old.isExported = new.isExported

@[mk_iff]
structure Variable.Agrees (old new : Variable) : Prop where
  type : old.type = new.type
  value : old.value = new.value
  isExported : old.isExported = new.isExported

/-- Sources agree when their declarations do, name by name. -/
@[mk_iff]
structure Source.Agrees (old new : Source) : Prop where
  classes : ByName ClassSymbol.Agrees old.classes new.classes
  interfaces : ByName InterfaceSymbol.Agrees old.interfaces new.interfaces
  types : ByName TypeAlias.Agrees old.types new.types
  bindings : ByName Variable.Agrees old.bindings new.bindings

theorem Method.Agrees.refl (method : Method) : method.Agrees method :=
  ⟨rfl, List.forall₂_same.mpr fun _ _ => ⟨rfl, rfl, rfl⟩⟩

theorem Field.Agrees.refl (field : Field) : field.Agrees field :=
  ⟨rfl, rfl, rfl, rfl⟩

section Nothing

@[simp] theorem changed_eq_none_iff
    (label : String) (results : List (Option Node)) :
    changed label results = none ↔ ∀ result ∈ results, result = none := by
  have empty : changed label results = none ↔ results.filterMap id = [] := by
    rw [changed, Node.gather]
    cases results.filterMap id with
    | nil => simp
    | cons first rest => simp
  rw [empty, List.filterMap_eq_nil_iff]
  rfl

@[simp] theorem compareScalar_eq_none_iff
    (label : String) (old new : Scalar) :
    compareScalar label old new = none ↔ old = new := by
  simp [compareScalar]

@[simp] theorem Scalar.ofText?_inj (old new : Option String) :
    Scalar.ofText? old = Scalar.ofText? new ↔ old = new := by
  cases old <;> cases new <;> simp [Scalar.ofText?]

@[simp] theorem sortedNames_inj (old new : Option (List String)) :
    sortedNames old = sortedNames new ↔
      old.map heritageText = new.map heritageText :=
  Scalar.ofText?_inj _ _

@[simp] theorem Visibility.word_inj (old new : Visibility) :
    old.word = new.word ↔ old = new := by
  cases old <;> cases new <;> simp [Visibility.word]

end Nothing

theorem compareParameter_eq_none_iff (old new : Parameter) :
    compareParameter old new = none ↔
      old.type = new.type ∧ old.isOptional = new.isOptional := by
  simp [compareParameter]

theorem compareMethod_eq_none_iff (old new : Method) :
    (compareMethod old new).value = none ↔ old.Agrees new := by
  have parameters :
      (compareItems Traced.remark
          (fun first second => pure (compareParameter first second)) true
          "Parameters" old.parameters new.parameters).value = none ↔
        List.Forall₂ Parameter.Agrees old.parameters new.parameters := by
    have each : (fun first second : Parameter =>
        Named.name first = Named.name second ∧
          compareParameter first second = none) = Parameter.Agrees := by
      funext first second
      rw [compareParameter_eq_none_iff]
      exact propext (Parameter.agrees_iff first second).symm
    rw [value_compareItems_ordered_eq_none_iff]
    simp only [Traced.value_pure, each]
  rw [Method.agrees_iff, and_comm, ← parameters]
  simp [compareMethod]

theorem compareField_eq_none_iff (old new : Field) :
    compareField old new = none ↔ old.Agrees new := by
  simp [compareField, Field.agrees_iff]

theorem compareMethods_eq_none_iff (old new : List Method) :
    (compareMethods old new).value = none ↔
      ByName Method.Agrees old new := by
  rw [compareMethods, value_compareItems_unordered_eq_none_iff]
  simp only [compareMethod_eq_none_iff]

theorem compareFields_eq_none_iff (old new : List Field) :
    (compareFields old new).value = none ↔
      ByName Field.Agrees old new := by
  rw [compareFields, value_compareItems_unordered_eq_none_iff]
  simp only [Traced.value_pure, compareField_eq_none_iff]

theorem compareClass_eq_none_iff (old new : ClassSymbol) :
    (compareClass old new).value = none ↔ old.Agrees new := by
  simp [compareClass, ClassSymbol.agrees_iff, compareMethods_eq_none_iff,
    compareFields_eq_none_iff]

theorem compareInterface_eq_none_iff (old new : InterfaceSymbol) :
    (compareInterface old new).value = none ↔ old.Agrees new := by
  simp [compareInterface, InterfaceSymbol.agrees_iff,
    compareMethods_eq_none_iff, compareFields_eq_none_iff]

theorem compareTypeAlias_eq_none_iff (old new : TypeAlias) :
    compareTypeAlias old new = none ↔ old.Agrees new := by
  simp [compareTypeAlias, TypeAlias.agrees_iff]

theorem compareVariable_eq_none_iff (old new : Variable) :
    compareVariable old new = none ↔ old.Agrees new := by
  simp [compareVariable, Variable.agrees_iff]

/-- A comparison of two sources reports nothing exactly when they agree. -/
theorem compareSource_eq_none_iff (label : String) (old new : Source) :
    (compareSource label old new).value = none ↔ old.Agrees new := by
  simp [compareSource, Source.agrees_iff,
    value_compareItems_unordered_eq_none_iff, compareClass_eq_none_iff,
    compareInterface_eq_none_iff, compareTypeAlias_eq_none_iff,
    compareVariable_eq_none_iff]

end SymbolDiff
