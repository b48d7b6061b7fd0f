import SymbolDiff.Proofs.Reconcile.TwoRuns
import SymbolDiff.Symbol.Comparison

/-!
# Sources in another order

A source is rearranged when declarations and members change places, except
that items of one name stay in their order, when heritage lists are permuted,
and when parameters get other ordinals while they stay where they are.  None
of this can be seen in a report, on whichever side it happens.
-/

namespace SymbolDiff

open Node

/-- A list in another order.  Items of one name keep their order, and each
item may be changed inside. -/
def Reordered {α : Type} [Named α] (inside : α → α → Prop)
    (before after : List α) : Prop :=
  ∃ moved, before.Perm moved ∧
    (∀ name, namedItems name before = namedItems name moved) ∧
    List.Forall₂ inside moved after

/-- A parameter with another ordinal at most. -/
def Parameter.Renumbered (before after : Parameter) : Prop :=
  ∃ ordinal, after = { before with ordinal := ordinal }

/-- A method whose parameters have other ordinals at most. -/
structure Method.Renumbered (before after : Method) : Prop where
  name : before.name = after.name
  returnType : before.returnType = after.returnType
  parameters :
    List.Forall₂ Parameter.Renumbered before.parameters after.parameters

structure ClassSymbol.Rearranged (before after : ClassSymbol) : Prop where
  name : before.name = after.name
  isExported : before.isExported = after.isExported
  methods : Reordered Method.Renumbered before.methods after.methods
  fields : Reordered Eq before.fields after.fields
  baseClass : before.baseClass = after.baseClass
  interfaces : Option.Rel List.Perm before.interfaces after.interfaces

structure InterfaceSymbol.Rearranged (before after : InterfaceSymbol) :
    Prop where
  name : before.name = after.name
  isExported : before.isExported = after.isExported
  methods : Reordered Method.Renumbered before.methods after.methods
  fields : Reordered Eq before.fields after.fields
  extended : Option.Rel List.Perm before.extended after.extended

/-- A source in another order, at any level. -/
structure Source.Rearranged (before after : Source) : Prop where
  classes : Reordered ClassSymbol.Rearranged before.classes after.classes
  interfaces :
    Reordered InterfaceSymbol.Rearranged before.interfaces after.interfaces
  types : Reordered Eq before.types after.types
  bindings : Reordered Eq before.bindings after.bindings

section Reordered

variable {α : Type} [Named α]

theorem Reordered.refl
    {inside : α → α → Prop} (reflexive : ∀ item, inside item item)
    (items : List α) : Reordered inside items items :=
  ⟨items, .refl items, fun _ => rfl,
    List.forall₂_same.mpr fun item _ => reflexive item⟩

/-- Two neighbours of different names may change places. -/
theorem Reordered.swap
    {inside : α → α → Prop} {first second : α} {rest after : List α}
    (different : Named.name first ≠ Named.name second)
    (inner : List.Forall₂ inside (second :: first :: rest) after) :
    Reordered inside (first :: second :: rest) after := by
  refine ⟨second :: first :: rest, .swap second first rest, ?_, inner⟩
  intro name
  simp only [namedItems_cons]
  by_cases isFirst : Named.name first = name
  · have notSecond : Named.name second ≠ name := by
      intro isSecond
      exact different (isFirst.trans isSecond.symm)
    simp [isFirst, notSecond]
  · simp [isFirst]

/-- Reordering leaves the items of each name in place. -/
theorem Reordered.byName
    {inside : α → α → Prop}
    (sameName : ∀ before after, inside before after →
      Named.name before = Named.name after)
    {before after : List α} (reordered : Reordered inside before after) :
    ByName inside before after := by
  obtain ⟨moved, _, kept, inner⟩ := reordered
  intro name
  rw [kept name]
  apply List.rel_filter _ inner
  intro first second pair
  simp only [sameName first second pair]

end Reordered

theorem sortedNames_eq_of_perm
    {before after : Option (List String)}
    (perm : Option.Rel List.Perm before after) :
    sortedNames before = sortedNames after := by
  cases perm with
  | none => rfl
  | some moved =>
      simp only [sortedNames, Option.map_some,
        Text.inOrder_eq_of_perm moved]

theorem rel_changed
    (label : String) {firsts seconds : List (Option Node)}
    (results : List.Forall₂ (Option.Rel Alike) firsts seconds) :
    Option.Rel Alike (changed label firsts) (changed label seconds) :=
  rel_gather label .changed results

theorem rel_compareParameter
    {old new other last : Parameter}
    (oldRenumbered : old.Renumbered other)
    (newRenumbered : new.Renumbered last) :
    Option.Rel Alike (compareParameter old new)
      (compareParameter other last) := by
  obtain ⟨_, rfl⟩ := oldRenumbered
  obtain ⟨_, rfl⟩ := newRenumbered
  exact rel_self Alike.refl _

theorem rel_compareMethod
    {old new other last : Method}
    (oldRenumbered : old.Renumbered other)
    (newRenumbered : new.Renumbered last) :
    Option.Rel Alike (compareMethod old new).value
      (compareMethod other last).value := by
  have sameName : ∀ before after : Parameter, before.Renumbered after →
      Named.name before = Named.name after := by
    rintro before _ ⟨_, rfl⟩
    rfl
  have parameters := rel_compareItems_ordered
    (fun first second => pure (compareParameter first second)) sameName
    (fun _ _ _ _ first second => rel_compareParameter first second)
    oldRenumbered.parameters newRenumbered.parameters "Parameters"
  simp only [compareMethod, Traced.value_bind, Traced.value_pure,
    oldRenumbered.name, oldRenumbered.returnType, newRenumbered.returnType]
  apply rel_changed
  exact .cons parameters (.cons (rel_self Alike.refl _) .nil)

theorem rel_compareMethods
    {old new other last : List Method}
    (oldReordered : Reordered Method.Renumbered old other)
    (newReordered : Reordered Method.Renumbered new last) :
    Option.Rel Alike (compareMethods old new).value
      (compareMethods other last).value :=
  rel_compareItems_unordered compareMethod
    (fun _ _ _ _ first second => rel_compareMethod first second)
    (oldReordered.byName fun _ _ renumbered => renumbered.name)
    (newReordered.byName fun _ _ renumbered => renumbered.name) "Methods"

/-- Items that only change places are compared as before. -/
theorem rel_compareItems_reordered
    {α : Type} [Named α] (compare : α → α → Option Node)
    {old new other last : List α}
    (oldReordered : Reordered Eq old other)
    (newReordered : Reordered Eq new last) (label : String) :
    Option.Rel Alike
      (compareItems Traced.remark
        (fun first second => pure (compare first second)) false label
        old new).value
      (compareItems Traced.remark
        (fun first second => pure (compare first second)) false label
        other last).value := by
  apply rel_compareItems_unordered _ _
    (oldReordered.byName fun _ _ same => congrArg Named.name same)
    (newReordered.byName fun _ _ same => congrArg Named.name same)
  rintro first second _ _ rfl rfl
  exact rel_self Alike.refl _

theorem rel_compareClass
    {old new other last : ClassSymbol}
    (oldRearranged : old.Rearranged other)
    (newRearranged : new.Rearranged last) :
    Option.Rel Alike (compareClass old new).value
      (compareClass other last).value := by
  have methods :=
    rel_compareMethods oldRearranged.methods newRearranged.methods
  have fields := rel_compareItems_reordered compareField
    oldRearranged.fields newRearranged.fields "Fields"
  simp only [compareClass, Traced.value_bind, Traced.value_pure,
    oldRearranged.name, oldRearranged.baseClass, newRearranged.baseClass,
    sortedNames_eq_of_perm oldRearranged.interfaces,
    sortedNames_eq_of_perm newRearranged.interfaces,
    oldRearranged.isExported, newRearranged.isExported]
  apply rel_changed
  exact .cons methods (.cons fields (.cons (rel_self Alike.refl _)
    (.cons (rel_self Alike.refl _) (.cons (rel_self Alike.refl _) .nil))))

theorem rel_compareInterface
    {old new other last : InterfaceSymbol}
    (oldRearranged : old.Rearranged other)
    (newRearranged : new.Rearranged last) :
    Option.Rel Alike (compareInterface old new).value
      (compareInterface other last).value := by
  have methods :=
    rel_compareMethods oldRearranged.methods newRearranged.methods
  have fields := rel_compareItems_reordered compareField
    oldRearranged.fields newRearranged.fields "Fields"
  simp only [compareInterface, Traced.value_bind, Traced.value_pure,
    oldRearranged.name, sortedNames_eq_of_perm oldRearranged.extended,
    sortedNames_eq_of_perm newRearranged.extended,
    oldRearranged.isExported, newRearranged.isExported]
  apply rel_changed
  exact .cons methods (.cons fields (.cons (rel_self Alike.refl _)
    (.cons (rel_self Alike.refl _) .nil)))

/-- Rearranging both sides leaves the report as it is, up to order. -/
theorem rel_compareSource
    (label : String) {old new other last : Source}
    (oldRearranged : old.Rearranged other)
    (newRearranged : new.Rearranged last) :
    Option.Rel Alike (compareSource label old new).value
      (compareSource label other last).value := by
  have classes := rel_compareItems_unordered compareClass
    (fun _ _ _ _ first second => rel_compareClass first second)
    (oldRearranged.classes.byName fun _ _ rearranged => rearranged.name)
    (newRearranged.classes.byName fun _ _ rearranged => rearranged.name)
    "Classes"
  have interfaces := rel_compareItems_unordered compareInterface
    (fun _ _ _ _ first second => rel_compareInterface first second)
    (oldRearranged.interfaces.byName fun _ _ rearranged => rearranged.name)
    (newRearranged.interfaces.byName fun _ _ rearranged => rearranged.name)
    "Interfaces"
  have types := rel_compareItems_reordered compareTypeAlias
    oldRearranged.types newRearranged.types "Type Aliases"
  have bindings := rel_compareItems_reordered compareVariable
    oldRearranged.bindings newRearranged.bindings "Variables"
  simp only [compareSource, Traced.value_bind, Traced.value_pure]
  apply rel_changed
  exact .cons classes
    (.cons interfaces (.cons types (.cons bindings .nil)))

theorem Parameter.Renumbered.refl (parameter : Parameter) :
    parameter.Renumbered parameter :=
  ⟨parameter.ordinal, rfl⟩

theorem Method.Renumbered.refl (method : Method) :
    method.Renumbered method :=
  ⟨rfl, rfl,
    List.forall₂_same.mpr fun parameter _ => .refl parameter⟩

theorem ClassSymbol.Rearranged.refl (symbol : ClassSymbol) :
    symbol.Rearranged symbol :=
  ⟨rfl, rfl, .refl .refl _, .refl (fun _ => rfl) _, rfl, rel_self .refl _⟩

theorem InterfaceSymbol.Rearranged.refl (symbol : InterfaceSymbol) :
    symbol.Rearranged symbol :=
  ⟨rfl, rfl, .refl .refl _, .refl (fun _ => rfl) _, rel_self .refl _⟩

theorem Source.Rearranged.refl (source : Source) :
    source.Rearranged source :=
  ⟨.refl .refl _, .refl .refl _, .refl (fun _ => rfl) _,
    .refl (fun _ => rfl) _⟩

/-- A rearranged source is reported as before, up to the order of entries,
whether it is the old or the new side. -/
theorem compareSource_rearranged
    {before after : Source} (rearranged : before.Rearranged after)
    (label : String) (other : Source) :
    Option.Rel Alike (compareSource label before other).value
        (compareSource label after other).value ∧
      Option.Rel Alike (compareSource label other before).value
        (compareSource label other after).value :=
  ⟨rel_compareSource label rearranged (.refl other),
    rel_compareSource label (.refl other) rearranged⟩

/-- Two classes change places; in one of them a method moves between two
overloads, the interfaces are permuted and a parameter gets another ordinal. -/
theorem compareSource_rearranged_overloads :
    let overload : Nat → Method := fun ordinal =>
      { name := "f", parameters := [{ name := "x", ordinal := ordinal }] }
    let before : ClassSymbol :=
      { name := "C", methods := [overload 0, { name := "g" }, { name := "f" }],
        interfaces := some ["I", "J"] }
    let after : ClassSymbol :=
      { name := "C", methods := [{ name := "g" }, overload 1, { name := "f" }],
        interfaces := some ["J", "I"] }
    let source : Source := { classes := [before, { name := "D" }] }
    let moved : Source := { classes := [{ name := "D" }, after] }
    source.Rearranged moved ∧
      Option.Rel Alike (compareSource "a.ts" source {}).value
        (compareSource "a.ts" moved {}).value ∧
      Option.Rel Alike (compareSource "a.ts" {} source).value
        (compareSource "a.ts" {} moved).value := by
  intro overload before after source moved
  have methods : Reordered Method.Renumbered before.methods after.methods := by
    apply Reordered.swap (by decide)
    exact .cons (.refl _) (.cons ⟨rfl, rfl, .cons ⟨1, rfl⟩ .nil⟩
      (.cons (.refl _) .nil))
  have classes : Reordered ClassSymbol.Rearranged
      source.classes moved.classes := by
    apply Reordered.swap (by decide)
    exact .cons (.refl _) (.cons ⟨rfl, rfl, methods, .refl (fun _ => rfl) _,
      rfl, .some (by decide)⟩ .nil)
  have rearranged : source.Rearranged moved :=
    ⟨classes, .refl .refl _, .refl (fun _ => rfl) _, .refl (fun _ => rfl) _⟩
  exact ⟨rearranged, compareSource_rearranged rearranged "a.ts" {}⟩

end SymbolDiff
