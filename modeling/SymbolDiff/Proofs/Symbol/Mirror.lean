import SymbolDiff.Proofs.Reconcile.TwoRuns
import SymbolDiff.Symbol.Comparison

/-!
# Comparing in the other direction

A comparison goes along the new side, reports removals first and takes labels
from the old side.  All the same, exchanging the sides exchanges additions
and removals and changes nothing else but the order of entries.  The law is
carried through the comparisons from the parameters up to whole sources.
-/

namespace SymbolDiff

open Node

theorem mirrored_compareScalar (label : String) (old new : Scalar) :
    Mirrored (compareScalar label new old) (compareScalar label old new) := by
  rw [Mirrored, compareScalar, compareScalar]
  by_cases same : old = new
  · rw [if_pos same, if_pos same.symm]
    exact Option.Rel.none
  · rw [if_neg same, if_neg (Ne.symm same)]
    exact Option.Rel.some (alike_replaced_mirror _ _ _)

theorem mirrored_changed
    (label : String) {backward forward : List (Option Node)}
    (results : List.Forall₂ Mirrored backward forward) :
    Mirrored (changed label backward) (changed label forward) :=
  Mirrored.gather label rfl results

theorem mirrored_compareParameter
    {old new : Parameter} (sameName : old.name = new.name) :
    Mirrored (compareParameter new old) (compareParameter old new) := by
  rw [compareParameter, compareParameter, sameName]
  apply mirrored_changed
  exact .cons (mirrored_compareScalar _ _ _)
    (.cons (mirrored_compareScalar _ _ _) .nil)

theorem mirrored_compareMethod
    {old new : Method} (sameName : old.name = new.name) :
    Mirrored (compareMethod new old).value (compareMethod old new).value := by
  have parameters := mirrored_compareItems
    (fun first second => pure (compareParameter first second))
    (fun _ _ same => mirrored_compareParameter same)
    true "Parameters" old.parameters new.parameters
  simp only [compareMethod, Traced.value_bind, Traced.value_pure, sameName]
  apply mirrored_changed
  exact .cons parameters (.cons (mirrored_compareScalar _ _ _) .nil)

theorem mirrored_compareField
    {old new : Field} (sameName : old.name = new.name) :
    Mirrored (compareField new old) (compareField old new) := by
  rw [compareField, compareField, sameName]
  apply mirrored_changed
  exact .cons (mirrored_compareScalar _ _ _)
    (.cons (mirrored_compareScalar _ _ _)
      (.cons (mirrored_compareScalar _ _ _)
        (.cons (mirrored_compareScalar _ _ _) .nil)))

theorem mirrored_compareMethods (old new : List Method) :
    Mirrored (compareMethods new old).value
      (compareMethods old new).value :=
  mirrored_compareItems compareMethod
    (fun _ _ same => mirrored_compareMethod same) false "Methods" old new

theorem mirrored_compareFields (old new : List Field) :
    Mirrored (compareFields new old).value (compareFields old new).value :=
  mirrored_compareItems
    (fun first second => pure (compareField first second))
    (fun _ _ same => mirrored_compareField same) false "Fields" old new

theorem mirrored_compareClass
    {old new : ClassSymbol} (sameName : old.name = new.name) :
    Mirrored (compareClass new old).value (compareClass old new).value := by
  simp only [compareClass, Traced.value_bind, Traced.value_pure, sameName]
  apply mirrored_changed
  exact .cons (mirrored_compareMethods _ _)
    (.cons (mirrored_compareFields _ _)
      (.cons (mirrored_compareScalar _ _ _)
        (.cons (mirrored_compareScalar _ _ _)
          (.cons (mirrored_compareScalar _ _ _) .nil))))

theorem mirrored_compareInterface
    {old new : InterfaceSymbol} (sameName : old.name = new.name) :
    Mirrored (compareInterface new old).value
      (compareInterface old new).value := by
  simp only [compareInterface, Traced.value_bind, Traced.value_pure,
    sameName]
  apply mirrored_changed
  exact .cons (mirrored_compareMethods _ _)
    (.cons (mirrored_compareFields _ _)
      (.cons (mirrored_compareScalar _ _ _)
        (.cons (mirrored_compareScalar _ _ _) .nil)))

theorem mirrored_compareTypeAlias
    {old new : TypeAlias} (sameName : old.name = new.name) :
    Mirrored (compareTypeAlias new old) (compareTypeAlias old new) := by
  rw [compareTypeAlias, compareTypeAlias, sameName]
  apply mirrored_changed
  exact .cons (mirrored_compareScalar _ _ _)
    (.cons (mirrored_compareScalar _ _ _) .nil)

theorem mirrored_compareVariable
    {old new : Variable} (sameName : old.name = new.name) :
    Mirrored (compareVariable new old) (compareVariable old new) := by
  rw [compareVariable, compareVariable, sameName]
  apply mirrored_changed
  exact .cons (mirrored_compareScalar _ _ _)
    (.cons (mirrored_compareScalar _ _ _)
      (.cons (mirrored_compareScalar _ _ _) .nil))

theorem mirrored_compareSource (label : String) (old new : Source) :
    Mirrored (compareSource label new old).value
      (compareSource label old new).value := by
  have classes := mirrored_compareItems compareClass
    (fun _ _ same => mirrored_compareClass same)
    false "Classes" old.classes new.classes
  have interfaces := mirrored_compareItems compareInterface
    (fun _ _ same => mirrored_compareInterface same)
    false "Interfaces" old.interfaces new.interfaces
  have types := mirrored_compareItems
    (fun first second => pure (compareTypeAlias first second))
    (fun _ _ same => mirrored_compareTypeAlias same)
    false "Type Aliases" old.types new.types
  have bindings := mirrored_compareItems
    (fun first second => pure (compareVariable first second))
    (fun _ _ same => mirrored_compareVariable same)
    false "Variables" old.bindings new.bindings
  simp only [compareSource, Traced.value_bind, Traced.value_pure]
  apply mirrored_changed
  exact .cons classes
    (.cons interfaces (.cons types (.cons bindings .nil)))

/-- Comparing two sources in the other direction reports the mirror, so the
numbers of additions and removals are exchanged and the numbers of changes
and headings are the same. -/
theorem compareSource_exchange (label : String) (old new : Source) :
    Mirrored (compareSource label new old).value
        (compareSource label old new).value ∧
      countIn .added (compareSource label new old).value =
        countIn .removed (compareSource label old new).value ∧
      countIn .removed (compareSource label new old).value =
        countIn .added (compareSource label old new).value ∧
      countIn .changed (compareSource label new old).value =
        countIn .changed (compareSource label old new).value ∧
      countIn .outline (compareSource label new old).value =
        countIn .outline (compareSource label old new).value := by
  have mirrored := mirrored_compareSource label old new
  exact ⟨mirrored, mirrored.countIn_eq .added, mirrored.countIn_eq .removed,
    mirrored.countIn_eq .changed, mirrored.countIn_eq .outline⟩

end SymbolDiff
