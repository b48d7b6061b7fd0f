import SymbolDiff.Scalar
import SymbolDiff.Symbol.Basic
import SymbolDiff.Text.Order

/-!
# Comparing symbols

Each comparison takes an old and a new symbol of one name and gives a changed
entry that describes how they differ, or nothing when they agree.  The position
of a parameter counts, because calls depend on it; the order of members and
declarations does not.  Two comparisons run in `Traced`, because repeated names
are remarked upon.
-/

namespace SymbolDiff

/-- The entry of a symbol whose parts were compared. -/
def changed (label : String) (results : List (Option Node)) : Option Node :=
  Node.gather label .changed results

/-- Names in code point order, as one text; no list is not the same as an empty
one. -/
def sortedNames (names : Option (List String)) : Scalar :=
  .ofText? (names.map fun present =>
    ", ".intercalate (Text.inOrder present))

def compareParameter (old new : Parameter) : Option Node :=
  changed old.name
    [compareScalar "Type" (.text old.type) (.text new.type),
      compareScalar "Optional" (.flag old.isOptional) (.flag new.isOptional)]

def compareMethod (old new : Method) : Traced (Option Node) := do
  let parameters ←
    compareItems Traced.remark
      (fun first second => pure (compareParameter first second))
    true "Parameters" old.parameters new.parameters
  return changed old.name
    [parameters,
      compareScalar "Return Type" (.text old.returnType) (.text new.returnType)]

def compareField (old new : Field) : Option Node :=
  changed old.name
    [compareScalar "Type" (.text old.type) (.text new.type),
      compareScalar "Value" (.ofText? old.value) (.ofText? new.value),
      compareScalar "Visibility" (.text old.visibility.word)
        (.text new.visibility.word),
      compareScalar "Read Only" (.flag old.isReadOnly) (.flag new.isReadOnly)]

def compareMethods (old new : List Method) : Traced (Option Node) :=
  compareItems Traced.remark compareMethod false "Methods" old new

def compareFields (old new : List Field) : Traced (Option Node) :=
  compareItems Traced.remark
    (fun first second => pure (compareField first second)) false "Fields"
    old new

def compareClass (old new : ClassSymbol) : Traced (Option Node) := do
  let methods ← compareMethods old.methods new.methods
  let fields ← compareFields old.fields new.fields
  return changed old.name
    [methods, fields,
      compareScalar "Base Class" (.ofText? old.baseClass)
        (.ofText? new.baseClass),
      compareScalar "Interfaces" (sortedNames old.interfaces)
        (sortedNames new.interfaces),
      compareScalar "Exported" (.flag old.isExported) (.flag new.isExported)]

def compareInterface (old new : InterfaceSymbol) : Traced (Option Node) := do
  let methods ← compareMethods old.methods new.methods
  let fields ← compareFields old.fields new.fields
  return changed old.name
    [methods, fields,
      compareScalar "Extends" (sortedNames old.extended)
        (sortedNames new.extended),
      compareScalar "Exported" (.flag old.isExported) (.flag new.isExported)]

def compareTypeAlias (old new : TypeAlias) : Option Node :=
  changed old.name
    [compareScalar "Type" (.text old.type) (.text new.type),
      compareScalar "Exported" (.flag old.isExported) (.flag new.isExported)]

def compareVariable (old new : Variable) : Option Node :=
  changed old.name
    [compareScalar "Type" (.text old.type) (.text new.type),
      compareScalar "Value" (.ofText? old.value) (.ofText? new.value),
      compareScalar "Exported" (.flag old.isExported) (.flag new.isExported)]

/-- Compares everything that two versions of one file declare; the label names
the file. -/
def compareSource (label : String) (old new : Source) :
    Traced (Option Node) := do
  let classes ←
    compareItems Traced.remark compareClass false "Classes" old.classes
      new.classes
  let interfaces ←
    compareItems Traced.remark compareInterface false "Interfaces"
      old.interfaces new.interfaces
  let types ←
    compareItems Traced.remark
      (fun first second => pure (compareTypeAlias first second)) false
      "Type Aliases" old.types new.types
  let bindings ←
    compareItems Traced.remark
      (fun first second => pure (compareVariable first second)) false
      "Variables" old.bindings new.bindings
  return changed label [classes, interfaces, types, bindings]

end SymbolDiff
