import SymbolDiff.Data.Reading
import SymbolDiff.Symbol.Basic

/-!
# Stored symbols

Symbols are stored as tables with one key for each part.  Reading fills in what
is left out and ignores keys it does not know; writing leaves nothing out.
-/

namespace SymbolDiff

/-- Text that may be missing, as data. -/
def Data.ofText? : Option String → Data
  | none => .null
  | some value => .text value

/-- A list of names that may be missing, as data. -/
def Data.ofNames? : Option (List String) → Data
  | none => .null
  | some names => .list (names.map .text)

def Parameter.toData (parameter : Parameter) : Data :=
  .table
    [("name", .text parameter.name), ("type", .text parameter.type),
      ("ordinal", .integer parameter.ordinal),
      ("is_optional", .bool parameter.isOptional)]

def Parameter.ofData : Data → Checked Parameter :=
  readRecord "ParameterRecord" fun entries =>
    Parameter.mk
      <$> required entries "name" readText
      <*> defaulted entries "type" unspecified readText
      <*> required entries "ordinal" readNatural
      <*> defaulted entries "is_optional" false readFlag

def Method.toData (method : Method) : Data :=
  .table
    [("name", .text method.name), ("return_type", .text method.returnType),
      ("parameters", .list (method.parameters.map Parameter.toData))]

def Method.ofData : Data → Checked Method :=
  readRecord "MethodRecord" fun entries =>
    Method.mk
      <$> required entries "name" readText
      <*> defaulted entries "return_type" unspecified readText
      <*> defaulted entries "parameters" [] (readSequence Parameter.ofData)

def visibilityChoices : List (String × Visibility) :=
  [("public", .publicly), ("private", .privately), ("protected", .protectedly)]

def Field.toData (field : Field) : Data :=
  .table
    [("name", .text field.name), ("type", .text field.type),
      ("value", .ofText? field.value),
      ("visibility", .text field.visibility.word),
      ("is_read_only", .bool field.isReadOnly)]

def Field.ofData : Data → Checked Field :=
  readRecord "FieldRecord" fun entries =>
    Field.mk
      <$> required entries "name" readText
      <*> defaulted entries "type" unspecified readText
      <*> defaulted entries "value" none (readOptional readText)
      <*> defaulted entries "visibility" .publicly
        (readChoice visibilityChoices)
      <*> defaulted entries "is_read_only" false readFlag

def ClassSymbol.toData (symbol : ClassSymbol) : Data :=
  .table
    [("name", .text symbol.name), ("is_exported", .bool symbol.isExported),
      ("methods", .list (symbol.methods.map Method.toData)),
      ("fields", .list (symbol.fields.map Field.toData)),
      ("base_class", .ofText? symbol.baseClass),
      ("interfaces", .ofNames? symbol.interfaces)]

def ClassSymbol.ofData : Data → Checked ClassSymbol :=
  readRecord "ClassRecord" fun entries =>
    ClassSymbol.mk
      <$> required entries "name" readText
      <*> defaulted entries "is_exported" false readFlag
      <*> defaulted entries "methods" [] (readSequence Method.ofData)
      <*> defaulted entries "fields" [] (readSequence Field.ofData)
      <*> defaulted entries "base_class" none (readOptional readText)
      <*> defaulted entries "interfaces" none
        (readOptional (readSequence readText))

def InterfaceSymbol.toData (symbol : InterfaceSymbol) : Data :=
  .table
    [("name", .text symbol.name), ("is_exported", .bool symbol.isExported),
      ("methods", .list (symbol.methods.map Method.toData)),
      ("fields", .list (symbol.fields.map Field.toData)),
      ("extends", .ofNames? symbol.extended)]

def InterfaceSymbol.ofData : Data → Checked InterfaceSymbol :=
  readRecord "InterfaceRecord" fun entries =>
    InterfaceSymbol.mk
      <$> required entries "name" readText
      <*> defaulted entries "is_exported" false readFlag
      <*> defaulted entries "methods" [] (readSequence Method.ofData)
      <*> defaulted entries "fields" [] (readSequence Field.ofData)
      <*> defaulted entries "extends" none
        (readOptional (readSequence readText))

def TypeAlias.toData (symbol : TypeAlias) : Data :=
  .table
    [("name", .text symbol.name), ("is_exported", .bool symbol.isExported),
      ("type", .text symbol.type)]

def TypeAlias.ofData : Data → Checked TypeAlias :=
  readRecord "TypeAliasRecord" fun entries =>
    TypeAlias.mk
      <$> required entries "name" readText
      <*> defaulted entries "is_exported" false readFlag
      <*> required entries "type" readText

def Variable.toData (symbol : Variable) : Data :=
  .table
    [("name", .text symbol.name), ("is_exported", .bool symbol.isExported),
      ("type", .text symbol.type), ("value", .ofText? symbol.value)]

def Variable.ofData : Data → Checked Variable :=
  readRecord "VariableRecord" fun entries =>
    Variable.mk
      <$> required entries "name" readText
      <*> defaulted entries "is_exported" false readFlag
      <*> defaulted entries "type" unspecified readText
      <*> defaulted entries "value" none (readOptional readText)

def Source.toData (source : Source) : Data :=
  .table
    [("classes", .list (source.classes.map ClassSymbol.toData)),
      ("interfaces", .list (source.interfaces.map InterfaceSymbol.toData)),
      ("types", .list (source.types.map TypeAlias.toData)),
      ("variables", .list (source.bindings.map Variable.toData))]

def Source.ofData : Data → Checked Source :=
  readRecord "SourceDetails" fun entries =>
    Source.mk
      <$> defaulted entries "classes" [] (readSequence ClassSymbol.ofData)
      <*> defaulted entries "interfaces" []
        (readSequence InterfaceSymbol.ofData)
      <*> defaulted entries "types" [] (readSequence TypeAlias.ofData)
      <*> defaulted entries "variables" [] (readSequence Variable.ofData)

end SymbolDiff
