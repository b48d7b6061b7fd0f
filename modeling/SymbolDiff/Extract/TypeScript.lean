import SymbolDiff.Extract.Query

/-!
# Symbols of TypeScript trees

Classes, interfaces and type aliases are taken wherever they are declared;
variables only at the top level of the file.  A declaration is exported when an
export statement encloses it directly, where `declare` does not count as
enclosing.
-/

namespace SymbolDiff.Extract.TypeScript

def exportWrapper : String := "export_statement"

def ambientWrapper : String := "ambient_declaration"

def rootKind : String := "program"

def classKinds : List String :=
  ["class_declaration", "abstract_class_declaration"]

def methodKinds : List String :=
  ["method_definition", "method_signature", "abstract_method_signature"]

def parameterKinds : List String := ["required_parameter", "optional_parameter"]

/-- The kind that encloses something whose enclosing kinds are given, looking
through `declare`. -/
def enclosingKind? : List String → Option String
  | [] => none
  | parent :: above =>
    if parent = ambientWrapper then above.head? else some parent

/-- Whether a declaration stands in an export statement. -/
def isExported (declaration : Located) : Bool :=
  enclosingKind? declaration.ancestors = some exportWrapper

/-- What encloses the declaration that a declarator belongs to. -/
def declarationEnclosure? (declarator : Located) : Option String :=
  match declarator.ancestors with
  | [] => none
  | _ :: above => enclosingKind? above

/-- A declarator is at module level when its declaration is, exported or not. -/
def isModuleVariable (declarator : Located) : Bool :=
  match declarationEnclosure? declarator with
  | some kind => kind = exportWrapper || kind = rootKind
  | none => false

def extractParameter (source : ByteArray) (ordinal : Nat) (tree : Tree) :
    Except Fault Parameter := do
  let name ← textOfChild source tree "pattern"
  let type ← annotationText source (tree.child? "type")
  return {
    name, type, ordinal
    isOptional := tree.kind = "optional_parameter" ||
      (tree.child? "value").isSome }

/-- The parameters of a list of nodes, numbered from `ordinal`. -/
def extractParameters (source : ByteArray) :
    Nat → List Tree → Except Fault (List Parameter)
  | _, [] => .ok []
  | ordinal, tree :: rest => do
    let parameter ← extractParameter source ordinal tree
    let following ← extractParameters source (ordinal + 1) rest
    return parameter :: following

def extractMethod (source : ByteArray) (tree : Tree) : Except Fault Method := do
  let list ← requireChild source tree "parameters"
  let name ← textOfChild source tree "name"
  let returnType ← annotationText source (tree.child? "return_type")
  let parameters ←
    extractParameters source 0 (list.childrenOfKind parameterKinds)
  return { name, returnType, parameters }

/-- A hash in front of a name makes it private; else the modifier says. -/
def fieldVisibility (source : ByteArray) (tree name : Tree) :
    Except Fault Visibility :=
  if name.kind = "private_property_identifier" then .ok .privately
  else match tree.firstOfKind? ["accessibility_modifier"] with
    | none => .ok .publicly
    | some modifier => do
      let word ← textOf source modifier
      if word = "private" then return .privately
      else if word = "protected" then return .protectedly
      else return .publicly

/-- A field whose name stands in the given role. -/
def extractFieldNamed (source : ByteArray) (role : String) (tree : Tree) :
    Except Fault Field := do
  let nameTree ← requireChild source tree role
  let name ← textOf source nameTree
  let type ← annotationText source (tree.child? "type")
  let value ← textOf? source (tree.child? "value")
  let visibility ← fieldVisibility source tree nameTree
  return { name, type, value, visibility,
           isReadOnly := tree.hasToken "readonly" }

def extractField (source : ByteArray) (tree : Tree) : Except Fault Field :=
  extractFieldNamed source "name" tree

/-- A modifier on a constructor's parameter declares a field as well. -/
def isParameterProperty (parameter : Tree) : Bool :=
  (parameter.firstOfKind? ["accessibility_modifier"]).isSome ||
    parameter.hasToken "readonly"

/-- The fields that the parameters of one method declare, if it is the
constructor. -/
def constructorFields (source : ByteArray) (method : Tree) :
    Except Fault (List Field) := do
  let name ← textOfChild source method "name"
  if name ≠ "constructor" then return []
  let list ← requireChild source method "parameters"
  ((list.childrenOfKind parameterKinds).filter isParameterProperty).mapM
    (extractFieldNamed source "pattern")

/-- The fields that constructor parameters declare. -/
def extractParameterProperties (source : ByteArray) (body : Tree) :
    Except Fault (List Field) := do
  let perMethod ←
    (body.childrenOfKind ["method_definition"]).mapM (constructorFields source)
  return perMethod.flatten

/-- The base class of a heritage clause. -/
def extractBaseClass (source : ByteArray) (heritage : Tree) :
    Except Fault (Option String) :=
  match heritage.firstOfKind? ["extends_clause"] with
  | some clause => (textOfChild source clause "value").map some
  | none => .ok none

/-- The names that a clause lists, when there is one. -/
def extractNames (source : ByteArray) :
    Option Tree → Except Fault (Option (List String))
  | some clause => (clause.significantChildren.mapM (textOf source)).map some
  | none => .ok none

/-- The base class and the implemented interfaces of a class. -/
def extractHeritage (source : ByteArray) (tree : Tree) :
    Except Fault (Option String × Option (List String)) :=
  match tree.firstOfKind? ["class_heritage"] with
  | none => .ok (none, none)
  | some heritage => do
    let baseClass ← extractBaseClass source heritage
    let interfaces ←
      extractNames source (heritage.firstOfKind? ["implements_clause"])
    return (baseClass, interfaces)

def extractClass (source : ByteArray) (declaration : Located) :
    Except Fault ClassSymbol := do
  let tree := declaration.tree
  let body ← requireChild source tree "body"
  let (baseClass, interfaces) ← extractHeritage source tree
  let name ← textOfChild source tree "name"
  let methods ← (body.childrenOfKind methodKinds).mapM (extractMethod source)
  let declared ←
    (body.childrenOfKind ["public_field_definition"]).mapM (extractField source)
  let properties ← extractParameterProperties source body
  return {
    name, isExported := isExported declaration, methods, fields := declared ++
      properties
    baseClass, interfaces }

/-- A property of an interface has neither a value nor a visibility of its own.
-/
def extractProperty (source : ByteArray) (tree : Tree) :
    Except Fault Field := do
  let name ← textOfChild source tree "name"
  let type ← annotationText source (tree.child? "type")
  return { name, type, isReadOnly := tree.hasToken "readonly" }

def extractInterface (source : ByteArray) (declaration : Located) :
    Except Fault InterfaceSymbol := do
  let tree := declaration.tree
  let body ← requireChild source tree "body"
  let extended ← extractNames source (tree.firstOfKind? ["extends_type_clause"])
  let name ← textOfChild source tree "name"
  let methods ←
    (body.childrenOfKind ["method_signature"]).mapM (extractMethod source)
  let fields ←
    (body.childrenOfKind ["property_signature"]).mapM (extractProperty source)
  return { name, isExported := isExported declaration, methods, fields,
           extended }

def extractTypeAlias (source : ByteArray) (declaration : Located) :
    Except Fault TypeAlias := do
  let name ← textOfChild source declaration.tree "name"
  let type ← textOfChild source declaration.tree "value"
  return { name, isExported := isExported declaration, type }

def extractVariable (source : ByteArray) (declarator : Located) :
    Except Fault Variable := do
  let tree := declarator.tree
  let name ← textOfChild source tree "name"
  let type ← annotationText source (tree.child? "type")
  let value ← textOf? source (tree.child? "value")
  return {
    name, type, value
    isExported := declarationEnclosure? declarator = some exportWrapper }

/-- The symbols that a file declares. -/
def extractRoot (source : ByteArray) (tree : Tree) : Except Fault Source := do
  let root := Located.root tree
  let classes ← (root.descendantsOfKind classKinds).mapM (extractClass source)
  let interfaces ←
    (root.descendantsOfKind ["interface_declaration"]).mapM
      (extractInterface source)
  let types ←
    (root.descendantsOfKind ["type_alias_declaration"]).mapM
      (extractTypeAlias source)
  let bindings ←
    ((root.descendantsOfKind ["variable_declarator"]).filter
      isModuleVariable).mapM
      (extractVariable source)
  return { classes, interfaces, types, bindings }

end SymbolDiff.Extract.TypeScript
