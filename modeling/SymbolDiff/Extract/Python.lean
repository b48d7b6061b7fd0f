import SymbolDiff.Extract.Query

/-!
# Symbols of Python trees

Nothing is exported explicitly: a name is exported unless it starts with an
underscore.  A class that derives from `Protocol` is an interface.  Of `a = b =
value` each name is a binding of its own, with its own annotation and the value
they share.
-/

namespace SymbolDiff.Extract.Python

def rootKind : String := "module"

def protocolBases : List String :=
  ["Protocol", "typing.Protocol", "typing_extensions.Protocol"]

def aliasAnnotations : List String := ["TypeAlias", "typing.TypeAlias"]

/-- Kinds that hold the name of a parameter with a type. -/
def splatNameKinds : List String :=
  ["identifier", "list_splat_pattern", "dictionary_splat_pattern"]

/-- Parameters that are nothing but their name. -/
def bareParameterKinds : List String := splatNameKinds ++ ["tuple_pattern"]

/-- Parameters with a name, unlike the separators between them. -/
def parameterKinds : List String :=
  bareParameterKinds ++
    ["typed_parameter", "default_parameter", "typed_default_parameter"]

/-- A leading underscore keeps a name inside its module. -/
def isExported (name : String) : Bool :=
  decide (name.toList.head? ≠ some '_')

/-- Whether a text starts with another. -/
def startsWith (start text : String) : Bool :=
  start.toList.isPrefixOf text.toList

/-- Two leading underscores hide a name, unless two close it; one protects it.
-/
def visibilityOf (name : String) : Visibility :=
  if startsWith "__" name then
    if "__".toList.isSuffixOf name.toList then .publicly else .privately
  else if startsWith "_" name then .protectedly
  else .publicly

/-- The definition that decorators stand before. -/
def undecorated (source : ByteArray) (tree : Tree) : Except Fault Tree :=
  if tree.kind = "decorated_definition" then
    requireChild source tree "definition"
  else .ok tree

def extractParameter (source : ByteArray) (ordinal : Nat) (tree : Tree) :
    Except Fault Parameter :=
  if bareParameterKinds.contains tree.kind then do
    let name ← textOf source tree
    return { name, ordinal }
  else if tree.kind = "typed_parameter" then
    match tree.firstOfKind? splatNameKinds with
    | none => .error (.found source tree .namelessParameter)
    | some nameTree => do
      let name ← textOf source nameTree
      let type ← annotationText source (tree.child? "type")
      return { name, type, ordinal }
  else do
    let name ← textOfChild source tree "name"
    let type ← annotationText source (tree.child? "type")
    return { name, type, ordinal, isOptional := true }

/-- The parameters of a list of nodes, numbered from `ordinal`. -/
def extractParameters (source : ByteArray) :
    Nat → List Tree → Except Fault (List Parameter)
  | _, [] => .ok []
  | ordinal, tree :: rest => do
    let parameter ← extractParameter source ordinal tree
    let following ← extractParameters source (ordinal + 1) rest
    return parameter :: following

def extractMethod (source : ByteArray) (tree : Tree) : Except Fault Method := do
  let list ← requireChild source tree "parameters"
  let name ← textOfChild source tree "name"
  let returnType ← annotationText source (tree.child? "return_type")
  let parameters ← extractParameters source 0
    (list.namedChildren.filter fun parameter =>
      parameterKinds.contains parameter.kind)
  return { name, returnType, parameters }

/-- The assignment that a statement is, if it is one. -/
def statementAssignment? (statement : Tree) : Option Tree :=
  if statement.kind = "expression_statement" then
    statement.firstOfKind? ["assignment"]
  else none

/-- A name that an assignment binds, with the assignment that binds it. -/
structure Link where
  name : String
  assignment : Tree

/-- The link of an assignment itself: only a plain name makes one. -/
def ownLink (source : ByteArray) (left assignment : Tree) :
    Except Fault (List Link) :=
  if left.kind = "identifier" then
    (textOf source left).map fun name => [⟨name, assignment⟩]
  else .ok []

theorem size_lt_of_child? {tree right : Tree} {role : String}
    (found : tree.child? role = some right) : right.size < tree.size := by
  obtain ⟨head, children⟩ := tree
  have member : right ∈ children := List.mem_of_find?_eq_some found
  have bounded : right.size ≤ Tree.sizeList children := by
    clear found
    induction children with
    | nil => simp at member
    | cons first rest hypothesis =>
      rw [Tree.sizeList]
      rcases List.mem_cons.mp member with equal | later
      · subst equal
        omega
      · have := hypothesis later
        omega
  rw [Tree.size]
  omega

/-- The named targets of a chain of assignments, from left to right, and the
value they share. -/
def assignmentLinks (source : ByteArray) (assignment : Tree) :
    Except Fault (List Link × Option Tree) :=
  match requireChild source assignment "left" with
  | .error fault => .error fault
  | .ok left =>
    match ownLink source left assignment with
    | .error fault => .error fault
    | .ok own =>
      match _found : assignment.child? "right" with
      | none => .ok (own, none)
      | some right =>
        if right.kind = "assignment" then
          (assignmentLinks source right).map fun further =>
            (own ++ further.1, further.2)
        else .ok (own, some right)
termination_by assignment.size
decreasing_by exact size_lt_of_child? _found

/-- A type that forbids a second assignment. -/
def isReadOnlyType (type : String) : Bool :=
  type = "Final" || type = "typing.Final" || startsWith "Final[" type ||
    startsWith "typing.Final[" type

/-- The field of one link. -/
def extractField (source : ByteArray) (value : Option String) (link : Link) :
    Except Fault Field := do
  let type ← annotationText source (link.assignment.child? "type")
  return {
    name := link.name, type, value, visibility := visibilityOf link.name
    isReadOnly := isReadOnlyType type }

/-- The fields that one statement of a class body declares. -/
def statementFields (source : ByteArray) (statement : Tree) :
    Except Fault (List Field) :=
  match statementAssignment? statement with
  | none => .ok []
  | some assignment => do
    let (links, valueTree) ← assignmentLinks source assignment
    let value ← textOf? source valueTree
    links.mapM (extractField source value)

def extractFields (source : ByteArray) (body : Tree) :
    Except Fault (List Field) := do
  let perStatement ← body.namedChildren.mapM (statementFields source)
  return perStatement.flatten

/-- The method that a member of a class body is, if it is one, with or without
decorators. -/
def memberMethod (source : ByteArray) (member : Tree) :
    Except Fault (List Method) :=
  if member.kind = "function_definition" ||
    member.kind = "decorated_definition" then do
    let definition ← undecorated source member
    if definition.kind = "function_definition" then
      let method ← extractMethod source definition
      return [method]
    else return []
  else .ok []

def extractMethods (source : ByteArray) (body : Tree) :
    Except Fault (List Method) := do
  let perMember ← body.namedChildren.mapM (memberMethod source)
  return perMember.flatten

/-- Arguments of a class that are no base classes. -/
def nonBaseKinds : List String :=
  ["keyword_argument", "list_splat", "dictionary_splat"]

/-- A base class as written, without the parameters it is applied to. -/
def extractBase (source : ByteArray) (base : Tree) : Except Fault String :=
  if base.kind = "subscript" then textOfChild source base "value"
  else textOf source base

/-- The positional base classes. -/
def extractBases (source : ByteArray) (tree : Tree) :
    Except Fault (List String) :=
  match tree.child? "superclasses" with
  | none => .ok []
  | some list =>
    (list.significantChildren.filter fun base =>
      !nonBaseKinds.contains base.kind).mapM
      (extractBase source)

/-- A list that counts only when it has members. -/
def nonEmpty? (names : List String) : Option (List String) :=
  if names.isEmpty then none else some names

/-- A class that is a protocol is an interface. -/
def extractClass (source : ByteArray) (tree : Tree) :
    Except Fault (ClassSymbol ⊕ InterfaceSymbol) := do
  let name ← textOfChild source tree "name"
  let body ← requireChild source tree "body"
  let bases ← extractBases source tree
  let methods ← extractMethods source body
  let fields ← extractFields source body
  if bases.any protocolBases.contains then
    return .inr {
      name, isExported := isExported name, methods, fields
      extended :=
        nonEmpty? (bases.filter fun base => !protocolBases.contains base) }
  else
    return .inl {
      name, isExported := isExported name, methods, fields
      baseClass := bases.head?, interfaces := nonEmpty? bases.tail }

/-- An assignment is at module level when its statement is. -/
def isModuleAssignment (assignment : Located) : Bool :=
  assignment.grandparentKind? = some rootKind

/-- Whether an assignment is annotated as the definition of a type. -/
def isAliasAssignment (source : ByteArray) (assignment : Tree) :
    Except Fault Bool :=
  match assignment.child? "type" with
  | none => .ok false
  | some type =>
    if (assignment.child? "right").isSome then do
      let annotation ← annotationText source (some type)
      return aliasAnnotations.contains annotation
    else .ok false

/-- The name that a type statement defines; its type parameters are not part of
it. -/
def aliasName (source : ByteArray) (left : Tree) : Except Fault String :=
  if left.kind = "identifier" then textOf source left
  else match (Located.root left).descendantsOfKind ["identifier"] with
    | first :: _ => textOf source first.tree
    | [] => .error (.found source left .namelessAlias)

def extractAliasStatement (source : ByteArray) (tree : Tree) :
    Except Fault TypeAlias := do
  let left ← requireChild source tree "left"
  let name ← aliasName source left
  let type ← textOfChild source tree "right"
  return { name, isExported := isExported name, type }

def extractAliasAssignment (source : ByteArray) (assignment : Tree) :
    Except Fault TypeAlias := do
  let name ← textOfChild source assignment "left"
  let type ← textOfChild source assignment "right"
  return { name, isExported := isExported name, type }

def extractVariable (source : ByteArray) (value : Option Tree) (link : Link) :
    Except Fault Variable := do
  let type ← annotationText source (link.assignment.child? "type")
  let text ← textOf? source value
  return { name := link.name, isExported := isExported link.name, type,
           value := text }

/-- What an assignment or a type statement adds to the module: aliases and
variables. -/
def extractBinding (source : ByteArray) (binding : Located) :
    Except Fault (List TypeAlias × List Variable) :=
  if binding.kind = "type_alias_statement" then
    if binding.parentKind? = some rootKind then
      (extractAliasStatement source binding.tree).map fun type => ([type], [])
    else .ok ([], [])
  else if isModuleAssignment binding then do
    let (links, value) ← assignmentLinks source binding.tree
    if links.isEmpty then return ([], [])
    if ← isAliasAssignment source binding.tree then
      let type ← extractAliasAssignment source binding.tree
      return ([type], [])
    else
      let bound ← links.mapM (extractVariable source value)
      return ([], bound)
  else .ok ([], [])

/-- The symbols that a file declares. -/
def extractRoot (source : ByteArray) (tree : Tree) : Except Fault Source := do
  let root := Located.root tree
  let symbols ←
    (root.descendantsOfKind ["class_definition"]).mapM fun located =>
    extractClass source located.tree
  let bound ←
    (root.descendantsOfKind ["assignment", "type_alias_statement"]).mapM
    (extractBinding source)
  return {
    classes := symbols.filterMap Sum.getLeft?
    interfaces := symbols.filterMap Sum.getRight?
    types := (bound.map Prod.fst).flatten
    bindings := (bound.map Prod.snd).flatten }

end SymbolDiff.Extract.Python
