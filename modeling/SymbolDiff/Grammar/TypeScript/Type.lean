import SymbolDiff.Grammar.TypeScript.Lexeme

/-!
# Types of TypeScript

Types, the members of object types and interfaces, and parameters.  Only the
extent of a type matters, so operators are read as a flat sequence without
regard for how tightly they bind.
-/

namespace SymbolDiff.Grammar.TypeScript

open Expression Bytes

/-- A colon and a type, in a role. -/
def typed (role : String) : Reader :=
  inRole role "type_annotation" (.both (token ":") (.rule (.typeNode false)))

/-- The type of what is declared. -/
def declaredType : Reader :=
  optional (typed "type")

/-- The type of what is returned. -/
def returnType : Reader :=
  optional (typed "return_type")

/-- An equals sign and the value after it. -/
def initializer : Reader :=
  optional (.both (tokenBut "=" "=>") (.rule .initialValue))

def typeParameters : Reader :=
  optional (.rule .typeParameters)

/-- The list of parameters, in its role. -/
def parameters : Reader :=
  inRole "parameters" "formal_parameters" (.rule .parameters)

/-- A call of something that decorates what follows. -/
def decorator : Reader :=
  tree "decorator" (.both (token "@") (any
    [enclosed "(" (.rule .expression) ")",
      all [identifier, .many (.both (token ".") anyWord),
        optional (.rule .typeArguments),
        optional (enclosed "(" (withHoles (.both (optional (token "..."))
          (.rule (.assignment false)))) ")")]]))

def decorators : Reader :=
  .many decorator

/-- What may stand on the left of a binding. -/
def bindingTarget : Reader :=
  any [.rule .object, .rule .array, identifier]

/-- What may stand on the left of a binding, as a node in a role. -/
def bindingNode (role : String) : Reader :=
  any [inRole role "object_pattern" (.rule .object),
    inRole role "array_pattern" (.rule .array),
    inRole role "identifier" identifier]

/-- Holds where the name of a member may start. -/
def memberNameAhead : Reader :=
  .ahead (.both .skip (any [rawWord, .one isDigit, oneOf "'\"[#*"]))

/-- Holds where the target of a parameter may start. -/
def targetAhead : Reader :=
  .ahead (.both .skip (any [rawWord, oneOf "\x7b[", raw "..."]))

/-- A modifier that says from where a member can be used. -/
def accessibility (following : Reader) : Reader :=
  .both (tree "accessibility_modifier"
    (any [word "public", word "private", word "protected"]))
    following

/-- The mark of something that is only read. -/
def readOnly (following : Reader) : Reader :=
  .both (.node "readonly" none false (word "readonly")) following

/-- A modifier that leaves no node. -/
def modifier (following : Reader) (text : String) : Reader :=
  .both (word text) following

/-- The parts of a parameter up to its target. -/
def parameterTarget : Reader :=
  all [decorators,
    .many (any
      [accessibility targetAhead, readOnly targetAhead,
        modifier targetAhead "override"]),
    any [bindingNode "pattern",
      inRole "pattern" "this" (word "this"),
      inRole "pattern" "rest_pattern" (.both (token "...") bindingTarget)]]

def parameter : Reader :=
  any
    [tree "optional_parameter"
      (all [parameterTarget, token "?", declaredType, initializer]),
      tree "required_parameter"
        (all [parameterTarget, declaredType, initializer])]

/-- The name of a member, in its role. -/
def memberName : Reader :=
  any
    [inRole "name" "private_property_identifier"
      (all [.skip, raw "#", rawWord]),
      inRole "name" "computed_property_name"
        (enclosed "[" (.rule .expression) "]"),
      inRole "name" "property_identifier" anyWord,
      inRole "name" "string" stringLiteral,
      inRole "name" "number" numberLiteral]

/-- Type parameters, parameters and what is returned. -/
def signature : Reader :=
  all [typeParameters, parameters, returnType]

/-- A key that stands for many properties. -/
def indexSignature : Reader :=
  all [enclosed "[" (all [identifier, token ":", .rule .type]) "]",
    declaredType]

/-- A key that runs through the members of a type. -/
def mappedMember : Reader :=
  all [optional (all [optional (.both .skip (oneOf "+-")), word "readonly"]),
    enclosed "["
      (all [identifier, word "in", .rule .type,
        optional (.both (word "as") (.rule .type))]) "]",
    optional (.both .skip (oneOf "+-")), optional (token "?"), declaredType]

/-- One member of an object type or interface. -/
def typeMember : Reader :=
  any
    [mappedMember,
      .both (optional (word "readonly")) indexSignature,
      all [optional (word "new"), signature],
      tree "method_signature" (all
        [.many (any
          [modifier memberNameAhead "get", modifier memberNameAhead "set"]),
          memberName, optional (token "?"), signature]),
      tree "property_signature" (all
        [.many (any [accessibility memberNameAhead, readOnly memberNameAhead]),
          memberName, optional (token "?"), declaredType])]

/-- The members of an object type or interface, with their braces. -/
def members : Reader :=
  enclosed "\x7b" (.many (any [token ";", token ",", typeMember])) "\x7d"

/-- Names with dots between them. -/
def qualifiedName : Reader :=
  .both typeWord (.many (.both (token ".") anyWord))

/-- Type arguments on the line of what they are applied to. -/
def appliedTo : Reader :=
  optional (.both sameLine (.rule .typeArguments))

/-- A function from parameters to a type. -/
def functionType : Reader :=
  all [optional (.both (optional (word "abstract")) (word "new")),
    typeParameters,
    tree "formal_parameters" (.rule .parameters), token "=>", .rule .type]

/-- A type taken from a module. -/
def importedType : Reader :=
  all [word "import", enclosed "(" (commaSeparated (.rule .type)) ")",
    .many (.both (token ".") anyWord)]

/-- The type of a value. -/
def queriedType : Reader :=
  all [word "typeof",
    any [importedType, all [.skip, rawWord, .many (.both (token ".")
    (any [anyWord, all [.skip, raw "#", rawWord]]))]]]

/-- A member of a tuple type. -/
def tupleMember : Reader :=
  all [optional (token "..."),
    any [all [anyWord, optional (token "?"), token ":", .rule .type],
      .both (.rule .type) (optional (token "?"))]]

def typePrimary : Reader :=
  any
    [functionType,
      enclosed "(" (.rule .type) ")",
      enclosed "[" (commaSeparated tupleMember) "]",
      .rule .members,
      .rule .typeTemplate,
      stringLiteral,
      .both (optional (token "-")) numberLiteral,
      word "const",
      .both importedType appliedTo,
      .both queriedType appliedTo,
      .both qualifiedName appliedTo]

/-- A type with the brackets that may follow it. -/
def typePostfix : Reader :=
  .both typePrimary
    (.many (.both sameLine (enclosed "[" (optional (.rule .type)) "]")))

/-- A type with the operators that may stand before it. -/
def typeOperand : Reader :=
  any
    [.both (any [word "keyof", word "unique", word "readonly"])
      (.rule .typeOperand),
      all [word "infer", identifier,
        optional (.both (word "extends") (.rule .typeOperand))],
      typePostfix]

/-- Any type, with assertions about a name among them. -/
def type : Reader :=
  any
    [all [word "asserts", sameLine, any [word "this", identifier],
        optional (.both (word "is") (.rule .type))],
      all [any [word "this", identifier], sameLine, word "is", .rule .type],
      all [optional (.both .skip (oneOf "|&")), .rule .typeOperand,
        .many (all [.skip, oneOf "|&", .rule .typeOperand]),
        optional
          (all [word "extends", .rule .type, token "?", .rule .type, token ":",
          .rule .type])]]

/-- Holds where a type is at its end. -/
def typeEnds : Reader :=
  .unless (any
    [.both .skip (oneOf "|&"), .both sameLine (token "["), word "extends"])

/-- A type as a node whose kind says what it is. -/
def typeNode (isValue : Bool) : Reader :=
  let form (kind : String) (body : Reader) : Reader :=
    .node kind (if isValue then Option.some "value" else none) true body
  let alone (kind : String) (body : Reader) : Reader :=
    form kind (.both body typeEnds)
  let joined (marks : String) : Reader :=
    Expression.some (all [.skip, oneOf marks, .rule .typeOperand])
  any
    [alone "function_type" functionType,
      alone "literal_type" stringLiteral,
      alone "template_literal_type" (.rule .typeTemplate),
      alone "object_type" (.rule .members),
      alone "tuple_type" (enclosed "[" (commaSeparated tupleMember) "]"),
      alone "parenthesized_type" (enclosed "(" (.rule .type) ")"),
      alone "generic_type"
        (.both qualifiedName (.both sameLine (.rule .typeArguments))),
      alone "array_type" (.both typePrimary (Expression.some (.both sameLine
        (.both (token "[") (token "]"))))),
      alone "lookup_type" (.both typePrimary (Expression.some (.both sameLine
        (enclosed "[" (.rule .type) "]")))),
      alone "readonly_type" (.both (word "readonly") (.rule .typeOperand)),
      alone "index_type_query" (.both (word "keyof") (.rule .typeOperand)),
      alone "intersection_type"
        (all [optional (token "&"), .rule .typeOperand, joined "&"]),
      alone "union_type"
        (all [optional (token "|"), .rule .typeOperand, joined "|&"]),
      form "conditional_type"
        (all [.rule .typeOperand, word "extends", .rule .type, token "?",
        .rule .type, token ":", .rule .type]),
      form "type" (.rule .type)]

/-- A parameter of a generic declaration. -/
def typeParameter : Reader :=
  all [.many
    (.both (any [word "const", word "in", word "out"]) (.ahead anyWord)),
    anyWord,
    optional (.both (word "extends") (.rule .type)),
    optional (.both (token "=") (.rule .type))]

end SymbolDiff.Grammar.TypeScript
