import SymbolDiff.Grammar.TypeScript.Type

/-!
# Expressions of TypeScript

Expressions are read as operands with operators between them, without regard
for how tightly the operators bind: what matters is where an expression ends
and which declarations stand inside it.
-/

namespace SymbolDiff.Grammar.TypeScript

open Expression Bytes

/-- An expression without commas. -/
def value : Reader :=
  .rule (.assignment false)

/-- An expression that may spread its members. -/
def spreadable : Reader :=
  .both (optional (token "...")) value

/-- The arguments of a call. -/
def arguments : Reader :=
  enclosed "(" (withHoles spreadable) ")"

/-- A function with its body. -/
def functionHead : Reader :=
  all [optional (.both (word "async") sameLine), word "function",
    optional (token "*"),
    optional identifier, signature]

/-- Modifiers of a member of an object literal. -/
def literalModifier : Reader :=
  any [modifier memberNameAhead "async", modifier memberNameAhead "get",
    modifier memberNameAhead "set"]

/-- A member of an object literal, or of a pattern that takes an object apart.
-/
def literalMember : Reader :=
  any
    [.both (token "...") value,
      all [.many literalModifier, optional (token "*"), memberName,
        optional (token "?"), signature,
        .rule .block],
      all [memberName, token ":", value],
      .both identifier (optional (.both (tokenBut "=" "=>") value))]

/-- The base class, without the types it is applied to. -/
def extendsClause : Reader :=
  tree "extends_clause" (.both (word "extends") (commaList
    (.both (inRole "value" "expression" (.rule (.operand false)))
      (optional (.rule .typeArguments)))))

def implementsClause : Reader :=
  tree "implements_clause"
    (.both (word "implements") (commaList (.rule (.typeNode false))))

/-- What a class builds on. -/
def heritage : Reader :=
  optional (tree "class_heritage"
    (any [.both extendsClause (optional implementsClause), implementsClause]))

/-- A class from after its name on. -/
def classRest : Reader :=
  all [typeParameters, heritage, inRole "body" "class_body" (.rule .classBody)]

/-- The name of a class. -/
def className : Reader :=
  .both (.unless (word "implements")) (declaredName "type_identifier")

def classExpression : Reader :=
  tree "class" (all [decorators, word "class", optional className, classRest])

/-- Modifiers of a class member that leave no node. -/
def plainModifiers : List String :=
  ["declare", "static", "override", "accessor", "async", "get", "set"]

def memberModifier : Reader :=
  any ([accessibility memberNameAhead, readOnly memberNameAhead] ++
    plainModifiers.map (modifier memberNameAhead))

/-- The parts of a class member up to its name. -/
def memberHead : Reader :=
  all [decorators,
    .many (any [memberModifier, modifier memberNameAhead "abstract"])]

/-- The name and signature of a method. -/
def methodSignature : Reader :=
  all [optional (token "*"), memberName, optional (.both .skip (oneOf "?!")),
    signature]

/-- The end of a member that has no body. -/
def memberEnd : Reader :=
  any [terminator, token ","]

def classMember : Reader :=
  any
    [token ";",
      .both (word "static") (.rule .block),
      all [memberHead, indexSignature, memberEnd],
      tree "method_definition"
        (all [memberHead, methodSignature, .rule .block]),
      tree "abstract_method_signature" (all
        [decorators, .many memberModifier, modifier memberNameAhead "abstract",
          memberHead, methodSignature, memberEnd]),
      tree "method_signature" (all [memberHead, methodSignature, memberEnd]),
      tree "public_field_definition" (all
        [memberHead, memberName, optional (.both .skip (oneOf "?!")),
          declaredType, initializer,
          memberEnd])]

/-- Members of a class with their braces. -/
def classBody : Reader :=
  enclosed "\x7b" (.many (any [token ",", classMember])) "\x7d"

/-- The name of a markup element or attribute. -/
def elementName : Reader :=
  .both anyWord
    (.many (any [namePart, .both (token ".") anyWord, .both (token ":") anyWord,
    raw "-"]))

/-- An attribute of a markup element. -/
def elementAttribute : Reader :=
  any
    [enclosed "\x7b" (.both (token "...") value) "\x7d",
      .both elementName (optional (.both (token "=") (any
        [all [.skip, raw "'", .many (noneOf "'"), raw "'"],
          all [.skip, raw "\"", .many (noneOf "\""), raw "\""],
          enclosed "\x7b" value "\x7d",
          .rule .element])))]

/-- What stands between the tags of a markup element. -/
def elementChildren : Reader :=
  .many (any
    [Expression.some (noneOf "<\x7b"),
      enclosed "\x7b" (optional spreadable) "\x7d",
      .rule .element])

/-- A markup element or a fragment. -/
def element : Reader :=
  any
    [all [token "<", token ">", elementChildren, token "<", token "/",
      token ">"],
      all [token "<", elementName, optional (.rule .typeArguments),
        .many elementAttribute, any
        [.both (token "/") (token ">"),
          all [token ">", elementChildren, token "<", token "/", elementName,
            token ">"]]]]

/-- A name as an expression.  The words that wait for values and hand them out
are operators here. -/
def valueName : Reader :=
  .both (.unless (any [word "await", word "yield"])) identifier

/-- An expression that is complete in itself. -/
def primary (markup : Bool) : Reader :=
  any
    ([regularExpression, .rule .template, stringLiteral, numberLiteral] ++
      (if markup then [.rule .element] else []) ++
      [tree "function" (.both functionHead (.rule .block)),
        classExpression,
        enclosed "(" (.rule .expression) ")",
        .rule .array,
        .rule .object,
        .both (word "import") (.ahead (.both .skip (oneOf "(."))),
        all [word "new", token ".", anyWord],
        any (["this", "super", "null", "true", "false"].map word),
        all [.skip, raw "#", rawWord],
        valueName])

/-- Holds where type arguments may end without a call. -/
def afterTypeArguments : Reader :=
  .ahead (any
    [.both .skip (oneOf "()],.;:?!=|&^\x7d\x60"),
      .finish,
      .both .lineBreak (.unless (any [token "\x7b", word "implements"]))])

/-- What may follow an operand and belongs to it. -/
def trailer : Reader :=
  any
    [all [token "?.", .unless (.one isDigit), any
        [enclosed "[" (.rule .expression) "]", arguments, .rule .template,
          .both (.rule .typeArguments) arguments, anyWord,
          all [.skip, raw "#", rawWord]]],
      .both (token ".") (any [anyWord, all [.skip, raw "#", rawWord]]),
      enclosed "[" (.rule .expression) "]",
      arguments,
      .rule .template,
      .both sameLine (tokenBut "!" "="),
      .both (.rule .typeArguments) afterTypeArguments,
      .both sameLine (any [token "++", token "--"])]

/-- Operators before an operand. -/
def prefixOperator : Reader :=
  any (["++", "--", "!", "~", "+", "-"].map token ++
    ["typeof", "void", "delete", "await", "new"].map word)

/-- An operand with all that belongs to it. -/
def operand (markup plain : Bool) : Reader :=
  any
    ([.rule (.arrow plain),
      .both prefixOperator (.rule (.operand plain)),
      .both (word "yield") (optional (all [sameLine, optional (token "*"),
        .rule (.assignment plain)]))] ++
      (if markup then []
        else
          [all [token "<", .rule .type, token ">", .rule (.operand plain)]]) ++
      [.both (primary markup) (.many trailer)])

/-- Operators that change what stands before them, the longer ones first. -/
def changingOperators : List String :=
  [">>>=", "**=", "<<=", ">>=", "&&=", "||=", "??=", "+=", "-=", "*=", "/=",
    "%=", "&=", "|=", "^="]

/-- Operators between operands, the longer ones first. -/
def joiningOperators : List String :=
  ["===", "!==", ">>>", "==", "!=", "<=", ">=", "<<", ">>", "&&", "||", "??",
    "**", "*", "/", "%", "&", "|", "^", "<", ">"]

/-- An operator that changes what stands before it. -/
def changingOperator : Reader :=
  any (changingOperators.map token)

/-- The sign of an assignment. -/
def assigningOperator : Reader :=
  tokenBut "=" "=>"

/-- An operator between operands.  Two signs in a row belong to the operand
after them. -/
def joiningOperator : Reader :=
  .both (.unless (any [changingOperator, assigningOperator]))
    (any (joiningOperators.map token ++
      [tokenBut "+" "+", tokenBut "-" "-", word "in", word "instanceof"]))

/-- Any operator between operands. -/
def operator : Reader :=
  any [changingOperator, joiningOperator, assigningOperator]

/-- The question mark of a choice between two values. -/
def question : Reader :=
  all [token "?",
    .unless (any [raw "?", .both (raw ".") (.unless (.one isDigit))])]

/-- The rest of a choice between two values. -/
def alternatives (plain : Bool) : Reader :=
  any
    [all [question, .rule (.assignment false), token ":",
      .rule (.assignment plain)],
      all [question, .rule (.assignment true), token ":",
        .rule (.assignment plain)]]

/-- A word and the type that an expression is said to have. -/
def ascription (text : String) : Reader :=
  all [sameLine, word text, any [word "const", .rule .type]]

/-- What may follow an operand in an expression without commas. -/
def continuation (plain : Bool) : Reader :=
  any
    [.both operator (.rule (.operand plain)), alternatives plain,
      ascription "as",
      ascription "satisfies"]

/-- An expression without commas. -/
def assignment (plain : Bool) : Reader :=
  .both (.rule (.operand plain)) (.many (continuation plain))

/-- What stands before the arrow of an arrow function. -/
def arrowHead (plain : Bool) : Reader :=
  any
    [all [typeParameters, parameters, if plain then .nothing else returnType],
      identifier]

/-- An arrow function. -/
def arrow (plain : Bool) : Reader :=
  tree "arrow_function" (all
    [any
      [all [word "async", sameLine, arrowHead plain, sameLine, token "=>"],
        all [arrowHead plain, sameLine, token "=>"]],
      any [.rule .block, .rule (.assignment plain)]])

/-- Holds where an expression is at its end. -/
def valueEnds : Reader :=
  .unless (any [trailer, continuation false])

/-- The value that something starts with, as a node whose kind says what it is.
-/
def initialValue (markup : Bool) : Reader :=
  let form (kind : String) (body : Reader) : Reader :=
    inRole "value" kind (.both body valueEnds)
  let operand : Reader := .rule (.operand false)
  let joined : Reader := .both joiningOperator operand
  let step : Reader := any [joined, ascription "as", ascription "satisfies"]
  let chain (last : Reader) : Reader :=
    all [optional (word "new"), primary markup,
      .many (.both trailer (.ahead trailer)), last]
  let mixture (last : Reader) : Reader :=
    all [operand, .many (.both step (.ahead step)), last]
  any
    [form "arrow_function" (.rule (.arrow false)),
      form "string" stringLiteral,
      form "template_string" (.rule .template),
      form "array" (.rule .array),
      form "object" (.rule .object),
      form "parenthesized_expression" (enclosed "(" (.rule .expression) ")"),
      form "function_expression" (.both functionHead (.rule .block)),
      form "class" classExpression,
      form "new_expression" (all
        [word "new", primary markup, .many (.both (token ".") anyWord),
          optional (.rule .typeArguments), arguments]),
      form "call_expression" (chain (any [arguments, .rule .template])),
      form "subscript_expression"
        (chain (enclosed "[" (.rule .expression) "]")),
      form "non_null_expression" (chain (tokenBut "!" "=")),
      form "member_expression"
        (chain (.both (any [token "?.", token "."]) anyWord)),
      form "await_expression" (.both (word "await") operand),
      form "unary_expression" (.both
        (any (["!", "~", "+", "-"].map token ++
          ["typeof", "void", "delete"].map word)) operand),
      form "ternary_expression" (all [operand, .many step, alternatives false]),
      form "assignment_expression"
        (all [operand, assigningOperator, .rule (.assignment false)]),
      form "augmented_assignment_expression"
        (all [operand, changingOperator, .rule (.assignment false)]),
      form "as_expression" (mixture (ascription "as")),
      form "satisfies_expression" (mixture (ascription "satisfies")),
      form "binary_expression" (mixture joined),
      inRole "value" "expression" (.rule (.assignment false))]

end SymbolDiff.Grammar.TypeScript
