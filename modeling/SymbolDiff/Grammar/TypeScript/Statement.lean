import SymbolDiff.Grammar.TypeScript.Value

/-!
# Statements of TypeScript

Declarations, statements and modules.  Something that is no statement is passed
over, with its brackets kept together, so that what follows it is still read.
-/

namespace SymbolDiff.Grammar.TypeScript

open Expression Bytes

def classDeclaration : Reader :=
  tree "class_declaration"
    (all [decorators, word "class", className, classRest])

def abstractClassDeclaration : Reader :=
  tree "abstract_class_declaration"
    (all [decorators, word "abstract", sameLine, word "class", className,
      classRest])

def functionDeclaration : Reader :=
  tree "function_declaration"
    (.both functionHead (any [.rule .block, terminator]))

def interfaceDeclaration : Reader :=
  tree "interface_declaration" (all
    [word "interface", sameLine, declaredName "type_identifier", typeParameters,
      optional (tree "extends_type_clause"
        (.both (word "extends") (commaList (.rule (.typeNode false))))),
      inRole "body" "interface_body" (.rule .members)])

def typeAliasDeclaration : Reader :=
  tree "type_alias_declaration" (all
    [word "type", sameLine, declaredName "type_identifier", typeParameters,
      token "=",
      .rule (.typeNode true), terminator])

def enumDeclaration : Reader :=
  tree "enum_declaration" (all
    [optional (word "const"), word "enum", identifier,
      enclosed "\x7b" (commaSeparated (.both memberName initializer)) "\x7d"])

/-- One variable of a declaration. -/
def declarator : Reader :=
  tree "variable_declarator" (all
    [bindingNode "name", optional (token "!"), declaredType, initializer])

/-- Variables with the word that declares them. -/
def variableDeclarations : Reader :=
  any
    [tree "lexical_declaration"
        (.both (any [word "const", word "let"]) (commaList declarator)),
      tree "variable_declaration" (.both (word "var") (commaList declarator))]

def namespaceDeclaration : Reader :=
  tree "internal_module" (all
    [any [word "namespace", word "module"], sameLine,
      any [stringLiteral, qualifiedName],
      any [.rule .block, terminator]])

def ambientDeclaration : Reader :=
  tree "ambient_declaration" (all
    [word "declare", sameLine,
      any [.rule .declaration, .both (word "global") (.rule .block)]])

/-- Names in braces, as modules exchange them. -/
def exchangedNames : Reader :=
  enclosed "\x7b" (.many (any [anyWord, stringLiteral, token ","])) "\x7d"

/-- The module that names come from. -/
def fromModule : Reader :=
  all [word "from", stringLiteral,
    optional (.both (any [word "with", word "assert"]) (.rule .object)),
    terminator]

/-- A name for a name elsewhere. -/
def importAlias : Reader :=
  all [word "import", optional (.both (word "type") (.ahead identifier)),
    identifier,
    tokenBut "=" "=>", .rule .expression, terminator]

/-- The names that an import brings in. -/
def importedNames : Reader :=
  any
    [all [token "*", word "as", identifier],
      exchangedNames,
      .both identifier (optional (.both (token ",")
        (any [all [token "*", word "as", identifier], exchangedNames])))]

def importStatement : Reader :=
  tree "import_statement" (any
    [importAlias,
      all [word "import", stringLiteral,
        optional (.both (any [word "with", word "assert"]) (.rule .object)),
        terminator],
      all [word "import", any [word "type", word "typeof"], importedNames,
        fromModule],
      all [word "import", importedNames, fromModule]])

def declaration : Reader :=
  any
    [classDeclaration, abstractClassDeclaration, functionDeclaration,
      interfaceDeclaration,
      typeAliasDeclaration, enumDeclaration, ambientDeclaration,
      namespaceDeclaration,
      .both variableDeclarations terminator, importAlias]

/-- What follows the word that exports. -/
def exported : Reader :=
  any
    [all [optional (word "type"), token "*",
        optional (.both (word "as") (any [anyWord, stringLiteral])),
        fromModule],
      all [optional (word "type"), exchangedNames,
        any [fromModule, terminator]],
      all [token "=", .rule .expression, terminator],
      all [word "as", word "namespace", identifier, terminator],
      .both (word "default") (any
        [classDeclaration, abstractClassDeclaration, functionDeclaration,
          interfaceDeclaration,
          .both (.rule .expression) terminator]),
      .rule .declaration]

def exportStatement : Reader :=
  tree "export_statement" (all [decorators, word "export", exported])

/-- An expression in parentheses, as statements are governed by it. -/
def condition : Reader :=
  enclosed "(" (.rule .expression) ")"

def ifStatement : Reader :=
  tree "if_statement" (all
    [word "if", condition, .rule .statement,
      optional (.both (word "else") (.rule .statement))])

/-- What a loop runs through. -/
def loopRange : Reader :=
  any
    [all [any [word "const", word "let", word "var"], bindingTarget,
      declaredType,
        any [word "of", word "in"], .rule .expression],
      all [optional (any [variableDeclarations, .rule .expression]), token ";",
        optional (.rule .expression), token ";", optional (.rule .expression)],
      all [.rule (.operand false), word "of", .rule .expression],
      .rule .expression]

def forStatement : Reader :=
  tree "for_statement" (all
    [word "for", optional (word "await"), enclosed "(" loopRange ")",
      .rule .statement])

def whileStatement : Reader :=
  tree "while_statement"
    (all [any [word "while", word "with"], condition, .rule .statement])

def doStatement : Reader :=
  tree "do_statement" (all
    [word "do", .rule .statement, word "while", condition,
      optional (token ";")])

def switchStatement : Reader :=
  tree "switch_statement" (all
    [word "switch", condition,
      enclosed "\x7b" (.many (any
        [all [word "case", .rule .expression, token ":"],
          .both (word "default") (token ":"),
          .rule .statement])) "\x7d"])

def tryStatement : Reader :=
  tree "try_statement" (all
    [word "try", .rule .block,
      optional (all [word "catch",
        optional (enclosed "(" (.both bindingTarget declaredType) ")"),
        .rule .block]),
      optional (.both (word "finally") (.rule .block))])

/-- Statements that leave what encloses them. -/
def jumpStatement : Reader :=
  any
    [all [any [word "return", word "throw"],
        optional (.both sameLine (.rule .expression)), terminator],
      all [any [word "break", word "continue"],
        optional (.both sameLine identifier), terminator],
      .both (word "debugger") terminator]

def labeledStatement : Reader :=
  tree "labeled_statement" (all [identifier, token ":", .rule .statement])

def expressionStatement : Reader :=
  tree "expression_statement" (.both (.rule .expression) terminator)

def statement : Reader :=
  any
    [.rule .block, exportStatement, importStatement, .rule .declaration,
      ifStatement, forStatement,
      whileStatement, doStatement, switchStatement, tryStatement, jumpStatement,
      labeledStatement,
      expressionStatement, token ";"]

/-- Something that is no statement. -/
def stray : Reader :=
  .both .skip (any
    [stringLiteral, .rule .template,
      enclosed "\x7b" (.many (.rule .stray)) "\x7d",
      Expression.some (.one isNamePart), noneOf "\x7d"])

def block : Reader :=
  tree "statement_block"
    (enclosed "\x7b" (.many (any [.rule .statement, .rule .stray])) "\x7d")

/-- The line that names the program to run a file with. -/
def interpreterLine : Reader :=
  optional (.both (raw "#!") (.span fun byte => !isLineEnd byte))

def program : Reader :=
  tree "program" (.both interpreterLine
    (.many (any [.rule .statement, .rule .stray, token "\x7d"])))

/-- The grammar, with markup elements in expressions or without. -/
def grammar (markup : Bool) : Rule → Reader
  | .program => program
  | .statement => statement
  | .block => block
  | .stray => stray
  | .declaration => declaration
  | .expression => commaList value
  | .assignment plain => assignment plain
  | .operand plain => operand markup plain
  | .arrow plain => arrow plain
  | .object => tree "object" (enclosed "\x7b" (withHoles literalMember) "\x7d")
  | .array => enclosed "[" (withHoles spreadable) "]"
  | .parameters => enclosed "(" (commaSeparated parameter) ")"
  | .typeParameters =>
    tree "type_parameters" (enclosed "<" (commaSeparated typeParameter) ">")
  | .typeArguments =>
    tree "type_arguments" (all
      [token "<", commaList (.rule .type), optional (token ","), token ">"])
  | .type => type
  | .typeOperand => typeOperand
  | .members => members
  | .classBody => classBody
  | .template => templateOf .expression
  | .typeTemplate => templateOf .type
  | .element => element
  | .initialValue => initialValue markup
  | .typeNode isValue => typeNode isValue

/-- The tree of a source file. -/
def treeOf (markup : Bool) (source : ByteArray) : Tree :=
  match parse (grammar markup) .program (byteTape source) with
  | tree :: _ => tree
  | [] => .node { kind := "program", stop := source.size } []

end SymbolDiff.Grammar.TypeScript
