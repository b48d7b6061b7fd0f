import SymbolDiff.Grammar.Python.Token

/-!
# Statements of Python

Statements and declarations.  An expression is read as the tokens up to a
comma, a colon, an equals sign or the end of the line outside brackets: its
extent is all that matters.  Only a lambda has a colon of its own.
-/

namespace SymbolDiff.Grammar.Python

open Expression

/-- The rules that refer to each other. -/
inductive Rule where
  | module
  | statement
  | block
  | bracketed
  | lambda
  | expression
  | binding
  deriving DecidableEq, Hashable

/-- A parsing expression of this grammar. -/
abbrev Reader := Expression Token Rule

/-- Words that are never names. -/
def reservedWords : List String :=
  ["False", "None", "True", "and", "as", "assert", "await", "break", "class",
    "continue", "def", "del", "elif", "else", "except", "finally", "for",
    "from", "global", "if", "import", "in", "is", "lambda", "nonlocal", "not",
    "or", "pass", "raise", "return", "try", "while", "with", "yield"]

def word (text : String) : Reader :=
  .one fun token => token.kind = .word && token.text = text

def mark (text : String) : Reader :=
  .one fun token => token.kind = .mark && token.text = text

def name : Reader :=
  .one fun token => token.kind = .word && !reservedWords.contains token.text

def ofClass (kind : Class) : Reader :=
  .one fun token => token.kind = kind

/-- Layout tokens end every expression. -/
def isLayout (token : Token) : Bool :=
  token.kind = .newline || token.kind = .indent || token.kind = .dedent

def openingMarks : List String := ["(", "[", "\x7b"]

def closingMarks : List String := [")", "]", "\x7d"]

/-- Marks that end an expression outside brackets. -/
def endingMarks : List String := closingMarks ++ ["=", ":", ",", ";"]

/-- A token that may stand in an expression. -/
def plainToken : Reader :=
  .one fun token => !isLayout token &&
    !(token.kind = .mark &&
      (endingMarks.contains token.text || openingMarks.contains token.text))

/-- Brackets with all that stands between them. -/
def bracketed : Reader :=
  all [.one fun token => token.kind = .mark && openingMarks.contains token.text,
    .many (any [.rule .bracketed,
      .one fun token =>
        !(token.kind = .mark && closingMarks.contains token.text)]),
    .one fun token => token.kind = .mark && closingMarks.contains token.text]

/-- Square brackets with all that stands between them. -/
def subscripted : Reader :=
  .both (.ahead (mark "[")) (.rule .bracketed)

/-- A function without a name: its parameters may hold commas and equals signs.
-/
def lambda : Reader :=
  all [word "lambda",
    .many (.both (.unless (mark ":"))
      (any [.rule .lambda, .rule .bracketed, .one fun token =>
        !isLayout token])),
    mark ":", .rule .expression]

/-- One part of an expression. -/
def part : Reader :=
  any [.rule .lambda, .rule .bracketed, plainToken]

/-- An expression without commas. -/
def expression : Reader :=
  Expression.some part

/-- Members with commas between them. -/
def commaSeparated (body : Reader) : Reader :=
  separated (mark ",") body

/-- Expressions with commas between them. -/
def expressionList : Reader :=
  all [.rule .expression, .many (.both (mark ",") (.rule .expression)),
    optional (mark ",")]

/-- Holds where an expression is at its end. -/
def settled : Reader :=
  .unless part

/-- Holds where one of some tokens stands outside brackets, after `lead`. -/
def holding (lead wanted : Reader) : Reader :=
  .ahead (all [lead, .many (.both (.unless wanted) part), wanted])

/-- One of some words. -/
def wordOf (texts : List String) : Reader :=
  .one fun token => token.kind = .word && texts.contains token.text

/-- One of some marks. -/
def markOf (texts : List String) : Reader :=
  .one fun token => token.kind = .mark && texts.contains token.text

def comparisonMarks : List String := ["<", ">", "==", "!=", "<=", ">=", "<>"]

def binaryMarks : List String :=
  ["|", "^", "&", "<<", ">>", "+", "-", "*", "/", "//", "%", "@", "**"]

/-- Brackets of one kind with all that stands between them. -/
def bracketedBy (left : String) : Reader :=
  .both (.ahead (mark left)) (.rule .bracketed)

/-- Holds before brackets whose members are given by a loop. -/
def comprehending : Reader :=
  .ahead (all
    [markOf openingMarks, .many (.both (.unless (word "for")) part),
      word "for"])

/-- Holds before brackets that hold a comma or nothing. -/
def listing : Reader :=
  .ahead (.both (markOf openingMarks) (any
    [markOf closingMarks, .both (.many part) (mark ",")]))

/-- Holds before braces that hold keys, or nothing. -/
def keying : Reader :=
  .ahead (.both (mark "\x7b") (any
    [mark "\x7d", mark "**", .both (.many part) (mark ":")]))

/-- An expression as a node whose kind says what it is. -/
def formed (role : Option String) : Reader :=
  let form (kind : String) (body : Reader) : Reader := .node kind role true body
  let alone (kind : String) (body : Reader) : Reader :=
    form kind (.both body settled)
  let whole (kind : String) (condition : Reader) : Reader :=
    form kind (.both condition (.rule .expression))
  let ending (kind : String) (last : Reader) : Reader :=
    alone kind (.both (Expression.some (.both part (.ahead part))) last)
  any
    [alone "string" (ofClass .string),
      alone "concatenated_string" (Expression.some (ofClass .string)),
      whole "lambda" (.ahead (word "lambda")),
      whole "yield" (.ahead (word "yield")),
      whole "conditional_expression" (holding .nothing (word "if")),
      whole "boolean_operator" (holding .nothing (wordOf ["and", "or"])),
      whole "not_operator" (.ahead (word "not")),
      whole "comparison_operator"
        (holding .nothing (any [wordOf ["in", "is"], markOf comparisonMarks])),
      whole "binary_operator" (holding part (markOf binaryMarks)),
      whole "unary_operator" (.ahead (markOf ["-", "+", "~"])),
      whole "await" (.ahead (word "await")),
      alone "list_comprehension" (.both comprehending (bracketedBy "[")),
      alone "list" (bracketedBy "["),
      alone "generator_expression" (.both comprehending (bracketedBy "(")),
      alone "tuple" (.both listing (bracketedBy "(")),
      alone "parenthesized_expression" (bracketedBy "("),
      alone "dictionary_comprehension"
        (all [comprehending, keying, bracketedBy "\x7b"]),
      alone "set_comprehension" (.both comprehending (bracketedBy "\x7b")),
      alone "dictionary" (.both keying (bracketedBy "\x7b")),
      alone "set" (bracketedBy "\x7b"),
      ending "call" (bracketedBy "("),
      ending "subscript" (bracketedBy "["),
      ending "attribute" name,
      form "expression" (.rule .expression)]

/-- A type, in a role. -/
def typeIn (role : String) : Reader :=
  inRole role "type" (any
    [tree "generic_type" (all [name, subscripted, settled]),
      formed none])

/-- A value, in a role. -/
def valueIn (role : String) : Reader :=
  any
    [inRole role "expression_list"
      (.both (.ahead (.both (.rule .expression) (mark ",")))
        expressionList),
      formed (Option.some role)]

/-- The target of an assignment: a plain name, or anything else that can be
assigned to. -/
def target : Reader :=
  any
    [inRole "left" "identifier"
      (.both name (.ahead (any [mark ":", mark "="]))),
      inRole "left" "pattern" expressionList]

/-- What an assignment assigns: a further assignment or a value. -/
def assigned : Reader :=
  any
    [.both (.ahead (.both expressionList (mark "=")))
      (inRole "right" "assignment" (.rule .binding)),
      valueIn "right"]

/-- An assignment from its target on. -/
def binding : Reader :=
  .both target (any
    [all [mark ":", typeIn "type", optional (.both (mark "=") assigned)],
      .both (mark "=") assigned])

/-- A statement that defines a type. -/
def typeAlias : Reader :=
  tree "type_alias_statement" (all
    [word "type",
      inRole "left" "type"
        (.both (tree "identifier" name) (optional subscripted)),
      mark "=", inRole "right" "type" (.rule .expression)])

/-- A statement that fits on a line. -/
def simpleStatement : Reader :=
  any
    [typeAlias,
      tree "expression_statement" (tree "assignment" (.rule .binding)),
      Expression.some (any [part, .both (.unless (mark ";")) (.one fun token =>
        !isLayout token &&
          !(token.kind = .mark && closingMarks.contains token.text))])]

/-- Statements on one line. -/
def simpleStatements : Reader :=
  all [simpleStatement, .many (.both (mark ";") simpleStatement),
    optional (mark ";"),
    any [ofClass .newline, .finish]]

/-- Statements below a header, or behind it on the same line. -/
def suite : Reader :=
  any
    [all [ofClass .newline, ofClass .indent,
        .many (any [.rule .statement, .one fun token => token.kind ≠ .dedent]),
        ofClass .dedent],
      simpleStatements]

/-- The body of a definition. -/
def body : Reader :=
  inRole "body" "block" (.rule .block)

/-- The name of what is defined. -/
def definedName : Reader :=
  inRole "name" "identifier" name

/-- A base that is applied to parameters, with the base itself apart. -/
def subscriptBase : Reader :=
  let trailer : Reader := any [.both (mark ".") name, .rule .bracketed]
  tree "subscript" (all
    [inRole "value" "expression" (all
      [any [name, Expression.some (ofClass .string), .rule .bracketed],
        .many (.both trailer (.ahead trailer))]),
      subscripted, .ahead (any [mark ",", mark ")"])])

/-- An argument of a class. -/
def classArgument : Reader :=
  any
    [tree "keyword_argument" (all [name, mark "=", .rule .expression]),
      tree "list_splat" (.both (mark "*") (.rule .expression)),
      tree "dictionary_splat" (.both (mark "**") (.rule .expression)),
      subscriptBase,
      formed none]

def classDefinition (role : Option String) : Reader :=
  .node "class_definition" role true (all
    [word "class", definedName, optional subscripted,
      optional (inRole "superclasses" "argument_list"
        (all [mark "(", commaSeparated classArgument, mark ")"])),
      mark ":", body])

/-- The name of a parameter, with the stars that gather arguments. -/
def parameterName : Reader :=
  any
    [tree "list_splat_pattern" (.both (mark "*") name),
      tree "dictionary_splat_pattern" (.both (mark "**") name),
      tree "identifier" name]

def parameter : Reader :=
  any
    [tree "typed_default_parameter" (all
        [definedName, mark ":", typeIn "type", mark "=",
          formed (Option.some "value")]),
      tree "default_parameter" (all
        [any [definedName, inRole "name" "tuple_pattern" (bracketedBy "(")],
          mark "=",
          formed (Option.some "value")]),
      tree "typed_parameter" (all [parameterName, mark ":", typeIn "type"]),
      parameterName,
      tree "tuple_pattern" (bracketedBy "("),
      mark "*",
      mark "/"]

def functionDefinition (role : Option String) : Reader :=
  .node "function_definition" role true (all
    [optional (word "async"), word "def", definedName, optional subscripted,
      inRole "parameters" "parameters"
        (all [mark "(", commaSeparated parameter, mark ")"]),
      optional (.both (mark "->") (typeIn "return_type")), mark ":", body])

def decoratedDefinition : Reader :=
  tree "decorated_definition" (.both
    (Expression.some (all [mark "@", .rule .expression, ofClass .newline]))
    (any [classDefinition (Option.some "definition"),
      functionDefinition (Option.some "definition")]))

/-- What stands between the word that opens a compound statement and its colon.
-/
def header : Reader :=
  .many (.both (.unless (mark ":"))
    (any [.rule .lambda, .rule .bracketed, .one fun token => !isLayout token]))

/-- Words that open a compound statement. -/
def compoundWords : List String :=
  ["if", "elif", "else", "for", "while", "try", "except", "finally", "with"]

/-- A statement with a block.  Words that are also names open one only before
an indented block. -/
def compoundStatement : Reader :=
  any
    [tree "compound_statement" (all
        [optional (word "async"), any (compoundWords.map word), header,
          mark ":",
          tree "block" (.rule .block)]),
      tree "match_statement" (all
        [word "match", .unless (mark ":"), header, mark ":",
          .ahead (all [ofClass .newline, ofClass .indent, word "case"]),
          tree "block" (.rule .block)]),
      tree "case_clause" (all
        [word "case", .unless (any [mark ":", mark "=", mark "."]), header,
          mark ":",
          tree "block" (.rule .block)])]

def statement : Reader :=
  any
    [classDefinition none, functionDefinition none, decoratedDefinition,
      compoundStatement,
      simpleStatements]

/-- The grammar. -/
def grammar : Rule → Reader
  | .module =>
    tree "module" (.many (any [.rule .statement, .one fun _ => true]))
  | .statement => statement
  | .block => suite
  | .bracketed => bracketed
  | .lambda => lambda
  | .expression => expression
  | .binding => binding

/-- The tree of a source file. -/
def treeOf (source : ByteArray) : Tree :=
  match parse grammar .module (tokenTape source) with
  | tree :: _ => tree
  | [] => .node { kind := "module", stop := source.size } []

end SymbolDiff.Grammar.Python
