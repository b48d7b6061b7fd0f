import SymbolDiff.Grammar.Bytes

/-!
# Words and literals of TypeScript

The rules of the grammar by name, and the parsing expressions for names,
literals and the ends of statements.  A keyword that is not reserved is a name
wherever a name may stand.
-/

namespace SymbolDiff.Grammar.TypeScript

open Expression Bytes

/-- The rules that refer to each other.  `plain` marks expressions in which an
arrow function has no return type, because a colon would belong to what stands
around them. -/
inductive Rule where
  | program
  | statement
  | block
  | stray
  | declaration
  | expression
  | assignment (plain : Bool)
  | operand (plain : Bool)
  | arrow (plain : Bool)
  | object
  | array
  | parameters
  | typeParameters
  | typeArguments
  | type
  | typeOperand
  | members
  | classBody
  | template
  | typeTemplate
  | element
  /-- The value that something starts with. -/
  | initialValue
  /-- A type as a node of its own, in the role of a value or in none. -/
  | typeNode (isValue : Bool)
  deriving DecidableEq, Hashable

/-- A parsing expression of this grammar. -/
abbrev Reader := Expression UInt8 Rule

/-- Words that are never names. -/
def reservedWords : List String :=
  ["break", "case", "catch", "class", "const", "continue", "debugger",
    "default", "delete", "do", "else", "enum", "export", "extends", "false",
    "finally", "for", "function", "if", "import", "in", "instanceof", "new",
    "null", "return", "super", "switch", "this", "throw", "true", "try",
    "typeof", "var", "void", "while", "with"]

/-- Reserved words that are types. -/
def typeWords : List String :=
  ["void", "null", "this", "true", "false"]

/-- Any word after blanks. -/
def anyWord : Reader :=
  .both .skip rawWord

/-- A word that is not reserved. -/
def identifier : Reader :=
  all [.skip, .unless (any (reservedWords.map word)), rawWord]

/-- A word that may start a type. -/
def typeWord : Reader :=
  all [.skip,
    .unless (any
      ((reservedWords.filter fun text => !typeWords.contains text).map word)),
    rawWord]

/-- One byte, whatever it is. -/
def anyByte : Reader :=
  .one fun _ => true

/-- A backslash with what it escapes; a line break of two bytes counts as one.
-/
def escaped : Reader :=
  .both (raw "\\") (any [raw "\r\n", anyByte])

/-- A quoted string on one line. -/
def stringLiteral : Reader :=
  .both .skip (any
    [all [raw "'", .many (any [escaped, noneOf "'\\\n"]), raw "'"],
      all [raw "\"", .many (any [escaped, noneOf "\"\\\n"]), raw "\""]])

/-- What may continue a number: digits of any base, separators, a fraction, an
exponent. -/
def numberPart : Reader :=
  any [.both (oneOf "eE") (oneOf "+-"),
    .one fun byte => isLetter byte || isDigit byte || byte = 95 || byte = 46]

def numberLiteral : Reader :=
  all [.skip, any [.one isDigit, .both (raw ".") (.one isDigit)],
    .many numberPart]

/-- The characters between brackets in a regular expression. -/
def characterClass : Reader :=
  all [raw "[", .many (any [escaped, noneOf "]\\\n"]), raw "]"]

def regularExpression : Reader :=
  all [.skip, raw "/", .unless (oneOf "/*"),
    Expression.some (any [escaped, characterClass, noneOf "/\\[\n"]), raw "/",
    .many namePart]

/-- A template whose substitutions are read by a rule. -/
def templateOf (substitution : Rule) : Reader :=
  all [.skip, raw "\x60",
    .many (any
      [escaped, all [raw "$\x7b", .rule substitution, token "\x7d"],
        .both (.unless (raw "$\x7b")) (noneOf "\x60\\")]),
    raw "\x60"]

/-- The end of a statement: a semicolon, or a place where one goes without
saying. -/
def terminator : Reader :=
  any [token ";", .ahead (token "\x7d"), .finish, .lineBreak]

/-- Holds where the line goes on. -/
def sameLine : Reader :=
  .unless .lineBreak

/-- Something between two texts. -/
def enclosed (left : String) (body : Reader) (right : String) : Reader :=
  all [token left, body, token right]

/-- Members with commas between them. -/
def commaSeparated (body : Reader) : Reader :=
  separated (token ",") body

/-- At least one member, with commas between them. -/
def commaList (body : Reader) : Reader :=
  .both body (.many (.both (token ",") body))

/-- Members and commas in any order, so that places may stay empty. -/
def withHoles (body : Reader) : Reader :=
  .many (any [token ",", body])

/-- A name in the role of the name of a declaration. -/
def declaredName (kind : String) : Reader :=
  inRole "name" kind identifier

end SymbolDiff.Grammar.TypeScript
