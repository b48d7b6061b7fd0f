import SymbolDiff.Grammar.Bytes

/-!
# Tokens of Python

A source file as a list of tokens.  Line ends count only outside brackets and
after something has been said on the line; a line that is indented more deeply
than the one before opens a block, and one that is indented less closes those
that are deeper.
-/

namespace SymbolDiff.Grammar.Python

open Bytes

/-- What a token is. -/
inductive Class where
  | word
  | number
  | string
  | mark
  | newline
  | indent
  | dedent
  deriving DecidableEq, Repr

/-- A token with the bytes it stands on; only words and marks keep their text.
-/
structure Token where
  kind : Class
  text : String
  start : Nat
  stop : Nat
  deriving DecidableEq, Repr

/-- Bytes that may start a word. -/
def isWordStart (byte : UInt8) : Bool :=
  isLetter byte || byte = 95 || 0x80 ≤ byte

/-- Bytes that may continue a word. -/
def isWordPart (byte : UInt8) : Bool :=
  isWordStart byte || isDigit byte

def isQuote (byte : UInt8) : Bool :=
  byte = 34 || byte = 39

/-- The position after the bytes that satisfy a test. -/
def spanOf (source : ByteArray) (accept : UInt8 → Bool) (position : Nat) :
    Nat :=
  spanFrom source.data accept source.size position

/-- The position at which the line of a position ends. -/
def lineEndFrom (source : ByteArray) (position : Nat) : Nat :=
  spanOf source (fun byte => !isLineEnd byte) position

/-- How many quotes open the string at a position: three, or one. -/
def openingWidth (source : ByteArray) (position : Nat) : Nat :=
  let quote := byteAt source position
  if standsAt source position [quote, quote, quote] then 3 else 1

/-- Whether the word before a quote makes substitutions possible. -/
def substitutes (source : ByteArray) (start stop : Nat) : Bool :=
  (source.extract start stop).toList.any fun byte =>
    [102, 70, 116, 84].contains byte

mutual

/-- The position after a string from after its opening quotes on. -/
def stringEnd (source : ByteArray) (quote : UInt8) (width : Nat)
    (format : Bool) : Nat → Nat → Nat
  | 0, position => position
  | fuel + 1, position =>
    if source.size ≤ position then position
    else
      let byte := byteAt source position
      if byte = 92 then stringEnd source quote width format fuel (position + 2)
      else if standsAt source position (List.replicate width quote) then
        position + width
      else if format && byte = 123 then
        if byteAt source (position + 1) = 123 then
          stringEnd source quote width format fuel (position + 2)
        else
          stringEnd source quote width format fuel
            (substitutionEnd source fuel 0 (position + 1))
      else stringEnd source quote width format fuel (position + 1)

/-- The position after a substitution from after its opening brace on, inside
`depth` brackets. -/
def substitutionEnd (source : ByteArray) : Nat → Nat → Nat → Nat
  | 0, _, position => position
  | fuel + 1, depth, position =>
    if source.size ≤ position then position
    else
      let byte := byteAt source position
      if isQuote byte then
        let width := openingWidth source position
        substitutionEnd source fuel depth
          (stringEnd source byte width false fuel (position + width))
      else if isWordStart byte then
        let stop := spanOf source isWordPart position
        let quote := byteAt source stop
        if isQuote quote then
          let width := openingWidth source stop
          substitutionEnd source fuel depth
            (stringEnd source quote width
              (substitutes source position stop) fuel (stop + width))
        else substitutionEnd source fuel depth stop
      else if byte = 40 || byte = 91 || byte = 123 then
        substitutionEnd source fuel (depth + 1) (position + 1)
      else if byte = 41 || byte = 93 then
        substitutionEnd source fuel (depth - 1) (position + 1)
      else if byte = 125 then
        if depth = 0 then position + 1
        else substitutionEnd source fuel (depth - 1) (position + 1)
      else if byte = 58 && depth = 0 then formatEnd source fuel (position + 1)
      else substitutionEnd source fuel depth (position + 1)

/-- The position after a substitution from after the colon of its format on. -/
def formatEnd (source : ByteArray) : Nat → Nat → Nat
  | 0, position => position
  | fuel + 1, position =>
    if source.size ≤ position then position
    else
      let byte := byteAt source position
      if byte = 125 then position + 1
      else if byte = 123 then
        formatEnd source fuel (substitutionEnd source fuel 0 (position + 1))
      else formatEnd source fuel (position + 1)

end

/-- Marks of more than one byte, the longer ones first. -/
def longMarks : List String :=
  ["**=", "//=", ">>=", "<<=", "...", "!=", "->", ":=", "==", "<=", ">=", "<>",
    "+=", "-=", "*=", "/=", "%=", "&=", "|=", "^=", "@=", "**", "//", "<<",
    ">>"]

/-- The mark at a position. -/
def markAt (source : ByteArray) (position : Nat) : String :=
  match longMarks.find? fun mark => standsAt source position (bytesOf mark) with
  | some mark => mark
  | none => String.singleton (Char.ofNat (byteAt source position).toNat)

/-- The text between two positions, if it is text. -/
def textBetween (source : ByteArray) (start stop : Nat) : String :=
  (String.fromUTF8? (source.extract start stop)).getD ""

/-- What may continue a number. -/
def isNumberPart (byte : UInt8) : Bool :=
  isLetter byte || isDigit byte || byte = 95 || byte = 46

/-- The position after a number. -/
def numberEnd (source : ByteArray) : Nat → Nat → Nat
  | 0, position => position
  | fuel + 1, position =>
    let byte := byteAt source position
    let following := byteAt source (position + 1)
    if (byte = 101 || byte = 69) && (following = 43 || following = 45) then
      numberEnd source fuel (position + 2)
    else if isNumberPart byte then numberEnd source fuel (position + 1)
    else position

/-- The token at a position where one starts. -/
def tokenAt (source : ByteArray) (position : Nat) : Token :=
  let byte := byteAt source position
  let fuel := source.size + 1
  let stringFrom (format : Bool) (opening : Nat) : Token :=
    let width := openingWidth source opening
    let stop :=
      stringEnd source (byteAt source opening) width format fuel
        (opening + width)
    ⟨.string, "", position, min stop source.size⟩
  if isQuote byte then stringFrom false position
  else if isWordStart byte then
    let stop := spanOf source isWordPart position
    if stop - position ≤ 3 && isQuote (byteAt source stop) then
      stringFrom (substitutes source position stop) stop
    else ⟨.word, textBetween source position stop, position, stop⟩
  else if isDigit byte ||
    (byte = 46 && isDigit (byteAt source (position + 1))) then
    ⟨.number, "", position, numberEnd source fuel position⟩
  else
    let mark := markAt source position
    ⟨.mark, mark, position, position + max 1 (bytesOf mark).length⟩

/-- How far reading the tokens of a file has come. -/
structure Scan where
  position : Nat := 0
  /-- How many brackets are open. -/
  depth : Nat := 0
  /-- Whether something has been said on the line. -/
  isOpen : Bool := false
  /-- Columns of the blocks that are open, the innermost first. -/
  columns : List Nat := []
  /-- The tokens so far, the latest first. -/
  tokens : List Token := []

/-- The column at which a line starts to say something, and the position of
that column. -/
def columnFrom (source : ByteArray) : Nat → Nat → Nat → Nat × Nat
  | 0, column, position => (column, position)
  | fuel + 1, column, position =>
    let byte := byteAt source position
    if byte = 32 then columnFrom source fuel (column + 1) (position + 1)
    else if byte = 9 then columnFrom source fuel (column + 8) (position + 1)
    else if byte = 12 then columnFrom source fuel 0 (position + 1)
    else (column, position)

/-- Closes the blocks that are deeper than a column. -/
def closeBlocks (position column : Nat) :
    List Nat → List Token → List Nat × List Token
  | [], tokens => ([], tokens)
  | innermost :: outer, tokens =>
    if column < innermost then
      closeBlocks position column outer
        (⟨.dedent, "", position, position⟩ :: tokens)
    else (innermost :: outer, tokens)

/-- Opens or closes blocks for a line that starts at a column. -/
def Scan.indent (scan : Scan) (column : Nat) : Scan :=
  if scan.columns.headD 0 < column then
    { scan with
      columns := column :: scan.columns
      tokens := ⟨.indent, "", scan.position, scan.position⟩ :: scan.tokens }
  else
    let (columns, tokens) :=
      closeBlocks scan.position column scan.columns scan.tokens
    { scan with columns, tokens }

/-- Ends the line, if something has been said on it. -/
def Scan.endLine (scan : Scan) : Scan :=
  if scan.isOpen then
    { scan with
      isOpen := false
      tokens := ⟨.newline, "", scan.position, scan.position⟩ :: scan.tokens }
  else scan

/-- Brackets open after a token. -/
def depthAfter (depth : Nat) (token : Token) : Nat :=
  if token.kind = .mark then
    if ["(", "[", "\x7b"].contains token.text then depth + 1
    else if [")", "]", "\x7d"].contains token.text then depth - 1
    else depth
  else depth

/-- Reads what stands at the position: a blank, a comment, a line end or a
token. -/
def Scan.step (source : ByteArray) (scan : Scan) : Scan :=
  let byte := byteAt source scan.position
  if isLineEnd byte then
    let ended := if scan.depth = 0 then scan.endLine else scan
    { ended with position := scan.position + 1 }
  else if byte = 92 && isLineEnd (byteAt source (scan.position + 1)) then
    let width := if standsAt source (scan.position + 1) [13, 10] then 3 else 2
    { scan with position := scan.position + width }
  else if byte = 35 then
    { scan with position := lineEndFrom source scan.position }
  else
    let width := spaceWidth source scan.position
    if 0 < width && (scan.isOpen || 0 < scan.depth || byte ≥ 0x80) then
      { scan with position := scan.position + width }
    else if scan.isOpen || 0 < scan.depth then
      let token := tokenAt source scan.position
      { scan with
        position := token.stop, depth := depthAfter scan.depth token
        tokens := token :: scan.tokens }
    else
      -- A line that has said nothing yet: its column decides on blocks, unless
      -- it stays empty.
      let (column, position) := columnFrom source source.size 0 scan.position
      let first := byteAt source position
      let started := { scan with position }
      if source.size ≤ position || isLineEnd first || first = 35 ||
          (first = 92 && isLineEnd (byteAt source (position + 1))) then started
      else { started.indent column with isOpen := true }

/-- Reads on until the end of the source. -/
def scanFrom (source : ByteArray) : Nat → Scan → Scan
  | 0, scan => scan
  | fuel + 1, scan =>
    if source.size ≤ scan.position then scan
    else scanFrom source fuel (scan.step source)

/-- The tokens of a source file, with all blocks closed at its end. -/
def tokensOf (source : ByteArray) : List Token :=
  let scan := (scanFrom source (2 * source.size + 2) {}).endLine
  (closeBlocks source.size 0 scan.columns scan.tokens).2.reverse

/-- The tokens of a source file as a tape. -/
def tokenTape (source : ByteArray) : Tape Token :=
  let tokens := (tokensOf source).toArray
  { items := tokens, next := #[], breaks := #[]
    start := fun position =>
      (tokens[position]?.map Token.start).getD source.size
    stop := fun position => (tokens[position - 1]?.map Token.stop).getD 0 }

end SymbolDiff.Grammar.Python
