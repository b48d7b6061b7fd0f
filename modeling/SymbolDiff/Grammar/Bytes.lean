import SymbolDiff.Grammar.Expression

/-!
# Reading bytes

A source file as a tape of bytes on which white space and comments do not
count, and the parsing expressions for its smallest parts.  Bytes beyond ASCII
belong to names, except where they encode white space, so that the file need
not be valid text everywhere.
-/

namespace SymbolDiff.Grammar

/-- The byte at a position; zero beyond the end. -/
def byteAt (source : ByteArray) (position : Nat) : UInt8 :=
  source[position]?.getD 0

/-- White space that takes more than one byte: its first byte and the pairs of
bytes after it. -/
def wideSpaces : List (List UInt8) :=
  [[0xc2, 0xa0], [0xe1, 0x9a, 0x80], [0xe2, 0x80, 0x80], [0xe2, 0x80, 0x81],
    [0xe2, 0x80, 0x82], [0xe2, 0x80, 0x83], [0xe2, 0x80, 0x84],
    [0xe2, 0x80, 0x85], [0xe2, 0x80, 0x86], [0xe2, 0x80, 0x87],
    [0xe2, 0x80, 0x88], [0xe2, 0x80, 0x89], [0xe2, 0x80, 0x8a],
    [0xe2, 0x80, 0x8b], [0xe2, 0x80, 0xa8], [0xe2, 0x80, 0xa9],
    [0xe2, 0x80, 0xaf], [0xe2, 0x81, 0x9f], [0xe2, 0x81, 0xa0],
    [0xe3, 0x80, 0x80], [0xef, 0xbb, 0xbf]]

/-- Whether given bytes stand at a position. -/
def standsAt (source : ByteArray) (position : Nat) : List UInt8 → Bool
  | [] => true
  | byte :: rest =>
    source[position]? == some byte && standsAt source (position + 1) rest

/-- How many bytes the white space character at a position takes; zero when
there is none. -/
def spaceWidth (source : ByteArray) (position : Nat) : Nat :=
  match source[position]? with
  | none => 0
  | some byte =>
    if byte = 32 || (9 ≤ byte && byte ≤ 13) then 1
    else if byte < 0x80 then 0
    else match wideSpaces.find? (standsAt source position) with
      | some bytes => bytes.length
      | none => 0

/-- Whether a line ends with the byte. -/
def isLineEnd (byte : UInt8) : Bool :=
  byte = 10 || byte = 13

/-- What does not count in a source file, listed by distance from its end. -/
structure Gaps where
  next : Array Nat
  breaks : Array Bool
  /-- Positions after the next end of a block comment. -/
  blockEnds : Array Nat
  /-- The position of the next line end. -/
  lineEnd : Nat

/-- Adds what does not count at one more position, the positions after it being
known. -/
def Gaps.extend (source : ByteArray) (gaps : Gaps) (distance : Nat) : Gaps :=
  let size := source.size
  let position := size - distance
  let byte := byteAt source position
  let following := byteAt source (position + 1)
  let lineEnd := if isLineEnd byte then position else gaps.lineEnd
  let blockEndOf (place : Nat) : Nat := gaps.blockEnds.getD (size - place) size
  let blockEnd :=
    if byte = 42 && following = 47 then position + 2
    else blockEndOf (position + 1)
  let through (place : Nat) (crossed : Bool) : Nat × Bool :=
    (gaps.next.getD (size - place) size, crossed ||
      gaps.breaks.getD (size - place) false)
  let width := spaceWidth source position
  let gap :=
    if 0 < width then
      through (position + width)
        (isLineEnd byte || standsAt source position [0xe2, 0x80, 0xa8] ||
          standsAt source position [0xe2, 0x80, 0xa9])
    else if byte = 47 && following = 47 then through lineEnd false
    else if byte = 47 && following = 42 then
      let close := blockEndOf (position + 2)
      through close (lineEnd < close)
    else (position, false)
  { next := gaps.next.push gap.1, breaks := gaps.breaks.push gap.2
    blockEnds := gaps.blockEnds.push blockEnd, lineEnd }

/-- What does not count in a source file with comments that start with two
slashes or are enclosed in slashes and stars. -/
def Gaps.ofSource (source : ByteArray) : Gaps :=
  let size := source.size
  (Array.range size).foldl (fun gaps index => gaps.extend source (index + 1))
    { next := #[size], breaks := #[false], blockEnds := #[size],
      lineEnd := size }

/-- A source file as a tape. -/
def byteTape (source : ByteArray) : Tape UInt8 :=
  let gaps := Gaps.ofSource source
  { items := source.data, next := gaps.next.reverse,
    breaks := gaps.breaks.reverse
    start := id, stop := id }

namespace Bytes

open Expression

variable {rule : Type}

/-- The bytes of a text. -/
def bytesOf (text : String) : List UInt8 :=
  text.toUTF8.toList

/-- A text as it stands. -/
def raw (text : String) : Expression UInt8 rule :=
  .exactly (bytesOf text)

/-- One of the bytes of a text. -/
def oneOf (text : String) : Expression UInt8 rule :=
  let bytes := bytesOf text
  .one bytes.contains

/-- One byte that is not among those of a text. -/
def noneOf (text : String) : Expression UInt8 rule :=
  let bytes := bytesOf text
  .one fun byte => !bytes.contains byte

/-- A text after blanks. -/
def token (text : String) : Expression UInt8 rule :=
  .both .skip (raw text)

/-- A text after blanks, unless one of the given bytes follows. -/
def tokenBut (text following : String) : Expression UInt8 rule :=
  all [.skip, raw text, .unless (oneOf following)]

def isDigit (byte : UInt8) : Bool :=
  48 ≤ byte && byte ≤ 57

def isLetter (byte : UInt8) : Bool :=
  (97 ≤ byte && byte ≤ 122) || (65 ≤ byte && byte ≤ 90)

/-- ASCII bytes that may start a name. -/
def isNameStart (byte : UInt8) : Bool :=
  isLetter byte || byte = 36 || byte = 95 || byte = 92

/-- ASCII bytes that may continue a name; braces close an escaped code point. -/
def isNamePart (byte : UInt8) : Bool :=
  isNameStart byte || isDigit byte

/-- A byte beyond ASCII that does not start white space. -/
def wideByte : Expression UInt8 rule :=
  .both (.unless (any (wideSpaces.map .exactly))) (.one (0x80 ≤ ·))

/-- The part of a name after its start. -/
def namePart : Expression UInt8 rule :=
  any [.one isNamePart, wideByte]

/-- An escaped code point in braces, inside a name. -/
def escapedCode : Expression UInt8 rule :=
  all [raw "\\u\x7b", .span (fun byte => isLetter byte || isDigit byte),
    raw "\x7d"]

/-- Any word, reserved or not, without blanks before it. -/
def rawWord : Expression UInt8 rule :=
  .both (any [escapedCode, .one isNameStart, wideByte])
    (.many (any [escapedCode, namePart]))

/-- A given word after blanks. -/
def word (text : String) : Expression UInt8 rule :=
  all [.skip, raw text, .unless namePart]

end Bytes

end SymbolDiff.Grammar
