/-!
# Blank characters

Which characters separate words.  `isSpace` is the white space of the Unicode
standard; `isBlank` adds the four information separators that text processing
also treats as blank.  Trimming and splitting are stated over character lists.
-/

namespace SymbolDiff.Text

/-- The characters with the property White_Space. -/
def isSpace (c : Char) : Bool :=
  let code := c.toNat
  (0x09 ≤ code && code ≤ 0x0d) || code = 0x20 || code = 0x85 || code = 0xa0 ||
    code = 0x1680 ||
    (0x2000 ≤ code && code ≤ 0x200a) || code = 0x2028 || code = 0x2029 ||
      code = 0x202f ||
    code = 0x205f || code = 0x3000

/-- White space and the information separators. -/
def isBlank (c : Char) : Bool :=
  isSpace c || (0x1c ≤ c.toNat && c.toNat ≤ 0x1f)

/-- Drops from the end the characters of a class. -/
def trimEnd (drop : Char → Bool) (cs : List Char) : List Char :=
  (cs.reverse.dropWhile drop).reverse

/-- Drops from both ends the characters of a class. -/
def trim (drop : Char → Bool) (cs : List Char) : List Char :=
  trimEnd drop (cs.dropWhile drop)

/-- The words of a text, collected with the word under way. -/
def wordsFrom : List Char → List Char → List String
  | current, [] => if current.isEmpty then [] else [String.ofList current]
  | current, c :: rest =>
    if isBlank c then
      if current.isEmpty then wordsFrom [] rest
      else String.ofList current :: wordsFrom [] rest
    else wordsFrom (current ++ [c]) rest

/-- The words of a text: its longest parts without blanks. -/
def words (text : String) : List String :=
  wordsFrom [] text.toList

/-- Texts with a separator between them. -/
def joined (separator : String) (texts : List String) : String :=
  separator.intercalate texts

end SymbolDiff.Text
