import SymbolDiff.Data
import SymbolDiff.Data.Binary
import SymbolDiff.Data.Reading

/-!
# Single values of a settings file

Readers for the parts of the TOML format that hold no further values: keys,
strings, numbers, dates and truth values.  Each takes the characters that are
left and gives the value with the characters after it, or nothing when no such
value stands there.
-/

namespace SymbolDiff.Toml

/-- A reader of the characters that are left. -/
abbrev Reader (α : Type) := List Char → Option (α × List Char)

/-- Why a text could not be read. -/
inductive Fault where
  /-- The text is not in the format. -/
  | malformed
  /-- A decimal integer has more digits than can be read. -/
  | longNumber
  /-- Lists and tables stand in each other too deeply. -/
  | deepNesting
  deriving DecidableEq, Repr

/-- What is not there is not in the format. -/
def formed {α : Type} : Option α → Except Fault α
  | some found => .ok found
  | none => .error .malformed

def isBlank (c : Char) : Bool :=
  c = ' ' || c = '\t'

def isBlankOrNewline (c : Char) : Bool :=
  isBlank c || c = '\n'

def isBareKey (c : Char) : Bool :=
  c.isAlphanum || c = '-' || c = '_'

/-- Control characters, which may stand nowhere but as a tab or as the end of a
line. -/
def isControl (c : Char) : Bool :=
  c.toNat < 32 || c.toNat = 127

/-- What may not stand within one line. -/
def isIllegal (c : Char) : Bool :=
  isControl c && c ≠ '\t'

/-- What may not stand within text of several lines. -/
def isIllegalAcrossLines (c : Char) : Bool :=
  isIllegal c && c ≠ '\n'

def skipBlanks (cs : List Char) : List Char :=
  cs.dropWhile isBlank

/-- What follows some fixed characters. -/
def after (expected cs : List Char) : Option (List Char) :=
  if expected.isPrefixOf cs then some (cs.drop expected.length) else none

/-- Skips a comment up to the end of its line. -/
def skipComment : List Char → Option (List Char)
  | '#' :: rest =>
    if (rest.takeWhile (· ≠ '\n')).any isIllegal then none
    else some (rest.dropWhile (· ≠ '\n'))
  | cs => some cs

/-- The value of hexadecimal digits. -/
def hexadecimal? : List Char → Option Nat
  | [] => some 0
  | digits => digits.foldl (fun total digit => total.bind fun value =>
      if digit.isDigit then some (16 * value + (digit.toNat - '0'.toNat))
      else if 'a' ≤ digit && digit ≤ 'f' then
        some (16 * value + (digit.toNat - 'a'.toNat) + 10)
      else if 'A' ≤ digit && digit ≤ 'F' then
        some (16 * value + (digit.toNat - 'A'.toNat) + 10)
      else none) (some 0)

/-- A character that is given by its number in a fixed count of digits. -/
def numberedCharacter (count : Nat) (cs : List Char) :
    Option (Char × List Char) :=
  if cs.length < count then none
  else
    match hexadecimal? (cs.take count) with
    | some code =>
      if h : code.isValidChar then some (Char.ofNatAux code h, cs.drop count)
      else none
    | none => none

/-- The character that an escape stands for, after its backslash. -/
def escape : List Char → Option (Char × List Char)
  | 'b' :: rest => some ('\x08', rest)
  | 't' :: rest => some ('\t', rest)
  | 'n' :: rest => some ('\n', rest)
  | 'f' :: rest => some ('\x0c', rest)
  | 'r' :: rest => some ('\r', rest)
  | '"' :: rest => some ('"', rest)
  | '\\' :: rest => some ('\\', rest)
  | 'u' :: rest => numberedCharacter 4 rest
  | 'U' :: rest => numberedCharacter 8 rest
  | _ => none

/-- Skips the end of a line that a backslash joins to the next text.  A
backslash before blanks has to end its line. -/
def joinLines : List Char → Option (List Char)
  | '\n' :: rest => some (rest.dropWhile isBlankOrNewline)
  | c :: rest =>
    if isBlank c then
      match skipBlanks rest with
      | [] => some []
      | '\n' :: following => some (following.dropWhile isBlankOrNewline)
      | _ => none
    else none
  | [] => none

/-- Text in double quotes on one line, after the opening quote. -/
def quotedLine (fuel : Nat) (cs : List Char) : Option (List Char × List Char) :=
  match fuel, cs with
  | 0, _ => none
  | _, [] => none
  | _, '"' :: rest => some ([], rest)
  | fuel + 1, '\\' :: rest => do
    let (character, following) ← escape rest
    let (text, remaining) ← quotedLine fuel following
    return (character :: text, remaining)
  | fuel + 1, c :: rest =>
    if isIllegal c then none
    else do
      let (text, remaining) ← quotedLine fuel rest
      return (c :: text, remaining)

/-- Text in threefold double quotes, after the opening quotes. -/
def quotedLines (fuel : Nat) (cs : List Char) :
    Option (List Char × List Char) :=
  match fuel, cs with
  | 0, _ => none
  | _, [] => none
  | _, '"' :: '"' :: '"' :: rest => some ([], rest)
  | fuel + 1, '\\' :: rest =>
    match joinLines rest with
    | some following => quotedLines fuel following
    | none => do
      let (character, following) ← escape rest
      let (text, remaining) ← quotedLines fuel following
      return (character :: text, remaining)
  | fuel + 1, c :: rest =>
    if c ≠ '"' && isIllegalAcrossLines c then none
    else do
      let (text, remaining) ← quotedLines fuel rest
      return (c :: text, remaining)

/-- Text in single quotes on one line, after the opening quote. -/
def literalLine (cs : List Char) : Option (List Char × List Char) :=
  let text := cs.takeWhile (· ≠ '\'')
  if text.any isIllegal then none
  else match cs.dropWhile (· ≠ '\'') with
    | _ :: rest => some (text, rest)
    | [] => none

/-- Text in threefold single quotes, after the opening quotes. -/
def literalLines : List Char → Option (List Char × List Char)
  | [] => none
  | '\'' :: '\'' :: '\'' :: rest => some ([], rest)
  | c :: rest =>
    if isIllegalAcrossLines c then none
    else do
      let (text, remaining) ← literalLines rest
      return (c :: text, remaining)

/-- Up to two further quotes before the closing ones belong to the text. -/
def trailingQuotes (quote : Char) (text rest : List Char) :
    List Char × List Char :=
  let further := (rest.take 2).takeWhile (· = quote)
  (text ++ further, rest.drop further.length)

/-- A line break right after opening quotes does not count. -/
def skipNewline : List Char → List Char
  | '\n' :: rest => rest
  | cs => cs

/-- Text in any of the four forms. -/
def text : Reader String
  | '"' :: '"' :: '"' :: rest => do
    let (found, remaining) ← quotedLines (rest.length + 1) (skipNewline rest)
    let (found, remaining) := trailingQuotes '"' found remaining
    return (String.ofList found, remaining)
  | '"' :: rest => do
    let (found, remaining) ← quotedLine (rest.length + 1) rest
    return (String.ofList found, remaining)
  | '\'' :: '\'' :: '\'' :: rest => do
    let (found, remaining) ← literalLines (skipNewline rest)
    let (found, remaining) := trailingQuotes '\'' found remaining
    return (String.ofList found, remaining)
  | '\'' :: rest => do
    let (found, remaining) ← literalLine rest
    return (String.ofList found, remaining)
  | _ => none

/-- One part of a key: bare, or text on one line. -/
def keyPart : Reader String
  | '"' :: rest => do
    let (found, remaining) ← quotedLine (rest.length + 1) rest
    return (String.ofList found, remaining)
  | '\'' :: rest => do
    let (found, remaining) ← literalLine rest
    return (String.ofList found, remaining)
  | cs =>
    let found := cs.takeWhile isBareKey
    if found.isEmpty then none
    else some (String.ofList found, cs.dropWhile isBareKey)

/-- The parts of a key, with dots between them. -/
def keyFrom (fuel : Nat) (cs : List Char) : Option (List String × List Char) :=
  match fuel with
  | 0 => none
  | fuel + 1 => do
    let (part, rest) ← keyPart cs
    match skipBlanks rest with
    | '.' :: following =>
      let (parts, remaining) ← keyFrom fuel (skipBlanks following)
      return (part :: parts, remaining)
    | remaining => return ([part], remaining)

/-- A key with the blanks after it. -/
def key : Reader (List String) := fun cs =>
  keyFrom (cs.length + 1) cs

/-- Digits of a class with single underscores between them, after the first. -/
def furtherDigits (isDigit : Char → Bool) : List Char → List Char × List Char
  | '_' :: digit :: rest =>
    if isDigit digit then
      let (digits, remaining) := furtherDigits isDigit rest
      (digit :: digits, remaining)
    else ([], '_' :: digit :: rest)
  | digit :: rest =>
    if isDigit digit then
      let (digits, remaining) := furtherDigits isDigit rest
      (digit :: digits, remaining)
    else ([], digit :: rest)
  | [] => ([], [])

/-- Digits of a class with single underscores between them. -/
def digits (isDigit : Char → Bool) : Reader (List Char)
  | first :: rest =>
    if isDigit first then
      let (further, remaining) := furtherDigits isDigit rest
      some (first :: further, remaining)
    else none
  | [] => none

def isHexadecimal (c : Char) : Bool :=
  c.isDigit || ('a' ≤ c && c ≤ 'f') || ('A' ≤ c && c ≤ 'F')

/-- A number in a base other than ten. -/
def basedNumber : Reader Data
  | '0' :: 'x' :: rest => do
    let (found, remaining) ← digits isHexadecimal rest
    let value ← hexadecimal? found
    return (.integer value, remaining)
  | '0' :: 'b' :: rest => do
    let (found, remaining) ← digits (fun c => c = '0' || c = '1') rest
    return (.integer
      (found.foldl (fun total c => 2 * total + (c.toNat - '0'.toNat)) 0),
      remaining)
  | '0' :: 'o' :: rest => do
    let (found, remaining) ← digits (fun c => '0' ≤ c && c ≤ '7') rest
    return (.integer
      (found.foldl (fun total c => 8 * total + (c.toNat - '0'.toNat)) 0),
      remaining)
  | _ => none

/-- A sign, and whether it is a minus. -/
def sign : List Char → Bool × List Char
  | '-' :: rest => (true, rest)
  | '+' :: rest => (false, rest)
  | cs => (false, cs)

/-- The integer part of a decimal number: zero stands alone. -/
def wholeDigits : Reader (List Char)
  | '0' :: rest => some (['0'], rest)
  | cs => digits Char.isDigit cs

/-- The digits after a decimal point, if there are any. -/
def fraction : List Char → List Char × List Char
  | '.' :: rest => (digits Char.isDigit rest).getD ([], '.' :: rest)
  | cs => ([], cs)

/-- The power of ten after an `e`, if there is one. -/
def power (cs : List Char) : Option Int × List Char :=
  match cs with
  | c :: rest =>
    if c = 'e' || c = 'E' then
      let (negative, following) := sign rest
      match digits Char.isDigit following with
      | some (found, remaining) =>
        let value : Int := decimalValue found
        (some (if negative then -value else value), remaining)
      | none => (none, cs)
    else (none, cs)
  | [] => (none, cs)

/-- How many digits a decimal integer may have. -/
def digitLimit : Nat := 4300

/-- A decimal number; a fraction or a power of ten makes it a real one.  Only an
integer may have too many digits. -/
def decimalNumber : Reader (Except Fault Data) := fun cs => do
  let (negative, rest) := sign cs
  let (whole, rest) ← wholeDigits rest
  let (decimals, rest) := fraction rest
  let (exponent, rest) := power rest
  if decimals.isEmpty && exponent.isNone then
    if digitLimit < whole.length then return (.error .longNumber, rest)
    let value : Int := decimalValue whole
    return (.ok (.integer (if negative then -value else value)), rest)
  else
    let value := Real.ofDecimal negative (decimalValue (whole ++ decimals))
      (exponent.getD 0 - (decimals.length : Int))
    return (.ok (.real value), rest)

/-- The real values that are no numbers. -/
def specialReal : Reader Data := fun cs =>
  let (_, rest) := sign cs
  match rest with
  | 'i' :: 'n' :: 'f' :: following => some (.real .infinite, following)
  | 'n' :: 'a' :: 'n' :: following => some (.real .undefined, following)
  | _ => none

/-- Two digits whose number lies between two bounds. -/
def twoDigits (least greatest : Nat) : Reader Nat
  | tens :: ones :: rest =>
    if tens.isDigit && ones.isDigit then
      let value := decimalValue [tens, ones]
      if least ≤ value && value ≤ greatest then some (value, rest) else none
    else none
  | _ => none

/-- The days of a month. -/
def daysOfMonth (year month : Nat) : Nat :=
  if month = 2 then
    if year % 4 = 0 && (year % 100 ≠ 0 || year % 400 = 0) then 29 else 28
  else if month = 4 || month = 6 || month = 9 || month = 11 then 30
  else 31

/-- Year, month and day, which may still be a day that its month does not have.
-/
def calendarDay : Reader (Nat × Nat × Nat)
  | a :: b :: c :: d :: '-' :: rest =>
    if [a, b, c, d].all Char.isDigit then do
      let (month, rest) ← twoDigits 1 12 rest
      let rest ← after ['-'] rest
      let (day, rest) ← twoDigits 1 31 rest
      return ((decimalValue [a, b, c, d], month, day), rest)
    else none
  | _ => none

/-- Hour, minute and second with an optional fraction; what follows them. -/
def timeOfDay (cs : List Char) : Option (List Char) := do
  let (_, rest) ← twoDigits 0 23 cs
  let rest ← after [':'] rest
  let (_, rest) ← twoDigits 0 59 rest
  let rest ← after [':'] rest
  let (_, rest) ← twoDigits 0 59 rest
  match rest with
  | '.' :: following =>
    if (following.takeWhile Char.isDigit).isEmpty then return rest
    else return following.dropWhile Char.isDigit
  | _ => return rest

/-- What follows the offset of a time, which may be left out. -/
def skipOffset (cs : List Char) : List Char :=
  match cs with
  | c :: rest =>
    if c = 'Z' || c = 'z' then rest
    else if c = '+' || c = '-' then
      let offset : Option (List Char) := do
        let (_, rest) ← twoDigits 0 23 rest
        let rest ← after [':'] rest
        let (_, rest) ← twoDigits 0 59 rest
        return rest
      offset.getD cs
    else cs
  | [] => []

/-- What follows the time after a day, which may be left out. -/
def skipTime (cs : List Char) : List Char :=
  match cs with
  | c :: rest =>
    if c = 'T' || c = 't' || c = ' ' then
      match timeOfDay rest with
      | some following => skipOffset following
      | none => cs
    else cs
  | [] => []

/-- A number, a date or a time.  A day that does not exist is no value at all.
-/
def number (cs : List Char) : Except Fault (Data × List Char) :=
  match calendarDay cs with
  | some ((year, month, day), rest) =>
    if 1 ≤ year && day ≤ daysOfMonth year month then .ok (.date, skipTime rest)
    else .error .malformed
  | none =>
    match timeOfDay cs with
    | some rest => .ok (.date, rest)
    | none =>
      match basedNumber cs, decimalNumber cs with
      | some found, _ => .ok found
      | none, some (read, rest) => read.map fun value => (value, rest)
      | none, none => formed (specialReal cs)

end SymbolDiff.Toml
