import SymbolDiff.Data
import SymbolDiff.Data.Problem
import SymbolDiff.Text.Blank

/-!
# Reading loosely typed data

A reader turns `Data` into a value of the domain or lists every problem of the
data.  `Checked` is its result; parts are read independently of each other, so
that `seq` joins the problems of both sides instead of stopping at the first.
-/

namespace SymbolDiff

/-- A value that was read, or all the problems that stood in the way. -/
inductive Checked (α : Type) where
  | valid (value : α)
  | invalid (problems : List Problem)
  deriving Repr

namespace Checked

variable {α β : Type}

protected def map (f : α → β) : Checked α → Checked β
  | .valid value => .valid (f value)
  | .invalid problems => .invalid problems

/-- Both parts are read whatever becomes of the other. -/
protected def seq : Checked (α → β) → Checked α → Checked β
  | .valid f, .valid value => .valid (f value)
  | .valid _, .invalid problems => .invalid problems
  | .invalid problems, .valid _ => .invalid problems
  | .invalid problems, .invalid further => .invalid (problems ++ further)

instance : Applicative Checked where
  pure := .valid
  map := Checked.map
  seq f value := Checked.seq f (value ())

/-- The whole is judged only when all of its parts are valid. -/
def andThen (checked : Checked α) (next : α → Checked β) : Checked β :=
  match checked with
  | .valid value => next value
  | .invalid problems => .invalid problems

/-- The result as part of a larger value. -/
def under (place : Place) : Checked α → Checked α
  | .valid value => .valid value
  | .invalid problems => .invalid (problems.map (Problem.under place))

/-- A single problem with the whole value. -/
def fail (defect : Defect) : Checked α :=
  .invalid [⟨[], defect⟩]

/-- Reads each member, numbering from `position`. -/
def members (read : Data → Checked α) : Nat → List Data → Checked (List α)
  | _, [] => .valid []
  | position, item :: rest =>
    List.cons <$> under (.index position) (read item) <*>
      members read (position + 1) rest

end Checked

open Checked

/-- Text only; numbers are not text. -/
def readText : Data → Checked String
  | .text value => .valid value
  | _ => fail .notText

/-- Words that stand for a truth value, in lower case. -/
def flagWords : List (String × Bool) :=
  [("0", false), ("off", false), ("f", false), ("false", false), ("n", false),
    ("no", false), ("1", true), ("on", true), ("t", true), ("true", true),
    ("y", true), ("yes", true)]

/-- The value of the first entry under a word. -/
def flagWord? (word : String) : Option Bool :=
  (flagWords.find? fun entry => entry.1 = word).map Prod.snd

/-- Truth values, the numbers zero and one, and the usual words for them in any
case. -/
def readFlag : Data → Checked Bool
  | .bool value => .valid value
  | .integer value =>
    if value = 0 then .valid false
    else if value = 1 then .valid true
    else fail .unreadableFlag
  | .text word =>
    match flagWord? (word.map Char.toLower) with
    | some value => .valid value
    | none => fail .unreadableFlag
  | .real value =>
    match value.whole? with
    | some whole =>
      if whole = 0 then .valid false
      else if whole = 1 then .valid true
      else fail .notFlag
    | none => fail .notFlag
  | _ => fail .notFlag

/-- Digits with single underscores between them, the underscores dropped. -/
def joinedDigits? (digits : List Char) : Option (List Char) :=
  let groups := digits.splitOn '_'
  if groups.all (fun group => !group.isEmpty && group.all Char.isDigit) then
    some groups.flatten
  else
    none

/-- The number that decimal digits stand for. -/
def decimalValue (digits : List Char) : Nat :=
  digits.foldl (fun total digit => 10 * total + (digit.toNat - '0'.toNat)) 0

/-- The part before a decimal point that only zeros follow; everything when
there is no such point. -/
def beforeZeroFraction (digits : List Char) : List Char :=
  let fraction := digits.dropWhile (· ≠ '.')
  if !fraction.isEmpty && fraction.tail.all (· = '0') then
    digits.takeWhile (· ≠ '.')
  else digits

/-- A natural number in decimal digits.  Digits may be grouped by underscores
and followed by an empty fraction; leading zeros are allowed only where
`padded` says so. -/
def naturalText? (padded : Bool) (digits : List Char) : Option Nat :=
  match joinedDigits? (beforeZeroFraction digits) with
  | some joined =>
    if !padded && joined.length > 1 && joined.head? = some '0' then none
    else some (decimalValue joined)
  | none => none

/-- An integer written as text, with blanks around it and a sign before it. -/
def integerText? (text : String) : Option Int :=
  match Text.trim Text.isSpace text.toList with
  | '-' :: digits => (naturalText? false digits).map fun value => -(value : Int)
  | '+' :: digits => (naturalText? true digits).map fun value => (value : Int)
  | digits => (naturalText? true digits).map fun value => (value : Int)

/-- The largest magnitude up to which a real number is taken for an integer. -/
def realIntegerBound : Int := 9223372036854775808

/-- Integers, truth values as one and zero, whole real numbers and decimal
text. -/
def readInteger : Data → Checked Int
  | .integer value => .valid value
  | .bool value => .valid (if value then 1 else 0)
  | .text text =>
    match integerText? text with
    | some value => .valid value
    | none => fail .unreadableInteger
  | .real .infinite => fail .boundlessInteger
  | .real .undefined => fail .boundlessInteger
  | .real value =>
    match value.whole? with
    | some whole =>
      if -realIntegerBound < whole && whole < realIntegerBound then .valid whole
      else fail .oversizedInteger
    | none => fail .fractionalInteger
  | _ => fail .notInteger

/-- Integers from zero on. -/
def readNatural (data : Data) : Checked Nat :=
  (readInteger data).andThen fun value =>
    if value < 0 then fail .negative else .valid value.toNat

/-- One of a fixed list of words, written exactly so. -/
def readChoice {α : Type} (choices : List (String × α)) : Data → Checked α
  | .text word =>
    match choices.find? fun entry => entry.1 = word with
    | some entry => .valid entry.2
    | none => fail (.notOneOf (choices.map Prod.fst))
  | _ => fail (.notOneOf (choices.map Prod.fst))

/-- Null, or what the inner reader accepts. -/
def readOptional {α : Type} (read : Data → Checked α) :
    Data → Checked (Option α)
  | .null => .valid none
  | value => some <$> read value

/-- A list of records, in places numbered from zero. -/
def readSequence {α : Type} (read : Data → Checked α) : Data → Checked (List α)
  | .list items => members read 0 items
  | _ => fail .notSequence

/-- A list of settings, in places numbered from zero. -/
def readList {α : Type} (read : Data → Checked α) : Data → Checked (List α)
  | .list items => members read 0 items
  | _ => fail .notList

/-- A key that has to be there. -/
def required {α : Type} (entries : List (String × Data)) (key : String)
    (read : Data → Checked α) : Checked α :=
  match Data.lookup key entries with
  | some value => under (.key key) (read value)
  | none => under (.key key) (fail .missing)

/-- A key that may be left out. -/
def defaulted {α : Type} (entries : List (String × Data)) (key : String)
    (absent : α) (read : Data → Checked α) : Checked α :=
  match Data.lookup key entries with
  | some value => under (.key key) (read value)
  | none => .valid absent

/-- Every key that is not a known one is a problem of its own. -/
def onlyKeys (known : List String) (entries : List (String × Data)) :
    Checked Unit :=
  match entries.filter fun entry => !known.contains entry.1 with
  | [] => .valid ()
  | unknown => .invalid (unknown.map fun entry => ⟨[.key entry.1], .unknownKey⟩)

/-- The entries of a table that is to be read as a record. -/
def readRecord {α : Type} (model : String)
    (read : List (String × Data) → Checked α) : Data → Checked α
  | .table entries => read entries
  | _ => fail (.notRecord model)

end SymbolDiff
