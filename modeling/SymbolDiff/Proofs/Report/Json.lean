import SymbolDiff.Proofs.Report.Record
import SymbolDiff.Report.Json

/-!
# What the JSON form of a report tells

`Json.Value` says which text is the indented JSON of a value, character by
character and level by level, for the values that stored reports are made of.
The text of a report is the JSON of its stored form, and no other value has the
same text: a string ends at its first quote that is not escaped, and what
follows an item tells whether it was the last one.
-/

namespace SymbolDiff

namespace Json

/-- The characters that are escaped by one letter, with that letter. -/
def shortEscapes : List (Char × Char) :=
  [('"', '"'), ('\\', '\\'), ('\x08', 'b'), ('\x0c', 'f'), ('\n', 'n'),
    ('\r', 'r'), ('\t', 't')]

/-- How a character is spelled inside a string.  Control characters that have
no letter are spelled as four hexadecimal digits. -/
inductive Spelled (character : Char) : List Char → Prop where
  | plain (printable : 0x20 ≤ character.toNat) (unquoted : character ≠ '"')
      (unescaped : character ≠ '\\') : Spelled character [character]
  | short {letter : Char} (escape : (character, letter) ∈ shortEscapes) :
      Spelled character ['\\', letter]
  | code (control : character.toNat < 0x20)
      (long : ∀ letter, (character, letter) ∉ shortEscapes) :
      Spelled character
        ('\\' :: 'u' :: (Nat.toDigits 16 character.toNat).leftpad 4 '0')

/-- The characters of a text, one after the other. -/
inductive Spelling : List Char → List Char → Prop where
  | nil : Spelling [] []
  | cons {character : Char} {text letters others : List Char} :
      Spelled character letters → Spelling text others →
      Spelling (character :: text) (letters ++ others)

/-- A text between quotes. -/
inductive Quoted (text : String) : List Char → Prop where
  | between {letters : List Char} :
      Spelling text.toList letters → Quoted text ('"' :: letters ++ ['"'])

/-- What opens a line at a depth. -/
def blanks (depth : Nat) : List Char :=
  List.replicate (2 * depth) ' '

mutual

/-- The JSON of a value that stands at a depth, from its first character to its
last.  Items and entries stand on lines of their own, one level deeper. -/
inductive Value : Nat → Data → List Char → Prop where
  | null (depth : Nat) : Value depth .null ['n', 'u', 'l', 'l']
  | text {depth : Nat} {text : String} {letters : List Char} :
      Quoted text letters → Value depth (.text text) letters
  | list {depth : Nat} {items : List Data} {letters : List Char} :
      Items (depth + 1) items letters →
      Value depth (.list items)
        ('[' :: '\n' :: letters ++ '\n' :: blanks depth ++ [']'])
  | table {depth : Nat} {entries : List (String × Data)} {letters : List Char} :
      Entries (depth + 1) entries letters →
      Value depth (.table entries)
        ('\x7b' :: '\n' :: letters ++ '\n' :: blanks depth ++ ['\x7d'])

inductive Items : Nat → List Data → List Char → Prop where
  | last {depth : Nat} {item : Data} {letters : List Char} :
      Value depth item letters → Items depth [item] (blanks depth ++ letters)
  | cons {depth : Nat} {item : Data} {items : List Data}
      {letters others : List Char} :
      Value depth item letters → Items depth items others →
      Items depth (item :: items)
        (blanks depth ++ letters ++ ',' :: '\n' :: others)

inductive Entries : Nat → List (String × Data) → List Char → Prop where
  | last {depth : Nat} {key : String} {value : Data} {name letters : List Char} :
      Quoted key name → Value depth value letters →
      Entries depth [(key, value)] (blanks depth ++ name ++ ':' :: ' ' :: letters)
  | cons {depth : Nat} {key : String} {value : Data}
      {entries : List (String × Data)} {name letters others : List Char} :
      Quoted key name → Value depth value letters → Entries depth entries others →
      Entries depth ((key, value) :: entries)
        (blanks depth ++ name ++ ':' :: ' ' :: letters ++ ',' :: '\n' :: others)

end

section Reading

variable {rest others : List Char}

theorem Spelled.split {first second : Char} {letters otherLetters : List Char}
    (spelled : Spelled first letters) (spelledToo : Spelled second otherLetters)
    (same : letters ++ rest = otherLetters ++ others) :
    first = second ∧ rest = others := by
  have distinct : ∀ escape ∈ shortEscapes, ∀ other ∈ shortEscapes,
      escape.2 = other.2 → escape = other := by decide
  have lettered : ∀ escape ∈ shortEscapes, escape.2 ≠ 'u' := by decide
  cases spelled with
  | plain _ _ unescaped =>
      cases spelledToo with
      | plain => simpa using same
      | short => exact absurd (List.cons.inj same).1 unescaped
      | code => exact absurd (List.cons.inj same).1 unescaped
  | @short letter escape =>
      cases spelledToo with
      | plain _ _ unescaped => exact absurd (List.cons.inj same).1.symm unescaped
      | short escapeToo =>
          simp only [List.cons_append, List.nil_append, List.cons.injEq, true_and]
            at same
          have pair := distinct _ escape _ escapeToo same.1
          exact ⟨congrArg Prod.fst pair, same.2⟩
      | code =>
          simp only [List.cons_append, List.nil_append, List.cons.injEq, true_and]
            at same
          exact absurd same.1 (lettered _ escape)
  | code control =>
      cases spelledToo with
      | plain _ _ unescaped => exact absurd (List.cons.inj same).1.symm unescaped
      | short escapeToo =>
          simp only [List.cons_append, List.nil_append, List.cons.injEq, true_and]
            at same
          exact absurd same.1.symm (lettered _ escapeToo)
      | code controlToo =>
          have four : ∀ code < 0x20,
              ((Nat.toDigits 16 code).leftpad 4 '0').length = 4 := by decide
          have digits : ∀ code < 0x20, ∀ other < 0x20,
              (Nat.toDigits 16 code).leftpad 4 '0' =
                (Nat.toDigits 16 other).leftpad 4 '0' → code = other := by
            decide +kernel
          simp only [List.cons_append, List.cons.injEq, true_and] at same
          obtain ⟨codes, following⟩ := List.append_inj same
            ((four _ control).trans (four _ controlToo).symm)
          exact ⟨Char.toNat_inj.mp (digits _ control _ controlToo codes),
            following⟩

/-- No spelling begins with a quote. -/
theorem Spelled.append_ne_quote {character : Char} {letters : List Char}
    (spelled : Spelled character letters) :
    letters ++ rest ≠ '"' :: others := by
  intro same
  cases spelled with
  | plain _ unquoted => exact unquoted (List.cons.inj same).1
  | short => exact absurd (List.cons.inj same).1 (by decide)
  | code => exact absurd (List.cons.inj same).1 (by decide)

theorem Spelling.split {first second letters otherLetters : List Char}
    (spelling : Spelling first letters)
    (spellingToo : Spelling second otherLetters)
    (same : letters ++ '"' :: rest = otherLetters ++ '"' :: others) :
    first = second ∧ rest = others := by
  induction spelling generalizing second otherLetters with
  | nil =>
      cases spellingToo with
      | nil => simpa using same
      | cons spelled _ =>
          rw [List.append_assoc] at same
          exact absurd same.symm spelled.append_ne_quote
  | cons spelled _ induction =>
      cases spellingToo with
      | nil =>
          rw [List.append_assoc] at same
          exact absurd same spelled.append_ne_quote
      | cons spelledToo following =>
          rw [List.append_assoc, List.append_assoc] at same
          obtain ⟨rfl, left⟩ := spelled.split spelledToo same
          obtain ⟨rfl, last⟩ := induction following left
          exact ⟨rfl, last⟩

theorem Quoted.split {first second : String} {letters otherLetters : List Char}
    (quoted : Quoted first letters) (quotedToo : Quoted second otherLetters)
    (same : letters ++ rest = otherLetters ++ others) :
    first = second ∧ rest = others := by
  obtain ⟨spelling⟩ := quoted
  obtain ⟨spellingToo⟩ := quotedToo
  simp only [List.cons_append, List.append_assoc, List.nil_append,
    List.cons.injEq, true_and] at same
  obtain ⟨texts, left⟩ := spelling.split spellingToo same
  exact ⟨String.toList_inj.mp texts, left⟩

/-- The line of an entry tells its key, and then its value if that is told. -/
theorem Quoted.split_entry {depth : Nat} {key otherKey : String}
    {value otherValue : Data} {name otherName letters otherLetters : List Char}
    (quoted : Quoted key name) (quotedToo : Quoted otherKey otherName)
    (told : letters ++ rest = otherLetters ++ others →
      value = otherValue ∧ rest = others)
    (same : blanks depth ++ name ++ ':' :: ' ' :: letters ++ rest =
      blanks depth ++ otherName ++ ':' :: ' ' :: otherLetters ++ others) :
    (key, value) = (otherKey, otherValue) ∧ rest = others := by
  simp only [List.append_assoc, List.append_cancel_left_eq] at same
  obtain ⟨rfl, left⟩ := quoted.split quotedToo same
  simp only [List.cons_append, List.cons.injEq, true_and] at left
  obtain ⟨rfl, last⟩ := told left
  exact ⟨rfl, last⟩

mutual

/-- The JSON of a value tells the value, whatever follows it. -/
theorem Value.split {depth : Nat} {first second : Data}
    {letters otherLetters rest others : List Char}
    (value : Value depth first letters)
    (valueToo : Value depth second otherLetters)
    (same : letters ++ rest = otherLetters ++ others) :
    first = second ∧ rest = others := by
  cases value with
  | null =>
      cases valueToo with
      | null => simpa using same
      | text quoted => cases quoted; simp at same
      | list => simp at same
      | table => simp at same
  | text quoted =>
      cases valueToo with
      | null => cases quoted; simp at same
      | text quotedToo =>
          obtain ⟨rfl, left⟩ := quoted.split quotedToo same
          exact ⟨rfl, left⟩
      | list => cases quoted; simp at same
      | table => cases quoted; simp at same
  | list items =>
      cases valueToo with
      | null => simp at same
      | text quoted => cases quoted; simp at same
      | list itemsToo =>
          simp only [List.cons_append, List.append_assoc, List.nil_append,
            List.cons.injEq, true_and] at same
          obtain ⟨rfl, left⟩ := items.split itemsToo same
          simpa using left
      | table => simp at same
  | table entries =>
      cases valueToo with
      | null => simp at same
      | text quoted => cases quoted; simp at same
      | list => simp at same
      | table entriesToo =>
          simp only [List.cons_append, List.append_assoc, List.nil_append,
            List.cons.injEq, true_and] at same
          obtain ⟨rfl, left⟩ := entries.split entriesToo same
          simpa using left

theorem Items.split {depth : Nat} {first second : List Data}
    {letters otherLetters rest others : List Char}
    (items : Items depth first letters)
    (itemsToo : Items depth second otherLetters)
    (same : letters ++ '\n' :: rest = otherLetters ++ '\n' :: others) :
    first = second ∧ rest = others := by
  cases items with
  | last value =>
      cases itemsToo with
      | last valueToo =>
          simp only [List.append_assoc, List.append_cancel_left_eq] at same
          obtain ⟨rfl, left⟩ := value.split valueToo same
          simpa using left
      | cons valueToo _ =>
          simp only [List.append_assoc, List.append_cancel_left_eq] at same
          obtain ⟨_, left⟩ := value.split valueToo same
          simp at left
  | cons value items =>
      cases itemsToo with
      | last valueToo =>
          simp only [List.append_assoc, List.append_cancel_left_eq] at same
          obtain ⟨_, left⟩ := value.split valueToo same
          simp at left
      | cons valueToo itemsToo =>
          simp only [List.append_assoc, List.append_cancel_left_eq] at same
          obtain ⟨rfl, left⟩ := value.split valueToo same
          simp only [List.cons_append, List.cons.injEq, true_and] at left
          obtain ⟨rfl, last⟩ := items.split itemsToo left
          exact ⟨rfl, last⟩

theorem Entries.split {depth : Nat} {first second : List (String × Data)}
    {letters otherLetters rest others : List Char}
    (entries : Entries depth first letters)
    (entriesToo : Entries depth second otherLetters)
    (same : letters ++ '\n' :: rest = otherLetters ++ '\n' :: others) :
    first = second ∧ rest = others := by
  cases entries with
  | last key value =>
      cases entriesToo with
      | last keyToo valueToo =>
          obtain ⟨entry, left⟩ :=
            key.split_entry keyToo (value.split valueToo) same
          simpa [entry] using left
      | cons keyToo valueToo _ =>
          rw [List.append_assoc _ (',' :: _)] at same
          obtain ⟨_, left⟩ :=
            key.split_entry keyToo (value.split valueToo) same
          simp at left
  | cons key value entries =>
      rw [List.append_assoc _ (',' :: _)] at same
      cases entriesToo with
      | last keyToo valueToo =>
          obtain ⟨_, left⟩ :=
            key.split_entry keyToo (value.split valueToo) same
          simp at left
      | cons keyToo valueToo entriesToo =>
          rw [List.append_assoc _ (',' :: _)] at same
          obtain ⟨entry, left⟩ :=
            key.split_entry keyToo (value.split valueToo) same
          simp only [List.cons_append, List.cons.injEq, true_and] at left
          obtain ⟨rfl, last⟩ := entries.split entriesToo left
          exact ⟨congrArg (· :: _) entry, last⟩

end

end Reading

theorem Value.unique {depth : Nat} {first second : Data} {letters : List Char}
    (value : Value depth first letters) (valueToo : Value depth second letters) :
    first = second :=
  (value.split valueToo (rfl : letters ++ [] = letters ++ [])).1

end Json

namespace Node

open Json

theorem spelled_escape (character : Char) :
    Spelled character (escape character) := by
  have codes : ∀ code < 0x20, Char.ofNat code ∉ shortEscapes.map Prod.fst →
      escape (Char.ofNat code) =
        '\\' :: 'u' ::
          (Nat.toDigits 16 (Char.ofNat code).toNat).leftpad 4 '0' := by
    decide +kernel
  have letters : ∀ escaped ∈ shortEscapes,
      escape escaped.1 = ['\\', escaped.2] := by decide
  by_cases short : ∃ letter, (character, letter) ∈ shortEscapes
  · obtain ⟨letter, escaped⟩ := short
    rw [letters _ escaped]
    exact .short escaped
  · have long := not_exists.mp short
    have other : ∀ escaped ∈ shortEscapes, character ≠ escaped.1 := by
      rintro escaped member rfl
      exact long escaped.2 member
    by_cases control : character.toNat < 0x20
    · have spelled := codes _ control
      rw [Char.ofNat_toNat] at spelled
      rw [spelled (by simpa using long)]
      exact .code control long
    · have quote := other ('"', '"') (by decide)
      have backslash := other ('\\', '\\') (by decide)
      have tab := other ('\t', 't') (by decide)
      have newline := other ('\n', 'n') (by decide)
      have carriage := other ('\r', 'r') (by decide)
      have itself : escape character = [character] := by
        have backspace : character.toNat ≠ 0x08 := by omega
        have formFeed : character.toNat ≠ 0x0c := by omega
        simp only [escape, if_neg quote, if_neg backslash, if_neg backspace,
          if_neg tab, if_neg newline, if_neg formFeed, if_neg carriage,
          if_neg control]
      rw [itself]
      exact .plain (Nat.le_of_not_lt control) quote backslash

theorem spelling_escape (text : List Char) :
    Spelling text (text.flatMap escape) := by
  induction text with
  | nil => exact .nil
  | cons character rest induction =>
      rw [List.flatMap_cons]
      exact .cons (spelled_escape character) induction

theorem toList_quote (text : String) :
    (quote text).toList = '"' :: text.toList.flatMap escape ++ ['"'] := by
  simp [quote]

theorem quoted_quote (text : String) : Quoted text (quote text).toList := by
  rw [toList_quote]
  exact .between (spelling_escape text.toList)

theorem toList_margin (depth : Nat) : (margin depth).toList = blanks depth := by
  simp [margin, blanks]

theorem toList_field (depth : Nat) (key value : String) :
    (field depth key value).toList =
      blanks depth ++ (quote key).toList ++ ':' :: ' ' :: value.toList := by
  simp [field, toList_margin]

theorem toList_between (opening closing : String) (depth : Nat) (lines : String) :
    (between opening closing depth lines).toList =
      opening.toList ++ '\n' :: lines.toList ++ '\n' :: blanks depth ++
        closing.toList := by
  simp [between, toList_margin]

theorem toList_comma (first rest : String) :
    (first ++ ",\n" ++ rest).toList =
      first.toList ++ ',' :: '\n' :: rest.toList := by
  simp

mutual

/-- The object of an entry is the JSON of its stored form. -/
theorem value_object (depth : Nat) (node : Node) :
    Value depth node.toData (object depth node).toList := by
  obtain ⟨label, kind, children⟩ := node
  have name : Value (depth + 1) (.text label) (quote label).toList :=
    .text (quoted_quote label)
  have word : Value (depth + 1) (.text kind.word) (quote kind.word).toList :=
    .text (quoted_quote kind.word)
  rw [object, toList_between, toList_comma]
  by_cases empty : children = []
  · subst empty
    have entries := Json.Entries.cons (quoted_quote "label") name
      (.last (quoted_quote "kind") word)
    rw [← toList_field, ← toList_field] at entries
    rw [toData_leaf, List.isEmpty_nil, if_pos rfl]
    exact .table entries
  · have below : Value (depth + 1) (.list (toDataList children))
        (between "[" "]" (depth + 1) (objects (depth + 2) children)).toList := by
      rw [toList_between]
      exact .list (items_objects (depth + 2) empty)
    have entries := Json.Entries.cons (quoted_quote "label") name
      (.cons (quoted_quote "kind") word (.last (quoted_quote "children") below))
    rw [← toList_field, ← toList_field, ← toList_field, ← toList_comma] at entries
    rw [toData_inner label kind empty, if_neg (by simpa using empty)]
    exact .table entries

theorem items_objects (depth : Nat) {nodes : List Node} (some : nodes ≠ []) :
    Items depth (toDataList nodes) (objects depth nodes).toList := by
  cases nodes with
  | nil => exact absurd rfl some
  | cons node rest =>
      have value := value_object depth node
      cases rest with
      | nil =>
          rw [objects, String.toList_append, toList_margin]
          exact .last value
      | cons next others =>
          have items := items_objects depth (List.cons_ne_nil next others)
          rw [objects, toList_comma, String.toList_append, toList_margin]
          · exact .cons value items
          · exact List.cons_ne_nil next others

end

theorem exists_toData_eq_table (node : Node) :
    ∃ entries, node.toData = .table entries := by
  obtain ⟨label, kind, children⟩ := node
  by_cases empty : children = []
  · subst empty
    exact ⟨_, toData_leaf label kind⟩
  · exact ⟨_, toData_inner label kind empty⟩

theorem word_inj {first second : Kind} :
    first.word = second.word ↔ first = second := by
  cases first <;> cases second <;> decide

mutual

/-- Reports with the same stored form are the same. -/
theorem toData_inj {first second : Node} (same : first.toData = second.toData) :
    first = second := by
  obtain ⟨label, kind, children⟩ := first
  obtain ⟨otherLabel, otherKind, otherChildren⟩ := second
  by_cases empty : children = []
  · by_cases emptyToo : otherChildren = []
    · subst empty emptyToo
      simpa [toData_leaf, word_inj] using same
    · simp [empty, toData_leaf, toData_inner _ _ emptyToo] at same
  · by_cases emptyToo : otherChildren = []
    · simp [emptyToo, toData_leaf, toData_inner _ _ empty] at same
    · simp only [toData_inner _ _ empty, toData_inner _ _ emptyToo,
        Data.table.injEq, List.cons.injEq, Prod.mk.injEq, Data.text.injEq,
        Data.list.injEq, word_inj, true_and, and_true] at same
      obtain ⟨sameLabel, sameKind, sameChildren⟩ := same
      rw [sameLabel, sameKind, toDataList_inj sameChildren]

theorem toDataList_inj {first second : List Node}
    (same : toDataList first = toDataList second) : first = second := by
  cases first with
  | nil =>
      cases second with
      | nil => rfl
      | cons => simp [toDataList] at same
  | cons node rest =>
      cases second with
      | nil => simp [toDataList] at same
      | cons other others =>
          rw [toDataList, toDataList, List.cons.injEq] at same
          rw [toData_inj same.1, toDataList_inj same.2]

end

/-- The machine-readable report is the JSON of the stored form, and a line
break. -/
theorem value_json (node : Node) :
    ∃ letters, (json (some node)).toList = letters ++ ['\n'] ∧
      Value 0 node.toData letters := by
  refine ⟨(object 0 node).toList, ?_, value_object 0 node⟩
  simp [json]

end Node

end SymbolDiff
