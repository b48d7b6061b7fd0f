import SymbolDiff.Toml.Scalar

/-!
# Settings files

A reader of the TOML format, version 1.0.  A document is a sequence of
statements, each of which enters a value, opens a table or opens a further
table of a list.  The document keeps what may no longer be touched: tables that
were opened by name, and lists and tables that were written out in one place.
-/

namespace SymbolDiff.Toml

/-- The entries of a table. -/
abbrev Entries := List (String × Data)

/-- Puts a value in the place of the one under a key. -/
def replace (key : String) (value : Data) : Entries → Entries
  | [] => [(key, value)]
  | (name, present) :: rest =>
    if name = key then (name, value) :: rest
    else (name, present) :: replace key value rest

/-- Changes the table at the end of a path.  Tables that are missing on the way
are made.  Where `throughLists` says so a list of tables stands for its last
one; any other value is in the way. -/
def within (throughLists : Bool) (change : Entries → Option Entries) :
    List String → Entries → Option Entries
  | [], entries => change entries
  | key :: rest, entries =>
    match Data.lookup key entries with
    | none => do
      let inner ← within throughLists change rest []
      return replace key (.table inner) entries
    | some (.table present) => do
      let inner ← within throughLists change rest present
      return replace key (.table inner) entries
    | some (.list items) =>
      match throughLists, items.getLast? with
      | true, some (.table present) => do
        let inner ← within throughLists change rest present
        return replace key (.list (items.dropLast ++ [.table inner])) entries
      | _, _ => none
    | some _ => none

/-- Enters a value under a key that is still free. -/
def enter (key : String) (value : Data) (entries : Entries) : Option Entries :=
  match Data.lookup key entries with
  | some _ => none
  | none => some (entries ++ [(key, value)])

/-- Adds an empty table to the list under a key. -/
def extend (key : String) (entries : Entries) : Option Entries :=
  match Data.lookup key entries with
  | none => some (entries ++ [(key, .list [.table []])])
  | some (.list items) =>
    some (replace key (.list (items ++ [.table []])) entries)
  | some _ => none

/-- Whether a path lies at or below one of some paths. -/
def isCovered (paths : List (List String)) (path : List String) : Bool :=
  paths.any fun covering => covering.isPrefixOf path

/-- Skips blanks, line breaks and comments. -/
def skipFiller (fuel : Nat) (cs : List Char) : Option (List Char) :=
  match fuel with
  | 0 => some cs
  | fuel + 1 =>
    match cs.dropWhile isBlankOrNewline with
    | '#' :: rest => do
      let following ← skipComment ('#' :: rest)
      skipFiller fuel following
    | rest => some rest

/-- Lists and tables that are written out in one place are not added to later.
-/
def isWrittenOut : Data → Bool
  | .list _ => true
  | .table _ => true
  | _ => false

mutual

/-- Any value.  Lists and tables that stand in each other are followed as far as
the `stack` of the process reaches, of which a list takes two calls and a table
three. -/
def value (fuel stack : Nat) (cs : List Char) :
    Except Fault (Data × List Char) :=
  match fuel with
  | 0 => .error .malformed
  | fuel + 1 =>
    match cs with
    | '"' :: _ => formed ((text cs).map fun found => (.text found.1, found.2))
    | '\'' :: _ => formed ((text cs).map fun found => (.text found.1, found.2))
    | '[' :: rest =>
      match stack with
      | stack + 2 => do
        let (items, remaining) ← listItems fuel stack rest
        return (.list items, remaining)
      | _ => .error .deepNesting
    | '{' :: rest =>
      match stack with
      | stack + 3 =>
        match skipBlanks rest with
        | '}' :: remaining => .ok (.table [], remaining)
        | following => do
          let (entries, remaining) ← tableEntries fuel stack [] [] following
          return (.table entries, remaining)
      | _ => .error .deepNesting
    | _ =>
      match after "true".toList cs with
      | some rest => .ok (.bool true, rest)
      | none =>
        match after "false".toList cs with
        | some rest => .ok (.bool false, rest)
        | none => number cs

/-- The items of a list up to its end. -/
def listItems (fuel stack : Nat) (cs : List Char) :
    Except Fault (List Data × List Char) :=
  match fuel with
  | 0 => .error .malformed
  | fuel + 1 => do
    match ← formed (skipFiller cs.length cs) with
    | ']' :: remaining => return ([], remaining)
    | start =>
      let (item, rest) ← value fuel stack start
      match ← formed (skipFiller rest.length rest) with
      | ']' :: remaining => return ([item], remaining)
      | ',' :: following =>
        let (items, remaining) ← listItems fuel stack following
        return (item :: items, remaining)
      | _ => .error .malformed

/-- The entries of a table on one line up to its end; at least one has to
follow. -/
def tableEntries (fuel stack : Nat) (closed : List (List String))
    (entries : Entries) (cs : List Char) : Except Fault (Entries × List Char) :=
  match fuel with
  | 0 => .error .malformed
  | fuel + 1 => do
    let (path, rest) ← formed (key cs)
    let rest ← formed (after ['='] rest)
    let (entered, rest) ← value fuel stack (skipBlanks rest)
    if isCovered closed path then .error .malformed
    else
      let entries ← formed
        (within false
          (enter (path.getLast?.getD "") entered) path.dropLast entries)
      match skipBlanks rest with
      | '}' :: remaining => return (entries, remaining)
      | ',' :: following =>
        let closed := if isWrittenOut entered then path :: closed else closed
        tableEntries fuel stack closed entries (skipBlanks following)
      | _ => .error .malformed

end

/-- A document as far as it was read. -/
structure Document where
  entries : Entries
  /-- The path of the table that was opened last. -/
  header : List String
  /-- Paths that may not be opened by name any more. -/
  opened : List (List String)
  /-- Paths that join these once the next table is opened. -/
  pending : List (List String)
  /-- Paths of lists and tables that were written out in one place. -/
  closed : List (List String)

/-- A document of which nothing was read. -/
def Document.empty : Document :=
  ⟨[], [], [], [], []⟩

/-- The tables that a key with dots leads through, as paths from the top. -/
def tablesThrough (header path : List String) : List (List String) :=
  ((List.range path.length).drop 1).map fun count => header ++ path.take count

/-- Enters a value under a key of the table that is open. -/
def Document.assign (document : Document) (path : List String)
    (entered : Data) : Option Document := do
  let through := tablesThrough document.header path
  let parent := document.header ++ path.dropLast
  if through.any document.opened.contains ||
    isCovered document.closed parent then none
  else
    let entries ←
      within true
        (enter (path.getLast?.getD "") entered) parent document.entries
    return { document with
      entries := entries
      pending := through ++ document.pending
      closed :=
        if isWrittenOut entered then
          (document.header ++ path) :: document.closed
        else document.closed }

/-- The pending paths take effect. -/
def Document.settle (document : Document) : Document :=
  { document with opened := document.pending ++ document.opened, pending := [] }

/-- Opens a table by name. -/
def Document.openTable (document : Document) (path : List String) :
    Option Document := do
  let document := document.settle
  if document.opened.contains path || isCovered document.closed path then none
  else
    let entries ← within true some path document.entries
    return { document with
      entries := entries, header := path, opened := path :: document.opened }

/-- Opens a further table of a list.  What lies below the list may be opened
anew. -/
def Document.openItem (document : Document) (path : List String) :
    Option Document := do
  let document := document.settle
  if isCovered document.closed path then none
  else
    let isElsewhere (other : List String) : Bool := !path.isPrefixOf other
    let entries ←
      within true
        (extend (path.getLast?.getD "")) path.dropLast document.entries
    return { document with
      entries := entries
      header := path
      opened := path :: document.opened.filter isElsewhere
      closed := document.closed.filter isElsewhere }

/-- Reads one statement from its first character on, without what follows it on
its line. -/
def statement (stack : Nat) (document : Document) (cs : List Char) :
    Except Fault (Document × List Char) :=
  match cs with
  | '#' :: _ => .ok (document, cs)
  | '[' :: '[' :: rest => formed do
    let (path, rest) ← key (skipBlanks rest)
    let document ← document.openItem path
    let rest ← after [']', ']'] rest
    return (document, skipBlanks rest)
  | '[' :: rest => formed do
    let (path, rest) ← key (skipBlanks rest)
    let document ← document.openTable path
    let rest ← after [']'] rest
    return (document, skipBlanks rest)
  | _ => do
    let (path, rest) ← formed (key cs)
    let rest ← formed (after ['='] rest)
    let (entered, rest) ← value (2 * rest.length + 2) stack (skipBlanks rest)
    let document ← formed (document.assign path entered)
    return (document, skipBlanks rest)

/-- Reads the statements that are left. -/
def statements (fuel stack : Nat) (document : Document) (cs : List Char) :
    Except Fault Document :=
  match fuel with
  | 0 => .error .malformed
  | fuel + 1 =>
    match skipBlanks cs with
    | [] => .ok document
    | '\n' :: rest => statements fuel stack document rest
    | start => do
      let (document, rest) ← statement stack document start
      match ← formed (skipComment rest) with
      | [] => return document
      | '\n' :: following => statements fuel stack document following
      | _ => .error .malformed

/-- Line breaks of two characters count as one. -/
def uniformNewlines : List Char → List Char
  | '\r' :: '\n' :: rest => '\n' :: uniformNewlines rest
  | c :: rest => c :: uniformNewlines rest
  | [] => []

/-- The table that a text stands for, when lists and tables are followed as far
as the stack reaches. -/
def read (stack : Nat) (source : String) : Except Fault Data :=
  let cs := uniformNewlines source.toList
  (statements (cs.length + 1) stack .empty cs).map fun document =>
    .table document.entries

end SymbolDiff.Toml
