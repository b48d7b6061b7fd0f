import SymbolDiff.Report.Node

/-!
# Reports as JSON

The machine-readable form of a report: an object for each entry, indented by
two blanks a level, with the keys in the order label, kind, children.  The
absence of differences is `null`.
-/

namespace SymbolDiff.Node

/-- The digit of a number below sixteen. -/
def hexDigit (value : Nat) : Char :=
  if value < 10 then Char.ofNat ('0'.toNat + value)
  else Char.ofNat ('a'.toNat + (value - 10))

/-- A character inside a quoted string: quotes, backslashes and control
characters are escaped. -/
def escape (c : Char) : List Char :=
  if c = '"' then ['\\', '"']
  else if c = '\\' then ['\\', '\\']
  else if c.toNat = 0x08 then ['\\', 'b']
  else if c = '\t' then ['\\', 't']
  else if c = '\n' then ['\\', 'n']
  else if c.toNat = 0x0c then ['\\', 'f']
  else if c = '\r' then ['\\', 'r']
  else if c.toNat < 0x20 then
    ['\\', 'u', '0', '0', hexDigit (c.toNat / 16), hexDigit (c.toNat % 16)]
  else [c]

/-- A quoted string. -/
def quote (text : String) : String :=
  "\"" ++ String.ofList (text.toList.flatMap escape) ++ "\""

/-- The blanks that open a line. -/
def margin (depth : Nat) : String :=
  String.ofList (List.replicate (2 * depth) ' ')

/-- A key with its value, on a line of its own. -/
def field (depth : Nat) (key value : String) : String :=
  margin depth ++ quote key ++ ": " ++ value

/-- Lines between brackets; the closing one stands on a line of its own. -/
def between (opening closing : String) (depth : Nat) (lines : String) :
    String :=
  opening ++ "\n" ++ lines ++ "\n" ++ margin depth ++ closing

mutual

/-- The object of an entry, from its opening to its closing brace. -/
def object (depth : Nat) : Node → String
  | .mk label kind children =>
    between "\x7b" "\x7d" depth
      (field (depth + 1) "label" (quote label) ++ ",\n" ++
        if children.isEmpty then field (depth + 1) "kind" (quote kind.word)
        else field (depth + 1) "kind" (quote kind.word) ++ ",\n" ++
          field (depth + 1) "children"
            (between "[" "]" (depth + 1) (objects (depth + 2) children)))

/-- The objects of a list of entries, separated by commas. -/
def objects (depth : Nat) : List Node → String
  | [] => ""
  | [only] => margin depth ++ object depth only
  | node :: rest =>
    margin depth ++ object depth node ++ ",\n" ++ objects depth rest

end

/-- The JSON text of a report, or of there being none. -/
def json : Option Node → String
  | none => "null\n"
  | some node => object 0 node ++ "\n"

end SymbolDiff.Node
