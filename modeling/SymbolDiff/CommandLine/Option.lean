import SymbolDiff.Text.Quoted

/-!
# Options of a command line

A form lists the options and the positional words that a command understands.
Words that start with a dash are options; their values follow in the next word
or after an equals sign, and long options may be cut short as long as it is
clear which one is meant.  After `--` no word is an option.  What a form does
not know is left over, so that the caller can decide what to do with it.
-/

namespace SymbolDiff.CommandLine

/-- An option that a command understands. -/
structure Switch where
  names : List String
  takesValue : Bool := true
  choices : Option (List String) := none
  isRequired : Bool := false
  deriving DecidableEq, Repr

/-- All names of an option. -/
def Switch.title (switch : Switch) : String :=
  "/".intercalate switch.names

/-- The option that asks for help, which every form has. -/
def helpSwitch : Switch :=
  { names := ["-h", "--help"], takesValue := false }

/-- What a command understands. -/
structure Form where
  program : String
  switches : List Switch
  positionals : List String

/-- A use of the command line that is not understood. -/
structure Misuse where
  program : String
  reason : String
  deriving DecidableEq, Repr

def Misuse.message (misuse : Misuse) : String :=
  misuse.program ++ ": error: " ++ misuse.reason

/-- A command line that ends the work before it starts. -/
inductive Halt where
  | misused (misuse : Misuse)
  | help
  deriving DecidableEq, Repr

/-- A text that is attached to the name of an option. -/
inductive Attached where
  | nothing
  /-- After an equals sign. -/
  | equated (value : String)
  /-- Right after a name of one letter. -/
  | appended (value : String)
  deriving DecidableEq, Repr

/-- A word of a command line as a form sees it. -/
inductive Word where
  | plain (text : String)
  | separator
  | option (switch : Switch) (attached : Attached)
  | unknown (text : String)
  deriving DecidableEq, Repr

/-- The text before the first equals sign, and what is equated to it. -/
def cutAtEquals (word : List Char) : List Char × Attached :=
  match word.dropWhile (· ≠ '=') with
  | _ :: value => (word.takeWhile (· ≠ '='), .equated (String.ofList value))
  | [] => (word, .nothing)

/-- A number below zero is not an option. -/
def isNegativeNumber (word : List Char) : Bool :=
  match word with
  | '-' :: digits =>
    match digits.dropWhile Char.isDigit with
    | [] => !digits.isEmpty
    | '.' :: decimals => !decimals.isEmpty && decimals.all Char.isDigit
    | _ => false
  | _ => false

/-- The options of a form with one entry for each of their names. -/
def Form.names (form : Form) : List (String × Switch) :=
  form.switches.flatMap fun switch =>
    switch.names.map fun name => (name, switch)

/-- The option of exactly this name. -/
def Form.named? (form : Form) (name : List Char) : Option Switch :=
  (form.names.find? fun entry => entry.1.toList = name).map Prod.snd

/-- What a word that starts with a dash and is no full name may stand for. -/
def Form.candidates (form : Form) (word : List Char) : List (String × Word) :=
  match word with
  | '-' :: '-' :: _ =>
    let (cut, attached) := cutAtEquals word
    form.names.filterMap fun entry =>
      if cut.isPrefixOf entry.1.toList then
        some (entry.1, .option entry.2 attached)
      else none
  | _ =>
    form.names.filterMap fun entry =>
      if entry.1.toList = word.take 2 then
        some (entry.1,
          .option entry.2 (.appended (String.ofList (word.drop 2))))
      else none

/-- How a form sees a word before any separator. -/
def Form.classify (form : Form) (text : String) : Except Misuse Word :=
  let word := text.toList
  if word.head? ≠ some '-' then .ok (.plain text)
  else
    match form.named? word with
    | some switch => .ok (.option switch .nothing)
    | none =>
      if word.length = 1 then .ok (.plain text)
      else
        match cutAtEquals word with
        | (name, .equated value) =>
          match form.named? name with
          | some switch => .ok (.option switch (.equated value))
          | none => guess word
        | _ => guess word
where
  guess (word : List Char) : Except Misuse Word :=
    match form.candidates word with
    | [(_, found)] => .ok found
    | [] =>
      if isNegativeNumber word || word.contains ' ' then .ok (.plain text)
      else .ok (.unknown text)
    | several =>
      .error ⟨form.program, "ambiguous option: " ++ text ++ " could match " ++
        ", ".intercalate (several.map Prod.fst)⟩

/-- How a form sees all words; after the separator all are plain. -/
def Form.classifyAll (form : Form) : List String → Except Misuse (List Word)
  | [] => .ok []
  | text :: rest =>
    if text = "--" then .ok (.separator :: rest.map Word.plain)
    else do
      let word ← form.classify text
      let words ← form.classifyAll rest
      return word :: words

/-- What was found on a command line. -/
structure Findings where
  /-- Options by their last names with their values, in order. -/
  options : List (String × String) := []
  positionals : List String := []
  leftOver : List String := []
  deriving DecidableEq, Repr

namespace Findings

/-- The value of an option, of which the last use counts. -/
def value? (findings : Findings) (name : String) : Option String :=
  ((findings.options.filter fun entry => entry.1 = name).getLast?).map Prod.snd

/-- The values of an option that may be repeated. -/
def values (findings : Findings) (name : String) : List String :=
  (findings.options.filter fun entry => entry.1 = name).map Prod.snd

/-- Whether an option is used at all. -/
def uses (findings : Findings) (name : String) : Bool :=
  findings.options.any fun entry => entry.1 = name

def addOption (findings : Findings) (switch : Switch) (value : String) :
    Findings :=
  { findings with
    options := findings.options ++ [(switch.names.getLast?.getD "", value)] }

def addPositional (findings : Findings) (text : String) : Findings :=
  { findings with positionals := findings.positionals ++ [text] }

def leave (findings : Findings) (text : String) : Findings :=
  { findings with leftOver := findings.leftOver ++ [text] }

end Findings

/-- A fault of one option. -/
def Form.fault (form : Form) (title reason : String) : Halt :=
  .misused ⟨form.program, "argument " ++ title ++ ": " ++ reason⟩

/-- The fault of a value that is none of the choices. -/
def Form.badChoice (form : Form) (title : String) (choices : List String)
    (value : String) : Halt :=
  form.fault title
    ("invalid choice: " ++ Text.quoted value ++ " (choose from " ++
    ", ".intercalate (choices.map Text.quoted) ++ ")")

/-- Takes a value for an option. -/
def Form.accept (form : Form) (findings : Findings) (switch : Switch)
    (value : String) : Except Halt Findings :=
  match switch.choices with
  | some choices =>
    if choices.contains value then .ok (findings.addOption switch value)
    else .error (form.badChoice switch.title choices value)
  | none => .ok (findings.addOption switch value)

/-- Takes an option without a value. -/
def raise (findings : Findings) (switch : Switch) : Except Halt Findings :=
  if switch = helpSwitch then .error .help
  else .ok (findings.addOption switch "")

/-- The fault of a value for an option that takes none. -/
def Form.ignore (form : Form) (switch : Switch) (value : String) :
    Except Halt Findings :=
  .error (form.fault switch.title
    ("ignored explicit argument " ++ Text.quoted value))

/-- Goes through the words.  `afterPositional` says whether the word before was
taken as a positional one; a separator right after it, or before one that is
still to come, does not count. -/
def Form.collect (form : Form) (findings : Findings) (afterPositional : Bool) :
    List Word → Except Halt Findings
  | [] => .ok findings
  | .plain text :: rest =>
    if findings.positionals.length < form.positionals.length then
      form.collect (findings.addPositional text) true rest
    else form.collect (findings.leave text) false rest
  | .separator :: rest =>
    if afterPositional ||
        (findings.positionals.length < form.positionals.length &&
          !rest.isEmpty) then
      form.collect findings false rest
    else form.collect (findings.leave "--") false rest
  | .unknown text :: rest => form.collect (findings.leave text) false rest
  | .option switch (.equated value) :: rest => do
    let findings ← if switch.takesValue then form.accept findings switch value
      else form.ignore switch value
    form.collect findings false rest
  | .option switch (.appended value) :: rest => do
    let findings ← if switch.takesValue then form.accept findings switch value
      else if value.toList.head? = some '-' then form.ignore switch value
      else raise findings switch
    form.collect findings false rest
  | .option switch .nothing :: .plain value :: rest =>
    if switch.takesValue then do
      let findings ← form.accept findings switch value
      form.collect findings false rest
    else do
      let findings ← raise findings switch
      form.collect findings false (.plain value :: rest)
  | .option switch .nothing :: rest =>
    if switch.takesValue then
      .error (form.fault switch.title "expected one argument")
    else do
      let findings ← raise findings switch
      form.collect findings false rest

/-- What a form requires and did not get, in order. -/
def Form.lacking (form : Form) (findings : Findings) : List String :=
  ((form.switches.filter fun switch =>
      switch.isRequired && !findings.uses (switch.names.getLast?.getD "")).map
        Switch.title) ++
    form.positionals.drop findings.positionals.length

/-- The fault that something required is not there. -/
def Form.requires (form : Form) (lacking : List String) : Halt :=
  .misused ⟨form.program,
    "the following arguments are required: " ++ ", ".intercalate lacking⟩

/-- Reads the words of a command. -/
def Form.read (form : Form) (words : List String) : Except Halt Findings :=
  match form.classifyAll words with
  | .error misuse => .error (.misused misuse)
  | .ok classified => do
    let findings ← form.collect {} false classified
    match form.lacking findings with
    | [] => return findings
    | lacking => .error (form.requires lacking)

end SymbolDiff.CommandLine
