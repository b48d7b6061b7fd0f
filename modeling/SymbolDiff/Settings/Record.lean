import SymbolDiff.Data.Reading
import SymbolDiff.Settings.Basic

/-!
# Settings as loosely typed data

Readers and writers of settings.  Unknown keys are problems, so that a misspelt
setting is never silently ignored.
-/

namespace SymbolDiff

/-- A path as text. -/
def readPath : Data → Checked Path
  | .text value => .valid (.ofString value)
  | _ => .fail .notPath

/-- A command: words in one text, or a list of words. -/
def readCommand : Data → Checked (List String)
  | .text value => .valid (Text.words value)
  | data => readList readText data

def SpecSettings.ofData : Data → Checked SpecSettings :=
  readRecord "SpecConfiguration" fun entries =>
    (fun root paths _ => ⟨root, paths⟩)
      <$> defaulted entries "spec_root_path" none (readOptional readPath)
      <*> defaulted entries "spec_paths" [] (readList readText)
      <*> onlyKeys ["spec_root_path", "spec_paths"] entries

def LanguageSettings.ofData : Data → Checked LanguageSettings :=
  readRecord "LanguageConfiguration" fun entries =>
    (fun language output oldArguments newArguments reuse _ =>
        ⟨language, output, oldArguments, newArguments, reuse⟩)
      <$> required entries "language"
        (readChoice
          (Language.all.map fun language => (language.word, language)))
      <*> required entries "output_path" readPath
      <*> defaulted entries "old_args" [] (readList readText)
      <*> defaulted entries "new_args" [] (readList readText)
      <*> defaulted entries "use_existing_output" .nothing
        (readChoice (Reuse.all.map fun reuse => (reuse.word, reuse)))
      <*> onlyKeys
        ["language", "output_path", "old_args", "new_args",
          "use_existing_output"] entries

def Settings.ofData : Data → Checked Settings :=
  readRecord "RunConfiguration" fun entries =>
    (fun debug generator specs languages _ =>
      ⟨debug, generator, specs, languages⟩)
      <$> defaulted entries "debug" false readFlag
      <*> defaulted entries "generator" defaultGenerator readCommand
      <*> defaulted entries "specs" [] (readList SpecSettings.ofData)
      <*> defaulted entries "languages" [] (readList LanguageSettings.ofData)
      <*> onlyKeys ["debug", "generator", "specs", "languages"] entries

/-- Words as data. -/
def wordsData (words : List String) : Data :=
  .list (words.map Data.text)

def SpecSettings.toData (spec : SpecSettings) : Data :=
  .table
    [("spec_root_path",
      (spec.root.map fun path => Data.text path.toText).getD .null),
      ("spec_paths", wordsData spec.paths)]

def LanguageSettings.toData (entry : LanguageSettings) : Data :=
  .table
    [("language", .text entry.language.word),
      ("output_path", .text entry.output.toText),
      ("old_args", wordsData entry.oldArguments),
      ("new_args", wordsData entry.newArguments),
      ("use_existing_output", .text entry.reuse.word)]

def Settings.toData (settings : Settings) : Data :=
  .table
    [("debug", .bool settings.debug),
      ("generator", wordsData settings.generator),
      ("specs", .list (settings.specs.map SpecSettings.toData)),
      ("languages", .list (settings.languages.map LanguageSettings.toData))]

end SymbolDiff
