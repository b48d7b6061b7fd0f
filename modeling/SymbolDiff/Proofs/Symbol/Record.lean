import Mathlib
import SymbolDiff.Proofs.Data.Edit
import SymbolDiff.Symbol.Record

/-!
# Stored symbols are read back

Each kind of symbol is read back from what is written for it.  Reading does not
depend on keys that a symbol does not have, nor on keys that hold a default,
however deep in a source they stand.
-/

namespace SymbolDiff

open Checked
open Layout (kept holding)

/-- What is written is read back, and edits do not change what is read. -/
structure Survives {α : Type} (layout : Layout) (write : α → Data)
    (read : Data → Checked α) : Prop where
  readBack : ∀ value, read (write value) = .valid value
  edited : ∀ data other value, Relation.ReflTransGen (Edit layout) data other →
    read data = .valid value → read other = .valid value

theorem Survives.of_steady {α : Type} {layout : Layout} {write : α → Data}
    {read : Data → Checked α}
    (readBack : ∀ value, read (write value) = .valid value)
    (steady : Steady layout read) : Survives layout write read := by
  refine ⟨readBack, ?_⟩
  intro data other value edits valid
  exact steady.edits edits value valid

@[simp] theorem readOptional_ofText? (text : Option String) :
    readOptional readText (.ofText? text) = .valid text := by
  cases text with
  | none => rfl
  | some text => rfl

@[simp] theorem readOptional_ofNames? (names : Option (List String)) :
    readOptional (readSequence readText) (.ofNames? names) = .valid names := by
  cases names with
  | none => rfl
  | some names =>
      simp [Data.ofNames?, readOptional, members_map readText_text]

@[simp] theorem readChoice_visibility (visibility : Visibility) :
    readChoice visibilityChoices (.text visibility.word) = .valid visibility := by
  cases visibility <;> rfl

namespace Parameter

def layout : Layout :=
  .table
    [("name", kept, .whole),
      ("type", holding readText unspecified, .whole),
      ("ordinal", kept, .whole),
      ("is_optional", holding readFlag false, .whole)]

theorem ofData_toData (parameter : Parameter) :
    ofData parameter.toData = .valid parameter := by
  simp [toData, ofData, readRecord, required, defaulted, Data.lookup]

theorem steady : Steady layout ofData := by
  apply Steady.record
  intro entries others edit
  apply Stays.seq
  · apply Stays.seq
    · apply Stays.seq
      · exact (edit.required rfl (.whole _)).map _
      · exact edit.defaulted rfl (.whole _)
    · exact edit.required rfl (.whole _)
  · exact edit.defaulted rfl (.whole _)

end Parameter

namespace Method

def layout : Layout :=
  .table
    [("name", kept, .whole),
      ("return_type", holding readText unspecified, .whole),
      ("parameters", holding (readSequence Parameter.ofData) [],
        .each Parameter.layout)]

theorem ofData_toData (method : Method) :
    ofData method.toData = .valid method := by
  simp [toData, ofData, readRecord, required, defaulted, Data.lookup,
    members_map Parameter.ofData_toData]

theorem steady : Steady layout ofData := by
  apply Steady.record
  intro entries others edit
  apply Stays.seq
  · apply Stays.seq
    · exact (edit.required rfl (.whole _)).map _
    · exact edit.defaulted rfl (.whole _)
  · exact edit.defaulted rfl Parameter.steady.sequence

end Method

namespace Field

def layout : Layout :=
  .table
    [("name", kept, .whole),
      ("type", holding readText unspecified, .whole),
      ("value", holding (readOptional readText) none, .whole),
      ("visibility", holding (readChoice visibilityChoices) .publicly, .whole),
      ("is_read_only", holding readFlag false, .whole)]

theorem ofData_toData (field : Field) :
    ofData field.toData = .valid field := by
  simp [toData, ofData, readRecord, required, defaulted, Data.lookup]

theorem steady : Steady layout ofData := by
  apply Steady.record
  intro entries others edit
  apply Stays.seq
  · apply Stays.seq
    · apply Stays.seq
      · apply Stays.seq
        · exact (edit.required rfl (.whole _)).map _
        · exact edit.defaulted rfl (.whole _)
      · exact edit.defaulted rfl (.whole _)
    · exact edit.defaulted rfl (.whole _)
  · exact edit.defaulted rfl (.whole _)

end Field

namespace ClassSymbol

def layout : Layout :=
  .table
    [("name", kept, .whole),
      ("is_exported", holding readFlag false, .whole),
      ("methods", holding (readSequence Method.ofData) [],
        .each Method.layout),
      ("fields", holding (readSequence Field.ofData) [], .each Field.layout),
      ("base_class", holding (readOptional readText) none, .whole),
      ("interfaces", holding (readOptional (readSequence readText)) none,
        .whole)]

theorem ofData_toData (symbol : ClassSymbol) :
    ofData symbol.toData = .valid symbol := by
  simp [toData, ofData, readRecord, required, defaulted, Data.lookup,
    members_map Method.ofData_toData, members_map Field.ofData_toData]

theorem steady : Steady layout ofData := by
  apply Steady.record
  intro entries others edit
  apply Stays.seq
  · apply Stays.seq
    · apply Stays.seq
      · apply Stays.seq
        · apply Stays.seq
          · exact (edit.required rfl (.whole _)).map _
          · exact edit.defaulted rfl (.whole _)
        · exact edit.defaulted rfl Method.steady.sequence
      · exact edit.defaulted rfl Field.steady.sequence
    · exact edit.defaulted rfl (.whole _)
  · exact edit.defaulted rfl (.whole _)

end ClassSymbol

namespace InterfaceSymbol

def layout : Layout :=
  .table
    [("name", kept, .whole),
      ("is_exported", holding readFlag false, .whole),
      ("methods", holding (readSequence Method.ofData) [],
        .each Method.layout),
      ("fields", holding (readSequence Field.ofData) [], .each Field.layout),
      ("extends", holding (readOptional (readSequence readText)) none,
        .whole)]

theorem ofData_toData (symbol : InterfaceSymbol) :
    ofData symbol.toData = .valid symbol := by
  simp [toData, ofData, readRecord, required, defaulted, Data.lookup,
    members_map Method.ofData_toData, members_map Field.ofData_toData]

theorem steady : Steady layout ofData := by
  apply Steady.record
  intro entries others edit
  apply Stays.seq
  · apply Stays.seq
    · apply Stays.seq
      · apply Stays.seq
        · exact (edit.required rfl (.whole _)).map _
        · exact edit.defaulted rfl (.whole _)
      · exact edit.defaulted rfl Method.steady.sequence
    · exact edit.defaulted rfl Field.steady.sequence
  · exact edit.defaulted rfl (.whole _)

end InterfaceSymbol

namespace TypeAlias

def layout : Layout :=
  .table
    [("name", kept, .whole),
      ("is_exported", holding readFlag false, .whole),
      ("type", kept, .whole)]

theorem ofData_toData (symbol : TypeAlias) :
    ofData symbol.toData = .valid symbol := by
  simp [toData, ofData, readRecord, required, defaulted, Data.lookup]

theorem steady : Steady layout ofData := by
  apply Steady.record
  intro entries others edit
  apply Stays.seq
  · apply Stays.seq
    · exact (edit.required rfl (.whole _)).map _
    · exact edit.defaulted rfl (.whole _)
  · exact edit.required rfl (.whole _)

end TypeAlias

namespace Variable

def layout : Layout :=
  .table
    [("name", kept, .whole),
      ("is_exported", holding readFlag false, .whole),
      ("type", holding readText unspecified, .whole),
      ("value", holding (readOptional readText) none, .whole)]

theorem ofData_toData (symbol : Variable) :
    ofData symbol.toData = .valid symbol := by
  simp [toData, ofData, readRecord, required, defaulted, Data.lookup]

theorem steady : Steady layout ofData := by
  apply Steady.record
  intro entries others edit
  apply Stays.seq
  · apply Stays.seq
    · apply Stays.seq
      · exact (edit.required rfl (.whole _)).map _
      · exact edit.defaulted rfl (.whole _)
    · exact edit.defaulted rfl (.whole _)
  · exact edit.defaulted rfl (.whole _)

end Variable

namespace Source

def layout : Layout :=
  .table
    [("classes", holding (readSequence ClassSymbol.ofData) [],
        .each ClassSymbol.layout),
      ("interfaces", holding (readSequence InterfaceSymbol.ofData) [],
        .each InterfaceSymbol.layout),
      ("types", holding (readSequence TypeAlias.ofData) [],
        .each TypeAlias.layout),
      ("variables", holding (readSequence Variable.ofData) [],
        .each Variable.layout)]

theorem ofData_toData (source : Source) :
    ofData source.toData = .valid source := by
  simp [toData, ofData, readRecord, defaulted, Data.lookup,
    members_map ClassSymbol.ofData_toData,
    members_map InterfaceSymbol.ofData_toData,
    members_map TypeAlias.ofData_toData, members_map Variable.ofData_toData]

theorem steady : Steady layout ofData := by
  apply Steady.record
  intro entries others edit
  apply Stays.seq
  · apply Stays.seq
    · apply Stays.seq
      · exact (edit.defaulted rfl ClassSymbol.steady.sequence).map _
      · exact edit.defaulted rfl InterfaceSymbol.steady.sequence
    · exact edit.defaulted rfl TypeAlias.steady.sequence
  · exact edit.defaulted rfl Variable.steady.sequence

end Source

/-- Symbols of every kind survive being stored. -/
theorem symbols_survive :
    Survives Parameter.layout Parameter.toData Parameter.ofData ∧
      Survives Method.layout Method.toData Method.ofData ∧
      Survives Field.layout Field.toData Field.ofData ∧
      Survives ClassSymbol.layout ClassSymbol.toData ClassSymbol.ofData ∧
      Survives InterfaceSymbol.layout InterfaceSymbol.toData
        InterfaceSymbol.ofData ∧
      Survives TypeAlias.layout TypeAlias.toData TypeAlias.ofData ∧
      Survives Variable.layout Variable.toData Variable.ofData ∧
      Survives Source.layout Source.toData Source.ofData :=
  ⟨.of_steady Parameter.ofData_toData Parameter.steady,
    .of_steady Method.ofData_toData Method.steady,
    .of_steady Field.ofData_toData Field.steady,
    .of_steady ClassSymbol.ofData_toData ClassSymbol.steady,
    .of_steady InterfaceSymbol.ofData_toData InterfaceSymbol.steady,
    .of_steady TypeAlias.ofData_toData TypeAlias.steady,
    .of_steady Variable.ofData_toData Variable.steady,
    .of_steady Source.ofData_toData Source.steady⟩

/-- A default may be left out in every way of writing it, also deep inside, and
a key that methods do not have may be added. -/
theorem symbols_survive_edited :
    let method : Method := {
      name := "run", parameters := [{ name := "p", ordinal := 0 }] }
    let written : Data := .table [("name", .text "run"),
      ("parameters", .list [.table
        [("name", .text "p"), ("is_optional", .text "No"),
          ("ordinal", .text "0")]])]
    let shortened : Data := .table [("name", .text "run"),
      ("parameters", .list [.table
        [("name", .text "p"), ("ordinal", .text "0")]])]
    let extended : Data := .table [("name", .text "run"), ("line", .integer 3),
      ("parameters", .list [.table
        [("name", .text "p"), ("ordinal", .text "0")]])]
    Edit Method.layout written shortened ∧ Edit Method.layout shortened extended ∧
      Method.ofData written = .valid method ∧
      Method.ofData shortened = .valid method ∧
      Method.ofData extended = .valid method := by
  intro method written shortened extended
  have default : readFlag (.text "No") = .valid false := by cbv
  have leftOut : Edit Method.layout written shortened :=
    .inside [_] [] rfl (.member [] [] (.leaveOut [_] [_] rfl default (by decide)))
  have added : Edit Method.layout shortened extended := .add _ [_] [_] rfl
  have read : Method.ofData written = .valid method := by cbv
  obtain ⟨_, methods, _⟩ := symbols_survive
  exact ⟨leftOut, added, read, methods.edited _ _ _ (.single leftOut) read,
    methods.edited _ _ _ (.head leftOut (.single added)) read⟩

end SymbolDiff
