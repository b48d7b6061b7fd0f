import Mathlib.Data.List.Forall2
import SymbolDiff.Data.Reading

/-!
# When data is read

A reader of loosely typed data gives a value or lists problems.  The lemmas
below say, for each way in which readers are put together, when the whole gives
a value: its parts have to give theirs, wherever they lie.
-/

namespace SymbolDiff

namespace Checked

variable {α β : Type}

@[simp] theorem map_valid (change : α → β) (value : α) :
    change <$> (Checked.valid value) = .valid (change value) :=
  rfl

@[simp] theorem seq_valid (change : α → β) (value : α) :
    Checked.valid change <*> Checked.valid value = .valid (change value) :=
  rfl

@[simp] theorem under_valid (place : Place) (value : α) :
    under place (.valid value) = .valid value :=
  rfl

theorem map_eq_valid_iff {change : α → β} {checked : Checked α} {result : β} :
    change <$> checked = .valid result ↔
      ∃ value, checked = .valid value ∧ change value = result := by
  cases checked with
  | valid value => simp [Functor.map, Checked.map]
  | invalid problems => simp [Functor.map, Checked.map]

theorem seq_eq_valid_iff {changes : Checked (α → β)} {checked : Checked α}
    {result : β} :
    changes <*> checked = .valid result ↔
      ∃ change value, changes = .valid change ∧ checked = .valid value ∧
        change value = result := by
  cases changes with
  | valid change =>
      cases checked with
      | valid value => simp [Seq.seq, Checked.seq]
      | invalid problems => simp [Seq.seq, Checked.seq]
  | invalid problems =>
      cases checked with
      | valid value => simp [Seq.seq, Checked.seq]
      | invalid further => simp [Seq.seq, Checked.seq]

theorem andThen_eq_valid_iff {checked : Checked α} {next : α → Checked β}
    {result : β} :
    checked.andThen next = .valid result ↔
      ∃ value, checked = .valid value ∧ next value = .valid result := by
  cases checked with
  | valid value => simp [andThen]
  | invalid problems => simp [andThen]

@[simp] theorem under_eq_valid_iff {place : Place} {checked : Checked α}
    {value : α} :
    under place checked = .valid value ↔ checked = .valid value := by
  cases checked with
  | valid value => simp [under]
  | invalid problems => simp [under]

@[simp] theorem fail_ne_valid (defect : Defect) (value : α) :
    fail defect ≠ .valid value := by
  simp [fail]

/-- A list is read when each of its members is, in any place. -/
theorem members_eq_valid_iff {read : Data → Checked α} {position : Nat}
    {items : List Data} {values : List α} :
    members read position items = .valid values ↔
      List.Forall₂ (fun item value => read item = .valid value)
        items values := by
  induction items generalizing position values with
  | nil =>
      rw [members, List.forall₂_nil_left_iff, valid.injEq]
      exact eq_comm
  | cons item rest induction =>
      rw [members, seq_eq_valid_iff, List.forall₂_cons_left_iff]
      simp only [map_eq_valid_iff, under_eq_valid_iff, induction]
      constructor
      · intro found
        obtain ⟨change, following, ⟨value, first, rfl⟩, others, rfl⟩ := found
        exact ⟨value, following, first, others, rfl⟩
      · intro found
        obtain ⟨value, following, first, others, rfl⟩ := found
        exact ⟨List.cons value, following, ⟨value, first, rfl⟩, others, rfl⟩

end Checked

open Checked

variable {α : Type}

section Written

@[simp] theorem readText_text (text : String) :
    readText (.text text) = .valid text :=
  rfl

@[simp] theorem readFlag_bool (flag : Bool) :
    readFlag (.bool flag) = .valid flag :=
  rfl

@[simp] theorem readNatural_integer (number : Nat) :
    readNatural (.integer number) = .valid number := by
  have positive : ¬(number : Int) < 0 := by omega
  simp [readNatural, readInteger, andThen, positive]

@[simp] theorem readSequence_list (read : Data → Checked α)
    (items : List Data) :
    readSequence read (.list items) = members read 0 items :=
  rfl

/-- Members that are read back one by one are read back as a list. -/
theorem members_map {read : Data → Checked α} {write : α → Data}
    (readBack : ∀ value, read (write value) = .valid value) (position : Nat)
    (values : List α) :
    members read position (values.map write) = .valid values := by
  rw [members_eq_valid_iff, List.forall₂_map_left_iff, List.forall₂_same]
  intro value _
  exact readBack value

end Written

theorem readText_eq_valid_iff {data : Data} {text : String} :
    readText data = .valid text ↔ data = .text text := by
  cases data <;> simp [readText]

theorem required_eq_valid_iff {entries : List (String × Data)} {key : String}
    {read : Data → Checked α} {value : α} :
    required entries key read = .valid value ↔
      ∃ data, Data.lookup key entries = some data ∧ read data = .valid value := by
  rw [required]
  cases Data.lookup key entries with
  | none => simp
  | some data => simp

theorem defaulted_eq_valid_iff {entries : List (String × Data)} {key : String}
    {absent : α} {read : Data → Checked α} {value : α} :
    defaulted entries key absent read = .valid value ↔
      (∃ data, Data.lookup key entries = some data ∧ read data = .valid value) ∨
        Data.lookup key entries = none ∧ absent = value := by
  rw [defaulted]
  cases Data.lookup key entries with
  | none => simp
  | some data => simp

theorem readSequence_eq_valid_iff {read : Data → Checked α} {data : Data}
    {values : List α} :
    readSequence read data = .valid values ↔
      ∃ items, data = .list items ∧
        List.Forall₂ (fun item value => read item = .valid value)
          items values := by
  cases data <;> simp [readSequence, members_eq_valid_iff]

end SymbolDiff
