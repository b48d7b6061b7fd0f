import Mathlib.Data.List.Forall2
import SymbolDiff.Data

/-!
# Tables of loosely typed data

A table is read through its keys, and the order of its entries has no meaning.
`Same` compares values in this way.  It is of use where no table holds a key
twice, as in every value that is read from a file.
-/

namespace SymbolDiff.Data

theorem lookup_append (key : String) (before after : List (String × Data)) :
    lookup key (before ++ after) = (lookup key before).or (lookup key after) := by
  induction before with
  | nil => rfl
  | cons entry rest induction =>
      by_cases same : entry.1 = key
      · simp [lookup, same]
      · simp [lookup, same, induction]

theorem lookup_cons_of_ne {key name : String} (different : name ≠ key)
    (data : Data) (entries : List (String × Data)) :
    lookup key ((name, data) :: entries) = lookup key entries := by
  simp [lookup, different]

@[simp] theorem lookup_cons_self (key : String) (data : Data)
    (entries : List (String × Data)) :
    lookup key ((key, data) :: entries) = some data := by
  simp [lookup]

theorem lookup_eq_none_iff {key : String} {entries : List (String × Data)} :
    lookup key entries = none ↔ key ∉ entries.map Prod.fst := by
  induction entries with
  | nil => simp [lookup]
  | cons entry rest induction =>
      by_cases same : entry.1 = key
      · simp [lookup, same]
      · simp [lookup, same, Ne.symm same, induction]

mutual

/-- No table in a value holds a key twice. -/
def DistinctKeys : Data → Prop
  | .list items => DistinctKeysEach items
  | .table entries => (entries.map Prod.fst).Nodup ∧ DistinctKeysUnder entries
  | _ => True

def DistinctKeysEach : List Data → Prop
  | [] => True
  | data :: rest => DistinctKeys data ∧ DistinctKeysEach rest

def DistinctKeysUnder : List (String × Data) → Prop
  | [] => True
  | (_, data) :: rest => DistinctKeys data ∧ DistinctKeysUnder rest

end

/-- Values that differ at most in the order of the entries of their tables. -/
inductive Same : Data → Data → Prop where
  | refl (data : Data) : Same data data
  | list {items others : List Data} :
      List.Forall₂ Same items others → Same (.list items) (.list others)
  | table {entries others : List (String × Data)} :
      (∀ key, Option.Rel Same (lookup key entries) (lookup key others)) →
      Same (.table entries) (.table others)

theorem distinctKeys_of_lookup {key : String} {data : Data}
    {entries : List (String × Data)} (distinct : DistinctKeysUnder entries)
    (found : lookup key entries = some data) : data.DistinctKeys := by
  induction entries with
  | nil => cases found
  | cons entry rest induction =>
      obtain ⟨name, value⟩ := entry
      rw [DistinctKeysUnder] at distinct
      by_cases same : name = key
      · subst same
        rw [lookup_cons_self] at found
        cases found
        exact distinct.1
      · rw [lookup_cons_of_ne same] at found
        exact induction distinct.2 found

end SymbolDiff.Data
