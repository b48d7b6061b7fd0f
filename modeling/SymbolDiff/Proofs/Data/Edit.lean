import Mathlib.Logic.Relation
import SymbolDiff.Proofs.Data.Reading
import SymbolDiff.Proofs.Data.Table

/-!
# Edits that do not matter

A `Layout` says which keys a reader looks for in a table, at every level, and
for which values a key may be left out.  An edit adds or removes a key that is
not looked for, or leaves out one that may be, anywhere in a value.  A reader is
steady when one edit keeps what it reads, and then any number of edits does.
-/

namespace SymbolDiff

/-- What a reader looks for: nothing inside a value, the same in every member
of a list, or the known keys of a table.  With a known key stand the values for
which it may be left out and the layout of what it holds. -/
inductive Layout where
  | whole
  | each (member : Layout)
  | table (keys : List (String × (Data → Prop) × Layout))

namespace Layout

/-- The key has to be there. -/
def kept (_ : Data) : Prop :=
  False

/-- The key may be left out where it holds what is read as the default. -/
def holding {α : Type} (read : Data → Checked α) (absent : α) (data : Data) :
    Prop :=
  read data = .valid absent

end Layout

/-- One edit of a value of a layout. -/
inductive Edit : Layout → Data → Data → Prop where
  | member {layout : Layout} {data other : Data} (before after : List Data) :
      Edit layout data other →
      Edit (.each layout) (.list (before ++ data :: after))
        (.list (before ++ other :: after))
  | inside {keys : List (String × (Data → Prop) × Layout)} {key : String}
      {omissible : Data → Prop} {layout : Layout} {data other : Data}
      (before after : List (String × Data)) :
      keys.lookup key = some (omissible, layout) →
      Edit layout data other →
      Edit (.table keys) (.table (before ++ (key, data) :: after))
        (.table (before ++ (key, other) :: after))
  | add {keys : List (String × (Data → Prop) × Layout)} {key : String}
      (data : Data) (before after : List (String × Data)) :
      keys.lookup key = none →
      Edit (.table keys) (.table (before ++ after))
        (.table (before ++ (key, data) :: after))
  | remove {keys : List (String × (Data → Prop) × Layout)} {key : String}
      (data : Data) (before after : List (String × Data)) :
      keys.lookup key = none →
      Edit (.table keys) (.table (before ++ (key, data) :: after))
        (.table (before ++ after))
  | leaveOut {keys : List (String × (Data → Prop) × Layout)} {key : String}
      {omissible : Data → Prop} {layout : Layout} {data : Data}
      (before after : List (String × Data)) :
      keys.lookup key = some (omissible, layout) →
      omissible data →
      key ∉ (before ++ after).map Prod.fst →
      Edit (.table keys) (.table (before ++ (key, data) :: after))
        (.table (before ++ after))

/-- What was read stays as it was. -/
def Stays {α : Type} (before after : Checked α) : Prop :=
  ∀ value, before = .valid value → after = .valid value

/-- No edit changes what is read. -/
def Steady {α : Type} (layout : Layout) (read : Data → Checked α) : Prop :=
  ∀ data other, Edit layout data other → Stays (read data) (read other)

section Entries

variable {keys : List (String × (Data → Prop) × Layout)}
variable {entries others : List (String × Data)}

/-- What an edit of a table does under a known key: nothing, an edit of the
value, or it leaves the key out. -/
theorem Edit.lookup_cases
    (edit : Edit (.table keys) (.table entries) (.table others))
    {key : String} {omissible : Data → Prop} {layout : Layout}
    (known : keys.lookup key = some (omissible, layout)) :
    Data.lookup key others = Data.lookup key entries ∨
      (∃ data other, Data.lookup key entries = some data ∧
        Data.lookup key others = some other ∧ Edit layout data other) ∨
      ∃ data, Data.lookup key entries = some data ∧
        Data.lookup key others = none ∧ omissible data := by
  have different {name : String} (unknown : keys.lookup name = none) :
      name ≠ key := by
    intro same
    rw [same, known] at unknown
    cases unknown
  cases edit with
  | @inside _ name _ _ data other before after found change =>
      rw [Data.lookup_append, Data.lookup_append]
      by_cases same : name = key
      · subst same
        rw [known] at found
        cases found
        cases earlier : Data.lookup name before with
        | some value =>
            left
            simp
        | none =>
            right
            left
            exact ⟨data, other, by simp, by simp, change⟩
      · left
        rw [Data.lookup_cons_of_ne same, Data.lookup_cons_of_ne same]
  | add data before after unknown =>
      left
      rw [Data.lookup_append, Data.lookup_append,
        Data.lookup_cons_of_ne (different unknown)]
  | remove data before after unknown =>
      left
      rw [Data.lookup_append, Data.lookup_append,
        Data.lookup_cons_of_ne (different unknown)]
  | @leaveOut _ name _ _ data before after found allowed once =>
      by_cases same : name = key
      · subst same
        rw [known] at found
        cases found
        have gone := Data.lookup_eq_none_iff.mpr once
        have earlier : Data.lookup name before = none := by
          rw [Data.lookup_append, Option.or_eq_none_iff] at gone
          exact gone.1
        right
        right
        refine ⟨data, ?_, gone, allowed⟩
        simp [Data.lookup_append, earlier]
      · left
        rw [Data.lookup_append, Data.lookup_append,
          Data.lookup_cons_of_ne same]

variable {α : Type} {read : Data → Checked α} {key : String} {layout : Layout}

theorem Edit.required
    (edit : Edit (.table keys) (.table entries) (.table others))
    (known : keys.lookup key = some (Layout.kept, layout))
    (steady : Steady layout read) :
    Stays (required entries key read) (required others key read) := by
  intro value valid
  rw [required_eq_valid_iff] at valid ⊢
  obtain ⟨data, found, reads⟩ := valid
  rcases edit.lookup_cases known with same | changed | gone
  · exact ⟨data, same.trans found, reads⟩
  · obtain ⟨first, other, before, after, change⟩ := changed
    rw [found] at before
    cases before
    exact ⟨other, after, steady data other change value reads⟩
  · obtain ⟨_, _, _, impossible⟩ := gone
    exact impossible.elim

theorem Edit.defaulted {absent : α}
    (edit : Edit (.table keys) (.table entries) (.table others))
    (known : keys.lookup key = some (Layout.holding read absent, layout))
    (steady : Steady layout read) :
    Stays (defaulted entries key absent read)
      (defaulted others key absent read) := by
  intro value valid
  rw [defaulted_eq_valid_iff] at valid ⊢
  rcases edit.lookup_cases known with same | changed | gone
  · rw [same]
    exact valid
  · obtain ⟨data, other, before, after, change⟩ := changed
    left
    rw [before] at valid
    refine ⟨other, after, steady data other change value ?_⟩
    simpa using valid
  · obtain ⟨data, before, after, default⟩ := gone
    right
    rw [before] at valid
    have reads : read data = .valid value := by simpa using valid
    rw [default] at reads
    cases reads
    exact ⟨after, rfl⟩

end Entries

namespace Stays

variable {α β : Type}

theorem map {before after : Checked α} (stays : Stays before after)
    (change : α → β) : Stays (change <$> before) (change <$> after) := by
  intro result valid
  rw [Checked.map_eq_valid_iff] at valid ⊢
  obtain ⟨value, reads, same⟩ := valid
  exact ⟨value, stays value reads, same⟩

theorem seq {changes others : Checked (α → β)} {before after : Checked α}
    (front : Stays changes others) (back : Stays before after) :
    Stays (changes <*> before) (others <*> after) := by
  intro result valid
  rw [Checked.seq_eq_valid_iff] at valid ⊢
  obtain ⟨change, value, changed, reads, same⟩ := valid
  exact ⟨change, value, front change changed, back value reads, same⟩

end Stays

namespace Steady

variable {α : Type} {layout : Layout} {read : Data → Checked α}

theorem whole (read : Data → Checked α) : Steady .whole read := by
  intro data other edit
  cases edit

private theorem forall₂_exchange {β : Type} {related : Data → β → Prop}
    {before after : List Data} {data other : Data} {values : List β}
    (each : List.Forall₂ related (before ++ data :: after) values)
    (change : ∀ value, related data value → related other value) :
    List.Forall₂ related (before ++ other :: after) values := by
  induction before generalizing values with
  | nil =>
      cases each with
      | cons head tail => exact .cons (change _ head) tail
  | cons item rest induction =>
      cases each with
      | cons head tail => exact .cons head (induction tail)

theorem sequence (steady : Steady layout read) :
    Steady (.each layout) (readSequence read) := by
  intro data other edit values valid
  rw [readSequence_eq_valid_iff] at valid ⊢
  obtain ⟨items, rfl, each⟩ := valid
  cases edit with
  | member before after change =>
      refine ⟨_, rfl, forall₂_exchange each ?_⟩
      intro value reads
      exact steady _ _ change value reads

theorem record {keys : List (String × (Data → Prop) × Layout)} {model : String}
    {read : List (String × Data) → Checked α}
    (each : ∀ entries others,
      Edit (.table keys) (.table entries) (.table others) →
        Stays (read entries) (read others)) :
    Steady (.table keys) (readRecord model read) := by
  intro data other edit
  cases edit with
  | inside before after known change =>
      exact each _ _ (.inside before after known change)
  | add data before after unknown =>
      exact each _ _ (.add data before after unknown)
  | remove data before after unknown =>
      exact each _ _ (.remove data before after unknown)
  | leaveOut before after known allowed once =>
      exact each _ _ (.leaveOut before after known allowed once)

/-- Any number of edits keeps what a steady reader reads. -/
theorem edits (steady : Steady layout read) {data other : Data}
    (edits : Relation.ReflTransGen (Edit layout) data other) :
    Stays (read data) (read other) := by
  induction edits with
  | refl => exact fun value valid => valid
  | tail _ edit induction =>
      exact fun value valid => steady _ _ edit value (induction value valid)

end Steady

end SymbolDiff
