import SymbolDiff.Proofs.Path.Place

/-!
# Putting an entry at a place

What is put at a place is found there, and what lies apart from the place is
found as before.
-/

namespace SymbolDiff.Entry

theorem lookup_insert_self (name : String) (entry : Entry)
    (entries : List (String × Entry)) :
    lookup name (insert name entry entries) = some entry := by
  induction entries with
  | nil => simp [insert, lookup]
  | cons first rest induction =>
      obtain ⟨key, present⟩ := first
      rw [insert]
      by_cases same : key = name
      · simp [same, lookup]
      · simp [same, lookup, induction]

theorem lookup_insert_of_ne {name other : String} (different : other ≠ name)
    (entry : Entry) (entries : List (String × Entry)) :
    lookup other (insert name entry entries) = lookup other entries := by
  induction entries with
  | nil => simp [insert, lookup, Ne.symm different]
  | cons first rest induction =>
      obtain ⟨key, present⟩ := first
      rw [insert]
      by_cases same : key = name
      · simp [same, lookup, Ne.symm different]
      · simp [same, lookup, induction]

theorem lookup_entries (parent : Entry) (name : String) :
    lookup name parent.entries = parent.child? name := by
  cases parent with
  | file content => rfl
  | link target => rfl
  | directory entries => rfl

theorem find?_put_self (top : Entry) (names : List String) (entry : Entry) :
    (top.put names entry).find? names = some entry := by
  induction names generalizing top with
  | nil => rfl
  | cons name rest induction =>
      rw [put, find?, child?, lookup_insert_self]
      exact induction _

theorem find?_put_of_apart {names other : List String}
    (apart : Path.Apart other names) (top entry : Entry) :
    (top.put names entry).find? other = top.find? other := by
  induction names generalizing top other with
  | nil => exact absurd List.nil_prefix apart.2
  | cons name rest induction =>
      cases other with
      | nil => exact absurd List.nil_prefix apart.1
      | cons first more =>
          rw [put, find?, find?, child?]
          by_cases same : first = name
          · subst same
            rw [Path.Apart, List.prefix_cons_inj, List.prefix_cons_inj] at apart
            rw [lookup_insert_self]
            dsimp only
            rw [induction apart]
            cases top.child? first with
            | some below => rfl
            | none =>
                cases more with
                | nil => exact absurd List.nil_prefix apart.1
                | cons next further => rfl
          · rw [lookup_insert_of_ne same, lookup_entries]

end SymbolDiff.Entry
