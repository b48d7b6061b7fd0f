import Mathlib.Data.List.Nodup
import SymbolDiff.Reconcile

/-!
# Occurrences of names

`keyed` numbers the occurrences of each name while it goes along a sequence,
and `claim` takes entries out of a list that shrinks.  This file says what
both compute without going along anything: a key names the item that stands
at a certain place among the items of its name, and no two positions share a
key.  Everything that is proved about the matching of two sequences rests on
`occurrence?_eq_some_iff`.
-/

namespace SymbolDiff

section Lists

variable {α : Type}

/-- An element of a filtered list stands in the list behind as many elements
that pass the filter as its index says. -/
theorem getElem?_filter_eq_some_iff
    (keep : α → Bool) (values : List α) (index : Nat) (value : α) :
    (values.filter keep)[index]? = some value ↔
      ∃ position, values[position]? = some value ∧ keep value = true ∧
        ((values.take position).filter keep).length = index := by
  induction values generalizing index with
  | nil => simp
  | cons head tail induction =>
      by_cases kept : keep head = true
      · cases index with
        | zero =>
            constructor
            · intro first
              have same : head = value := by simpa [kept] using first
              exact ⟨0, by simp [same], same ▸ kept, by simp⟩
            · rintro ⟨position, found, _, none⟩
              cases position with
              | zero => simpa [kept] using found
              | succ position => simp [kept] at none
        | succ index =>
            rw [List.filter_cons_of_pos kept, List.getElem?_cons_succ,
              induction]
            constructor
            · rintro ⟨position, found, passes, length⟩
              exact ⟨position + 1, by simpa using found, passes,
                by simp [kept, length]⟩
            · rintro ⟨position, found, passes, length⟩
              cases position with
              | zero => simp at length
              | succ position =>
                  exact ⟨position, by simpa using found, passes,
                    by simpa [kept] using length⟩
      · rw [List.filter_cons_of_neg kept, induction]
        constructor
        · rintro ⟨position, found, passes, length⟩
          exact ⟨position + 1, by simpa using found, passes,
            by simp [kept, length]⟩
        · rintro ⟨position, found, passes, length⟩
          cases position with
          | zero =>
              have same : head = value := by simpa using found
              exact absurd (same ▸ passes) kept
          | succ position =>
              exact ⟨position, by simpa using found, passes,
                by simpa [kept] using length⟩

private theorem find?_key_eq_some_iff
    {pool : List (Unclaimed α)}
    (nodup : (pool.map Unclaimed.key).Nodup)
    (key : Key) (entry : Unclaimed α) :
    (pool.find? fun other => other.key = key) = some entry ↔
      entry ∈ pool ∧ entry.key = key := by
  constructor
  · intro found
    exact ⟨List.mem_of_find?_eq_some found,
      by simpa using List.find?_some found⟩
  · rintro ⟨member, rfl⟩
    cases found : pool.find? fun other => other.key = entry.key with
    | none => simpa using List.find?_eq_none.mp found entry member
    | some other =>
        have otherMember := List.mem_of_find?_eq_some found
        have sameKey : other.key = entry.key := by
          simpa using List.find?_some found
        rw [List.inj_on_of_nodup_map nodup otherMember member sameKey]

/-- Claiming a key finds its entry and leaves all others in place. -/
theorem claim_eq_find?
    (key : Key) {pool : List (Unclaimed α)}
    (nodup : (pool.map Unclaimed.key).Nodup) :
    claim key pool =
      (pool.find? fun entry => entry.key = key).map fun entry =>
        (entry, pool.filter fun other => other.key ≠ key) := by
  induction pool with
  | nil => rfl
  | cons head tail induction =>
      rw [List.map_cons, List.nodup_cons] at nodup
      by_cases same : head.key = key
      · have untouched :
            (tail.filter fun other => other.key ≠ key) = tail := by
          rw [List.filter_eq_self]
          intro other member
          have different : other.key ≠ head.key := by
            intro equal
            exact nodup.1 (List.mem_map.mpr ⟨other, member, equal⟩)
          simpa [same] using different
        rw [claim, if_pos same, List.find?_cons_of_pos (by simp [same]),
          List.filter_cons_of_neg (by simp [same]), untouched,
          Option.map_some]
      · simp [claim, same, induction nodup.2, Function.comp_def]

end Lists

section Occurrences

variable {α : Type} [Named α]

/-- The items of one name, in their order. -/
def namedItems (name : String) (items : List α) : List α :=
  items.filter fun item => Named.name item = name

@[simp] theorem namedItems_nil (name : String) :
    namedItems name ([] : List α) = [] :=
  rfl

@[simp] theorem namedItems_append
    (name : String) (first second : List α) :
    namedItems name (first ++ second) =
      namedItems name first ++ namedItems name second :=
  List.filter_append ..

theorem namedItems_cons (name : String) (item : α) (rest : List α) :
    namedItems name (item :: rest) =
      if Named.name item = name then item :: namedItems name rest
      else namedItems name rest := by
  simp [namedItems, List.filter_cons]

theorem length_namedItems (name : String) (items : List α) :
    (namedItems name items).length = (items.map Named.name).count name := by
  rw [List.count, List.countP_map, List.countP_eq_length_filter]
  rfl

/-- The key of an item that stands at a position. -/
def keyAt (items : List α) (entry : α × Nat) : Key :=
  ⟨Named.name entry.1,
    (namedItems (Named.name entry.1) (items.take entry.2)).length + 1⟩

/-- The keys of a sequence, in order. -/
def keysOf (items : List α) : List Key :=
  items.zipIdx.map (keyAt items)

/-- The item of a key with its position; occurrences count from one. -/
def occurrence? (items : List α) : Key → Option (α × Nat)
  | ⟨_, 0⟩ => none
  | ⟨name, earlier + 1⟩ =>
      (items.zipIdx.filter fun entry => Named.name entry.1 = name)[earlier]?

private theorem length_filter_zipIdx_take
    (name : String) (items : List α) (position : Nat) :
    ((items.zipIdx.take position).filter
        fun entry => Named.name entry.1 = name).length =
      (namedItems name (items.take position)).length := by
  have firsts : (items.zipIdx.take position).map Prod.fst =
      items.take position := by
    rw [List.map_take, List.zipIdx_map_fst]
  rw [← firsts, namedItems, List.filter_map, List.length_map]
  rfl

/-- The item of a key is the one whose key it is. -/
theorem occurrence?_eq_some_iff
    (items : List α) (key : Key) (entry : α × Nat) :
    occurrence? items key = some entry ↔
      entry ∈ items.zipIdx ∧ keyAt items entry = key := by
  obtain ⟨name, occurrence⟩ := key
  cases occurrence with
  | zero => simp [occurrence?, keyAt]
  | succ earlier =>
      simp only [occurrence?, getElem?_filter_eq_some_iff,
        length_filter_zipIdx_take, decide_eq_true_eq, keyAt, Key.mk.injEq,
        Nat.add_right_cancel_iff]
      constructor
      · rintro ⟨position, found, rfl, length⟩
        have place : position = entry.2 := by
          rw [List.getElem?_zipIdx, Option.map_eq_some_iff] at found
          obtain ⟨item, _, rfl⟩ := found
          simp
        subst place
        exact ⟨List.mem_of_getElem? found, rfl, length⟩
      · rintro ⟨member, rfl, length⟩
        exact ⟨entry.2, by
          rw [List.mem_zipIdx_iff_getElem?] at member
          simp [List.getElem?_zipIdx, member], rfl, length⟩

theorem mem_keysOf_iff (items : List α) (key : Key) :
    key ∈ keysOf items ↔ ∃ entry, occurrence? items key = some entry := by
  simp only [keysOf, List.mem_map, occurrence?_eq_some_iff]

theorem occurrence?_keyAt
    {items : List α} {entry : α × Nat} (member : entry ∈ items.zipIdx) :
    occurrence? items (keyAt items entry) = some entry :=
  (occurrence?_eq_some_iff items _ entry).mpr ⟨member, rfl⟩

theorem nodup_keysOf (items : List α) : (keysOf items).Nodup := by
  have nodup : items.zipIdx.Nodup := by
    apply List.Nodup.of_map Prod.snd
    rw [List.zipIdx_map_snd]
    exact List.nodup_range'
  apply nodup.map_on
  intro first firstMember second secondMember same
  have found := occurrence?_keyAt firstMember
  rw [same, occurrence?_keyAt secondMember] at found
  exact (Option.some.inj found).symm

/-- The items of one name are its occurrences in order. -/
theorem map_fst_occurrence?
    (items : List α) (name : String) (earlier : Nat) :
    (occurrence? items ⟨name, earlier + 1⟩).map Prod.fst =
      (namedItems name items)[earlier]? := by
  have firsts : namedItems name items =
      (items.zipIdx.filter fun entry => Named.name entry.1 = name).map
        Prod.fst := by
    rw [namedItems, ← List.zipIdx_map_fst 0 items, List.filter_map]
    simp only [List.zipIdx_map_fst]
    rfl
  rw [firsts, List.getElem?_map, occurrence?]

/-- A name has as many keys as it has items. -/
theorem mem_keysOf_iff_le (items : List α) (key : Key) :
    key ∈ keysOf items ↔
      0 < key.occurrence ∧
        key.occurrence ≤ (namedItems key.name items).length := by
  obtain ⟨name, occurrence⟩ := key
  rw [mem_keysOf_iff, ← Option.isSome_iff_exists]
  cases occurrence with
  | zero => simp [occurrence?]
  | succ earlier =>
      rw [← Option.isSome_map (f := Prod.fst), map_fst_occurrence?,
        isSome_getElem?]
      exact ⟨fun inside => ⟨Nat.succ_pos earlier, inside⟩,
        fun both => both.2⟩

private theorem keyedAfter_eq_map
    (before rest : List α) (earlier : List String)
    (counts : ∀ name,
      earlier.count name = (namedItems name before).length) :
    keyedAfter earlier rest =
      (rest.zipIdx before.length).map
        fun entry => (keyAt (before ++ rest) entry, entry.1) := by
  induction rest generalizing before earlier with
  | nil => rfl
  | cons item rest induction =>
      have extended : ∀ name, (Named.name item :: earlier).count name =
          (namedItems name (before ++ [item])).length := by
        intro name
        rw [namedItems_append, List.length_append, ← counts,
          List.count_cons, namedItems_cons]
        by_cases same : Named.name item = name
        · simp [same]
        · simp [same]
      have tail := induction (before ++ [item]) _ extended
      rw [keyedAfter, List.zipIdx_cons, List.map_cons, counts, tail]
      simp [keyAt]

theorem keyed_eq_map (items : List α) :
    keyed items =
      items.zipIdx.map fun entry => (keyAt items entry, entry.1) :=
  keyedAfter_eq_map [] items [] (by simp [namedItems])

theorem unclaimed_eq_map (items : List α) :
    unclaimed items =
      items.zipIdx.map fun entry => ⟨keyAt items entry, entry.2, entry.1⟩ := by
  apply List.ext_getElem?
  intro position
  simp [unclaimed, keyed_eq_map, List.getElem?_zipIdx, Function.comp_def]

theorem map_key_unclaimed (items : List α) :
    (unclaimed items).map Unclaimed.key = keysOf items := by
  rw [unclaimed_eq_map, List.map_map]
  rfl

theorem find?_unclaimed (items : List α) (key : Key) :
    ((unclaimed items).find? fun entry => entry.key = key) =
      (occurrence? items key).map
        fun entry => ⟨key, entry.2, entry.1⟩ := by
  apply Option.ext
  intro entry
  have nodup : ((unclaimed items).map Unclaimed.key).Nodup := by
    rw [map_key_unclaimed]
    exact nodup_keysOf items
  rw [find?_key_eq_some_iff nodup, unclaimed_eq_map, List.mem_map,
    Option.map_eq_some_iff]
  simp only [occurrence?_eq_some_iff]
  constructor
  · rintro ⟨⟨found, member, rfl⟩, rfl⟩
    exact ⟨found, ⟨member, rfl⟩, rfl⟩
  · rintro ⟨found, ⟨member, rfl⟩, rfl⟩
    exact ⟨⟨found, member, rfl⟩, rfl⟩

end Occurrences

end SymbolDiff
