import Mathlib.Data.List.Perm.Basic
import SymbolDiff.Proofs.Reconcile.Reference

/-!
# Reports key by key

Up to the order of its entries a report is made of one entry for each key of
either side, and of the order mark where it is due.  What happens at a key
depends on the two items of that key only, so questions about two runs on
sequences in different orders become questions about single keys.
-/

namespace SymbolDiff

section ByKey

variable {α : Type} [Named α]

/-- The item of a key. -/
def itemOf? (items : List α) (key : Key) : Option α :=
  (occurrence? items key).map Prod.fst

/-- What a report says about one key. -/
def entryOf? (answer : α → α → Option Node) (old new : List α)
    (key : Key) : Option Node :=
  match itemOf? old key, itemOf? new key with
  | none, none => none
  | some _, none => some (.removed key.label)
  | none, some _ => some (.added key.label)
  | some first, some second => answer first second

/-- Some item stands at different positions in two sequences. -/
def Moved (old new : List α) : Prop :=
  ∃ key first second, occurrence? old key = some first ∧
    occurrence? new key = some second ∧ first.2 ≠ second.2

/-- The keys of both sides, those of the old side alone first. -/
def allKeys (old new : List α) : List Key :=
  ((keysOf old).filter fun key => key ∉ keysOf new) ++ keysOf new

theorem mem_keysOf_iff_itemOf? (items : List α) (key : Key) :
    key ∈ keysOf items ↔ ∃ item, itemOf? items key = some item := by
  simp [mem_keysOf_iff, itemOf?]

theorem not_mem_keysOf_iff (items : List α) (key : Key) :
    key ∉ keysOf items ↔ itemOf? items key = none := by
  rw [mem_keysOf_iff_itemOf?, Option.eq_none_iff_forall_ne_some]
  simp

theorem name_of_occurrence?
    {items : List α} {key : Key} {entry : α × Nat}
    (found : occurrence? items key = some entry) :
    Named.name entry.1 = key.name := by
  obtain ⟨_, same⟩ := (occurrence?_eq_some_iff items key entry).mp found
  exact congrArg Key.name same

theorem name_of_itemOf?
    {items : List α} {key : Key} {item : α}
    (found : itemOf? items key = some item) :
    Named.name item = key.name := by
  obtain ⟨entry, located, rfl⟩ := Option.map_eq_some_iff.mp found
  exact name_of_occurrence? located

theorem mem_allKeys_iff (old new : List α) (key : Key) :
    key ∈ allKeys old new ↔ key ∈ keysOf old ∨ key ∈ keysOf new := by
  rw [allKeys, List.mem_append, List.mem_filter]
  by_cases inNew : key ∈ keysOf new
  · simp [inNew]
  · simp [inNew]

theorem nodup_allKeys (old new : List α) : (allKeys old new).Nodup := by
  rw [allKeys, List.nodup_append]
  refine ⟨(nodup_keysOf old).filter _, nodup_keysOf new, ?_⟩
  intro first firstMember second secondMember same
  subst same
  simp [secondMember] at firstMember

theorem allKeys_perm
    {old new other others : List α}
    (same : ∀ key, key ∈ allKeys old new ↔ key ∈ allKeys other others) :
    (allKeys old new).Perm (allKeys other others) :=
  (List.perm_ext_iff_of_nodup (nodup_allKeys old new)
    (nodup_allKeys other others)).mpr same

theorem entryOf?_eq_none_of_not_mem
    {answer : α → α → Option Node} {old new : List α} {key : Key}
    (outside : key ∉ allKeys old new) :
    entryOf? answer old new key = none := by
  rw [mem_allKeys_iff, not_or, not_mem_keysOf_iff,
    not_mem_keysOf_iff] at outside
  rw [entryOf?, outside.1, outside.2]

/-- Nothing is said about a key when both sides lack it, or have items that
the comparison does not tell apart. -/
theorem entryOf?_eq_none_iff
    (answer : α → α → Option Node) (old new : List α) (key : Key) :
    entryOf? answer old new key = none ↔
      Option.Rel (fun first second => answer first second = none)
        (itemOf? old key) (itemOf? new key) := by
  rw [entryOf?]
  cases itemOf? old key with
  | none =>
      cases itemOf? new key with
      | none => simp
      | some second => simp
  | some first =>
      cases itemOf? new key with
      | none => simp
      | some second => simp

theorem any_displaced_iff (old new : List α) :
    new.zipIdx.any (displaced old new) = true ↔ Moved old new := by
  rw [List.any_eq_true]
  constructor
  · rintro ⟨entry, member, elsewhere⟩
    rw [displaced, Option.any_eq_true] at elsewhere
    obtain ⟨partner, found, different⟩ := elsewhere
    exact ⟨keyAt new entry, partner, entry, found, occurrence?_keyAt member,
      by simpa using different⟩
  · rintro ⟨key, first, second, inOld, inNew, different⟩
    obtain ⟨member, rfl⟩ :=
      (occurrence?_eq_some_iff new key second).mp inNew
    exact ⟨second, member, by simp [displaced, inOld, different]⟩

instance (old new : List α) : Decidable (Moved old new) :=
  decidable_of_iff _ (any_displaced_iff old new)

/-- The order mark of a whole report. -/
def reportMark? (orderSensitive : Bool) (old new : List α) : Option Node :=
  if orderSensitive = true ∧ Moved old new then some (orderChanged old new)
  else none

private theorem displaced_of_firstDisplaced?
    {old new : List α} {entry : α × Nat} (member : entry ∈ new.zipIdx)
    (first : firstDisplaced? old new = some entry.2) :
    displaced old new entry = true := by
  obtain ⟨inside, elsewhere, _⟩ :=
    List.findIdx?_eq_some_iff_getElem.mp first
  have here : new.zipIdx[entry.2]? = some entry := by
    rw [List.mem_zipIdx_iff_getElem?] at member
    simp [List.getElem?_zipIdx, member]
  rw [List.getElem?_eq_getElem inside, Option.some.injEq] at here
  rwa [here] at elsewhere

/-- What a new item contributes is what is said about its key, behind the
order mark. -/
private theorem plainEntriesAt_eq
    (answer : α → α → Option Node) (orderSensitive : Bool)
    {old new : List α} {entry : α × Nat} (member : entry ∈ new.zipIdx) :
    plainEntriesAt answer orderSensitive old new entry =
      orderMark orderSensitive old new entry ++
        (entryOf? answer old new (keyAt new entry)).toList := by
  have inNew : itemOf? new (keyAt new entry) = some entry.1 := by
    rw [itemOf?, occurrence?_keyAt member, Option.map_some]
  rw [plainEntriesAt, entryOf?, inNew, itemOf?]
  cases found : occurrence? old (keyAt new entry) with
  | some partner => rfl
  | none =>
      have unmarked : orderMark orderSensitive old new entry = [] := by
        rw [orderMark, if_neg]
        rintro ⟨_, first⟩
        have elsewhere := displaced_of_firstDisplaced? member first
        simp [displaced, found] at elsewhere
      rw [unmarked]
      rfl

private theorem flatMap_mark_positions
    (mark : Node) (position : Nat) {positions : List Nat}
    (nodup : positions.Nodup) :
    (positions.flatMap
        fun other => if some position = some other then [mark] else []) =
      if position ∈ positions then [mark] else [] := by
  induction positions with
  | nil => rfl
  | cons head tail induction =>
      rw [List.nodup_cons] at nodup
      rw [List.flatMap_cons, induction nodup.2]
      by_cases same : position = head
      · subst same
        simp [nodup.1]
      · simp [same]

theorem flatMap_orderMark
    (orderSensitive : Bool) (old new : List α) :
    new.zipIdx.flatMap (orderMark orderSensitive old new) =
      (reportMark? orderSensitive old new).toList := by
  cases orderSensitive with
  | false => simp [orderMark, reportMark?]
  | true =>
      have positions : new.zipIdx.flatMap (orderMark true old new) =
          (new.zipIdx.map Prod.snd).flatMap fun position =>
            if firstDisplaced? old new = some position then
              [orderChanged old new]
            else [] := by
        rw [List.flatMap_map]
        apply List.flatMap_congr
        intro entry _
        simp [orderMark]
      rw [positions, List.zipIdx_map_snd]
      cases first : firstDisplaced? old new with
      | none =>
          have still : ¬Moved old new := by
            rw [← any_displaced_iff, List.any_eq_true]
            rintro ⟨entry, member, elsewhere⟩
            simpa [elsewhere] using
              List.findIdx?_eq_none_iff.mp first entry member
          simp [reportMark?, still]
      | some position =>
          obtain ⟨inside, elsewhere, _⟩ :=
            List.findIdx?_eq_some_iff_getElem.mp first
          have moved : Moved old new := by
            rw [← any_displaced_iff, List.any_eq_true]
            exact ⟨_, List.getElem_mem inside, elsewhere⟩
          rw [flatMap_mark_positions _ _ List.nodup_range']
          rw [List.length_zipIdx] at inside
          simp [reportMark?, moved, inside]

/-- Up to order, a report consists of the order mark and of one entry for
each key about which there is something to say. -/
theorem plainEntries_perm
    (answer : α → α → Option Node) (orderSensitive : Bool)
    (old new : List α) :
    (plainEntries answer orderSensitive old new).Perm
      ((reportMark? orderSensitive old new).toList ++
        (allKeys old new).filterMap (entryOf? answer old new)) := by
  have front : removals old new =
      ((keysOf old).filter fun key => key ∉ keysOf new).filterMap
        (entryOf? answer old new) := by
    rw [removals_eq_map, ← List.filterMap_eq_map]
    apply List.filterMap_congr
    intro key member
    rw [List.mem_filter, decide_eq_true_eq, not_mem_keysOf_iff,
      mem_keysOf_iff_itemOf?] at member
    obtain ⟨⟨item, inOld⟩, notInNew⟩ := member
    simp [entryOf?, inOld, notInNew]
  have back :
      (new.zipIdx.flatMap
          (plainEntriesAt answer orderSensitive old new)).Perm
        ((reportMark? orderSensitive old new).toList ++
          (keysOf new).filterMap (entryOf? answer old new)) := by
    rw [List.flatMap_congr fun entry member =>
        plainEntriesAt_eq answer orderSensitive member,
      keysOf, List.filterMap_map, List.filterMap_eq_flatMap_toList,
      ← flatMap_orderMark]
    exact (List.flatMap_append_perm _ _ _).symm
  rw [plainEntries, allKeys, List.filterMap_append, ← front]
  exact (back.append_left _).trans (List.perm_append_comm_assoc _ _ _)

theorem outlined_eq_none_iff (label : String) (children : List Node) :
    outlined label children = none ↔ children = [] := by
  cases children with
  | nil => simp [outlined]
  | cons first rest => simp [outlined]

/-- The result of a comparison whose remarks are not looked at. -/
theorem value_compareItems
    (compare : α → α → Traced (Option Node)) (orderSensitive : Bool)
    (label : String) (old new : List α) :
    (compareItems Traced.remark compare orderSensitive label old new).value =
      outlined label
        (plainEntries (fun first second => (compare first second).value)
          orderSensitive old new) := by
  have each : ∀ entry,
      (entriesAt compare orderSensitive old new entry).value =
        plainEntriesAt (fun first second => (compare first second).value)
          orderSensitive old new entry := by
    intro entry
    rw [entriesAt, plainEntriesAt]
    cases occurrence? old (keyAt new entry) with
    | none => rfl
    | some partner => rfl
  rw [compareItems_eq_entries]
  simp [entries, plainEntries, each, List.flatMap_def]

end ByKey

end SymbolDiff
