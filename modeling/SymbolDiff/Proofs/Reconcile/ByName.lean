import Mathlib.Data.List.Forall2
import SymbolDiff.Proofs.Reconcile.ByKey

/-!
# Agreement name by name

A comparison of two collections reports nothing exactly when the items agree
name by name.  Where the order counts this becomes agreement position by
position, since an item that stands elsewhere is reported.
-/

namespace SymbolDiff

section ByName

variable {α : Type} [Named α]

/-- Two lists relate element by element when they do so at every index. -/
theorem forall₂_iff_rel_getElem?
    {β : Type} (relate : β → β → Prop) (firsts seconds : List β) :
    List.Forall₂ relate firsts seconds ↔
      ∀ index : Nat, Option.Rel relate firsts[index]? seconds[index]? := by
  induction firsts generalizing seconds with
  | nil =>
      cases seconds with
      | nil => simp
      | cons second seconds =>
          simp only [List.forall₂_nil_left_iff, reduceCtorEq, false_iff]
          intro everywhere
          have atFront := everywhere 0
          simp at atFront
  | cons first firsts induction =>
      cases seconds with
      | nil =>
          simp only [List.forall₂_nil_right_iff, reduceCtorEq, false_iff]
          intro everywhere
          have atFront := everywhere 0
          simp at atFront
      | cons second seconds =>
          rw [List.forall₂_cons, induction]
          constructor
          · rintro ⟨head, tail⟩ index
            cases index with
            | zero => simpa using head
            | succ index => simpa using tail index
          · intro everywhere
            refine ⟨by simpa using everywhere 0, ?_⟩
            intro index
            simpa using everywhere (index + 1)

/-- Two sequences relate name by name: for every name, the items of that name
relate one by one in their order. -/
def ByName (relate : α → α → Prop) (firsts seconds : List α) : Prop :=
  ∀ name, List.Forall₂ relate
    (namedItems name firsts) (namedItems name seconds)

theorem ByName.refl {relate : α → α → Prop}
    (reflexive : ∀ item, relate item item) (items : List α) :
    ByName relate items items :=
  fun _ => List.forall₂_same.mpr fun item _ => reflexive item

theorem byName_iff_rel_itemOf?
    (relate : α → α → Prop) (firsts seconds : List α) :
    ByName relate firsts seconds ↔
      ∀ key, Option.Rel relate (itemOf? firsts key) (itemOf? seconds key) := by
  simp only [ByName, forall₂_iff_rel_getElem?]
  constructor
  · intro byName key
    obtain ⟨name, occurrence⟩ := key
    cases occurrence with
    | zero => exact Option.Rel.none
    | succ earlier =>
        simpa only [itemOf?, map_fst_occurrence?] using byName name earlier
  · intro byKey name earlier
    simpa only [itemOf?, map_fst_occurrence?] using
      byKey ⟨name, earlier + 1⟩

/-- A comparison reports nothing exactly when no item has moved, if the order
counts, and the items agree name by name. -/
theorem value_compareItems_eq_none_iff
    (compare : α → α → Traced (Option Node)) (orderSensitive : Bool)
    (label : String) (old new : List α) :
    (compareItems Traced.remark compare orderSensitive label
        old new).value = none ↔
      (orderSensitive = true → ¬Moved old new) ∧
        ByName (fun first second => (compare first second).value = none)
          old new := by
  have order : reportMark? orderSensitive old new = none ↔
      (orderSensitive = true → ¬Moved old new) := by
    simp [reportMark?]
  have perm := plainEntries_perm
    (fun first second => (compare first second).value) orderSensitive old new
  rw [value_compareItems, outlined_eq_none_iff, ← List.perm_nil,
    perm.congr_left, List.perm_nil, List.append_eq_nil_iff,
    Option.toList_eq_nil_iff, order, List.filterMap_eq_nil_iff,
    byName_iff_rel_itemOf?]
  simp only [← entryOf?_eq_none_iff]
  constructor
  · rintro ⟨unmoved, listed⟩
    refine ⟨unmoved, ?_⟩
    intro key
    by_cases member : key ∈ allKeys old new
    · exact listed key member
    · exact entryOf?_eq_none_of_not_mem member
  · rintro ⟨unmoved, everywhere⟩
    exact ⟨unmoved, fun key _ => everywhere key⟩

theorem rel_self
    {β : Type} {relate : β → β → Prop}
    (reflexive : ∀ value, relate value value) (result : Option β) :
    Option.Rel relate result result := by
  cases result with
  | none => exact Option.Rel.none
  | some value => exact Option.Rel.some (reflexive value)

theorem rel_map_of_rel
    {β γ : Type} {relate : β → β → Prop} {mapped : γ → γ → Prop}
    {change : β → γ}
    (preserved : ∀ first second, relate first second →
      mapped (change first) (change second))
    {first second : Option β} (related : Option.Rel relate first second) :
    Option.Rel mapped (first.map change) (second.map change) := by
  cases related with
  | none => exact Option.Rel.none
  | some pair => exact Option.Rel.some (preserved _ _ pair)

private theorem forall₂_zipIdx
    {β : Type} {relate : β → β → Prop} {firsts seconds : List β}
    (related : List.Forall₂ relate firsts seconds) (start : Nat) :
    List.Forall₂ (fun first second =>
        relate first.1 second.1 ∧ first.2 = second.2)
      (firsts.zipIdx start) (seconds.zipIdx start) := by
  induction related generalizing start with
  | nil => exact .nil
  | cons head _ induction => exact .cons ⟨head, rfl⟩ (induction (start + 1))

/-- Sequences that relate position by position have the same keys at the same
positions. -/
theorem rel_occurrence?_of_forall₂
    {relate : α → α → Prop}
    (sameName : ∀ first second, relate first second →
      Named.name first = Named.name second)
    {firsts seconds : List α}
    (related : List.Forall₂ relate firsts seconds) (key : Key) :
    Option.Rel (fun first second =>
        relate first.1 second.1 ∧ first.2 = second.2)
      (occurrence? firsts key) (occurrence? seconds key) := by
  obtain ⟨name, occurrence⟩ := key
  cases occurrence with
  | zero => exact Option.Rel.none
  | succ earlier =>
      have sameFilter : ∀ ⦃first second : α × Nat⦄,
          relate first.1 second.1 ∧ first.2 = second.2 →
            (decide (Named.name first.1 = name) = true ↔
              decide (Named.name second.1 = name) = true) := by
        rintro first second ⟨head, _⟩
        rw [sameName _ _ head]
      have kept := List.rel_filter sameFilter (forall₂_zipIdx related 0)
      exact (forall₂_iff_rel_getElem? _ _ _).mp kept earlier

theorem getElem?_of_occurrence?
    {items : List α} {key : Key} {entry : α × Nat}
    (found : occurrence? items key = some entry) :
    items[entry.2]? = some entry.1 := by
  obtain ⟨member, _⟩ := (occurrence?_eq_some_iff items key entry).mp found
  exact List.mem_zipIdx_iff_getElem?.mp member

theorem occurrence?_of_getElem?
    {items : List α} {item : α} {index : Nat}
    (found : items[index]? = some item) :
    occurrence? items (keyAt items (item, index)) = some (item, index) :=
  occurrence?_keyAt (List.mem_zipIdx_iff_getElem?.mpr found)

/-- Where nothing has moved, items that agree name by name stand at the same
positions. -/
private theorem rel_occurrence?_of_not_moved
    {relate : α → α → Prop} {firsts seconds : List α}
    (unmoved : ¬Moved firsts seconds) {key : Key}
    (related : Option.Rel relate (itemOf? firsts key)
      (itemOf? seconds key)) :
    Option.Rel (fun first second => first.2 = second.2 ∧
        Named.name first.1 = Named.name second.1 ∧
        relate first.1 second.1)
      (occurrence? firsts key) (occurrence? seconds key) := by
  rw [itemOf?, itemOf?] at related
  cases inFirsts : occurrence? firsts key with
  | none =>
      cases inSeconds : occurrence? seconds key with
      | none => exact Option.Rel.none
      | some second =>
          rw [inFirsts, inSeconds] at related
          cases related
  | some first =>
      cases inSeconds : occurrence? seconds key with
      | none =>
          rw [inFirsts, inSeconds] at related
          cases related
      | some second =>
          rw [inFirsts, inSeconds] at related
          have samePosition : first.2 = second.2 := by
            by_contra different
            exact unmoved ⟨key, first, second, inFirsts, inSeconds, different⟩
          have sameName : Named.name first.1 = Named.name second.1 :=
            (name_of_occurrence? inFirsts).trans
              (name_of_occurrence? inSeconds).symm
          exact Option.Rel.some
            ⟨samePosition, sameName, Option.rel_some_some.mp related⟩

/-- Where the order counts, items agree position by position. -/
theorem not_moved_and_byName_iff
    (relate : α → α → Prop) (firsts seconds : List α) :
    (¬Moved firsts seconds ∧ ByName relate firsts seconds) ↔
      List.Forall₂
        (fun first second =>
          Named.name first = Named.name second ∧ relate first second)
        firsts seconds := by
  rw [byName_iff_rel_itemOf?]
  constructor
  · rintro ⟨unmoved, byKey⟩
    have together := fun key => rel_occurrence?_of_not_moved unmoved (byKey key)
    rw [forall₂_iff_rel_getElem?]
    intro index
    cases inFirsts : firsts[index]? with
    | some first =>
        have here := together (keyAt firsts (first, index))
        rw [occurrence?_of_getElem? inFirsts] at here
        cases inSeconds : occurrence? seconds (keyAt firsts (first, index)) with
        | none =>
            rw [inSeconds] at here
            cases here
        | some second =>
            rw [inSeconds, Option.rel_some_some] at here
            obtain ⟨samePosition, sameName, agree⟩ := here
            have found := getElem?_of_occurrence? inSeconds
            rw [← samePosition] at found
            rw [found]
            exact Option.Rel.some ⟨sameName, agree⟩
    | none =>
        cases inSeconds : seconds[index]? with
        | none => exact Option.Rel.none
        | some second =>
            have here := together (keyAt seconds (second, index))
            rw [occurrence?_of_getElem? inSeconds] at here
            cases there :
                occurrence? firsts (keyAt seconds (second, index)) with
            | none =>
                rw [there] at here
                cases here
            | some first =>
                rw [there, Option.rel_some_some] at here
                have found := getElem?_of_occurrence? there
                rw [here.1, inFirsts] at found
                cases found
  · intro related
    have sameName : ∀ first second : α,
        Named.name first = Named.name second ∧ relate first second →
          Named.name first = Named.name second :=
      fun _ _ both => both.1
    have aligned := rel_occurrence?_of_forall₂ sameName related
    constructor
    · rintro ⟨key, first, second, inFirsts, inSeconds, different⟩
      have here := aligned key
      rw [inFirsts, inSeconds, Option.rel_some_some] at here
      exact different here.2
    · intro key
      exact rel_map_of_rel (fun _ _ both => both.1.2) (aligned key)

/-- Where the order does not count, nothing is reported exactly when the
items agree name by name. -/
theorem value_compareItems_unordered_eq_none_iff
    (compare : α → α → Traced (Option Node)) (label : String)
    (old new : List α) :
    (compareItems Traced.remark compare false label old new).value = none ↔
      ByName (fun first second => (compare first second).value = none)
        old new := by
  simp [value_compareItems_eq_none_iff]

/-- Where the order counts, nothing is reported exactly when the items agree
position by position. -/
theorem value_compareItems_ordered_eq_none_iff
    (compare : α → α → Traced (Option Node)) (label : String)
    (old new : List α) :
    (compareItems Traced.remark compare true label old new).value = none ↔
      List.Forall₂
        (fun first second => Named.name first = Named.name second ∧
          (compare first second).value = none)
        old new := by
  rw [value_compareItems_eq_none_iff, ← not_moved_and_byName_iff]
  simp

end ByName

end SymbolDiff
