import SymbolDiff.Proofs.Reconcile.ByName
import SymbolDiff.Proofs.Report.Alike

/-!
# Two runs of a comparison

Two runs give reports that are alike as soon as they agree key by key, even
when they go through their items in different orders.  This is used twice:
for a run with the sides exchanged, whose report is the mirror of the first,
and for a run on rearranged items, whose report is the same.
-/

namespace SymbolDiff

open Node

theorem rel_outlined
    (label : String) {firsts seconds : List Node}
    (alike : AlikeList firsts seconds) :
    Option.Rel Alike (outlined label firsts) (outlined label seconds) := by
  have present : ∀ children : List Node,
      (children.map some).filterMap id = children := by
    intro children
    rw [List.filterMap_map]
    exact List.filterMap_some
  rw [← present firsts, ← present seconds, ← gather_outline,
    ← gather_outline]
  apply rel_gather_of_alikeList
  rw [present, present]
  exact alike

theorem map_mirror_outlined (label : String) (children : List Node) :
    (outlined label children).map mirror =
      outlined label (children.map mirror) := by
  cases children with
  | nil => rfl
  | cons first rest => simp [outlined, mirror, Kind.mirror]

section TwoRuns

variable {α : Type} [Named α]

/-- The entries of two runs are alike, up to a change of every entry, when
they are alike key by key. -/
theorem alikeList_plainEntries
    {answer response : α → α → Option Node} {change : Node → Node}
    {orderSensitive : Bool} {old new other others : List α}
    (sameKeys : ∀ key, key ∈ allKeys old new ↔ key ∈ allKeys other others)
    (order : Option.Rel Alike (reportMark? orderSensitive old new)
      ((reportMark? orderSensitive other others).map change))
    (byKey : ∀ key, Option.Rel Alike (entryOf? answer old new key)
      ((entryOf? response other others key).map change)) :
    AlikeList (plainEntries answer orderSensitive old new)
      ((plainEntries response orderSensitive other others).map change) := by
  have each : AlikeEach
      ((reportMark? orderSensitive old new).toList ++
        (allKeys other others).filterMap (entryOf? answer old new))
      (((reportMark? orderSensitive other others).toList ++
        (allKeys other others).filterMap
          (entryOf? response other others)).map change) := by
    rw [List.map_append, ← Option.toList_map, List.map_filterMap]
    exact (AlikeEach.toList order).append
      (AlikeEach.filterMap byKey (allKeys other others))
  have moved := (allKeys_perm sameKeys).filterMap (entryOf? answer old new)
  exact AlikeList.of_perms
    ((plainEntries_perm answer orderSensitive old new).trans
      (moved.append_left _))
    each ((plainEntries_perm response orderSensitive other others).map change)

theorem moved_comm (old new : List α) : Moved old new ↔ Moved new old := by
  constructor
  · rintro ⟨key, first, second, inOld, inNew, different⟩
    exact ⟨key, second, first, inNew, inOld, different.symm⟩
  · rintro ⟨key, first, second, inNew, inOld, different⟩
    exact ⟨key, second, first, inOld, inNew, different.symm⟩

/-- Exchanging two values gives the mirror of their entry. -/
theorem alike_replaced_mirror (label old new : String) :
    Alike (replaced label new old) (replaced label old new).mirror := by
  exact .mk label .changed (.swap _ _ _) (AlikeEach.refl _)

/-- With the sides exchanged, a comparison reports the mirror, provided that
the comparison of two items of one name does. -/
theorem mirrored_compareItems
    (compare : α → α → Traced (Option Node))
    (mirrored : ∀ first second, Named.name first = Named.name second →
      Mirrored (compare second first).value (compare first second).value)
    (orderSensitive : Bool) (label : String) (old new : List α) :
    Mirrored
      (compareItems Traced.remark compare orderSensitive label new old).value
      (compareItems Traced.remark compare orderSensitive label
        old new).value := by
  have sameKeys : ∀ key, key ∈ allKeys new old ↔ key ∈ allKeys old new := by
    intro key
    rw [mem_allKeys_iff, mem_allKeys_iff, or_comm]
  have order : Option.Rel Alike (reportMark? orderSensitive new old)
      ((reportMark? orderSensitive old new).map mirror) := by
    rw [reportMark?, reportMark?]
    simp only [moved_comm new old]
    split
    · exact Option.Rel.some (alike_replaced_mirror _ _ _)
    · exact Option.Rel.none
  have byKey : ∀ key, Option.Rel Alike
      (entryOf? (fun first second => (compare first second).value)
        new old key)
      ((entryOf? (fun first second => (compare first second).value)
        old new key).map mirror) := by
    intro key
    rw [entryOf?, entryOf?]
    cases inOld : itemOf? old key with
    | none =>
        cases inNew : itemOf? new key with
        | none => exact Option.Rel.none
        | some second => exact Option.Rel.some (Alike.refl _)
    | some first =>
        cases inNew : itemOf? new key with
        | none => exact Option.Rel.some (Alike.refl _)
        | some second =>
            exact mirrored first second
              ((name_of_itemOf? inOld).trans (name_of_itemOf? inNew).symm)
  rw [Mirrored, value_compareItems, value_compareItems,
    map_mirror_outlined]
  exact rel_outlined label (alikeList_plainEntries sameKeys order byKey)

/-- Items that relate name by name have the same keys. -/
theorem mem_keysOf_of_byName
    {relate : α → α → Prop} {firsts seconds : List α}
    (related : ByName relate firsts seconds) (key : Key) :
    key ∈ keysOf firsts ↔ key ∈ keysOf seconds := by
  rw [byName_iff_rel_itemOf?] at related
  have here := related key
  rw [mem_keysOf_iff_itemOf?, mem_keysOf_iff_itemOf?]
  generalize itemOf? firsts key = first at here ⊢
  generalize itemOf? seconds key = second at here ⊢
  cases here with
  | none => simp
  | some _ => simp

/-- Two runs on items that relate name by name give reports that are alike,
provided that they make the same order mark and that the comparison gives
reports that are alike for items that relate. -/
theorem rel_compareItems
    {relate : α → α → Prop} (compare : α → α → Traced (Option Node))
    (alike : ∀ first second other last,
      relate first other → relate second last →
        Option.Rel Alike (compare first second).value
          (compare other last).value)
    {orderSensitive : Bool} {old new other others : List α}
    (oldRelated : ByName relate old other)
    (newRelated : ByName relate new others)
    (sameOrder : reportMark? orderSensitive old new =
      reportMark? orderSensitive other others)
    (label : String) :
    Option.Rel Alike
      (compareItems Traced.remark compare orderSensitive label old new).value
      (compareItems Traced.remark compare orderSensitive label
        other others).value := by
  have sameKeys : ∀ key,
      key ∈ allKeys old new ↔ key ∈ allKeys other others := by
    intro key
    rw [mem_allKeys_iff, mem_allKeys_iff,
      mem_keysOf_of_byName oldRelated, mem_keysOf_of_byName newRelated]
  have order : Option.Rel Alike (reportMark? orderSensitive old new)
      ((reportMark? orderSensitive other others).map id) := by
    rw [sameOrder, Option.map_id_fun, id]
    exact rel_self Alike.refl _
  have byKey : ∀ key, Option.Rel Alike
      (entryOf? (fun first second => (compare first second).value)
        old new key)
      ((entryOf? (fun first second => (compare first second).value)
        other others key).map id) := by
    intro key
    have oldHere := (byName_iff_rel_itemOf? _ _ _).mp oldRelated key
    have newHere := (byName_iff_rel_itemOf? _ _ _).mp newRelated key
    rw [Option.map_id_fun, id, entryOf?, entryOf?]
    generalize itemOf? old key = first at oldHere ⊢
    generalize itemOf? other key = changed at oldHere ⊢
    generalize itemOf? new key = second at newHere ⊢
    generalize itemOf? others key = last at newHere ⊢
    cases oldHere with
    | none =>
        cases newHere with
        | none => exact Option.Rel.none
        | some _ => exact Option.Rel.some (Alike.refl _)
    | some oldPair =>
        cases newHere with
        | none => exact Option.Rel.some (Alike.refl _)
        | some newPair => exact alike _ _ _ _ oldPair newPair
  have entries := alikeList_plainEntries sameKeys order byKey
  rw [List.map_id_fun, id] at entries
  rw [value_compareItems, value_compareItems]
  exact rel_outlined label entries

/-- Where the order does not count, it is enough that items relate name by
name. -/
theorem rel_compareItems_unordered
    {relate : α → α → Prop} (compare : α → α → Traced (Option Node))
    (alike : ∀ first second other last,
      relate first other → relate second last →
        Option.Rel Alike (compare first second).value
          (compare other last).value)
    {old new other others : List α}
    (oldRelated : ByName relate old other)
    (newRelated : ByName relate new others) (label : String) :
    Option.Rel Alike
      (compareItems Traced.remark compare false label old new).value
      (compareItems Traced.remark compare false label other others).value :=
  rel_compareItems compare alike oldRelated newRelated
    (by simp [reportMark?]) label

private theorem map_name_of_forall₂
    {relate : α → α → Prop}
    (sameName : ∀ first second, relate first second →
      Named.name first = Named.name second)
    {firsts seconds : List α}
    (related : List.Forall₂ relate firsts seconds) :
    firsts.map Named.name = seconds.map Named.name := by
  induction related with
  | nil => rfl
  | cons head _ induction =>
      rw [List.map_cons, List.map_cons, sameName _ _ head, induction]

private theorem position_of_forall₂
    {relate : α → α → Prop}
    (sameName : ∀ first second, relate first second →
      Named.name first = Named.name second)
    {firsts seconds : List α}
    (related : List.Forall₂ relate firsts seconds) (key : Key) :
    (occurrence? firsts key).map Prod.snd =
      (occurrence? seconds key).map Prod.snd := by
  have here := rel_occurrence?_of_forall₂ sameName related key
  generalize occurrence? firsts key = first at here ⊢
  generalize occurrence? seconds key = second at here ⊢
  cases here with
  | none => rfl
  | some pair => exact congrArg some pair.2

private theorem moved_iff_positions (old new : List α) :
    Moved old new ↔
      ∃ key first second, (occurrence? old key).map Prod.snd = some first ∧
        (occurrence? new key).map Prod.snd = some second ∧
        first ≠ second := by
  constructor
  · rintro ⟨key, first, second, inOld, inNew, different⟩
    exact ⟨key, first.2, second.2, by rw [inOld, Option.map_some],
      by rw [inNew, Option.map_some], different⟩
  · rintro ⟨key, _, _, inOld, inNew, different⟩
    obtain ⟨first, foundOld, rfl⟩ := Option.map_eq_some_iff.mp inOld
    obtain ⟨second, foundNew, rfl⟩ := Option.map_eq_some_iff.mp inNew
    exact ⟨key, first, second, foundOld, foundNew, different⟩

/-- Where the order counts, items have to relate position by position. -/
theorem rel_compareItems_ordered
    {relate : α → α → Prop} (compare : α → α → Traced (Option Node))
    (sameName : ∀ first second, relate first second →
      Named.name first = Named.name second)
    (alike : ∀ first second other last,
      relate first other → relate second last →
        Option.Rel Alike (compare first second).value
          (compare other last).value)
    {old new other others : List α}
    (oldRelated : List.Forall₂ relate old other)
    (newRelated : List.Forall₂ relate new others) (label : String) :
    Option.Rel Alike
      (compareItems Traced.remark compare true label old new).value
      (compareItems Traced.remark compare true label other others).value := by
  have byName : ∀ {firsts seconds : List α},
      List.Forall₂ relate firsts seconds → ByName relate firsts seconds := by
    intro firsts seconds related
    rw [byName_iff_rel_itemOf?]
    intro key
    exact rel_map_of_rel (fun _ _ pair => pair.1)
      (rel_occurrence?_of_forall₂ sameName related key)
  have sameMoves : Moved old new ↔ Moved other others := by
    simp only [moved_iff_positions, position_of_forall₂ sameName oldRelated,
      position_of_forall₂ sameName newRelated]
  have sameOrder : reportMark? true old new = reportMark? true other others := by
    rw [reportMark?, reportMark?, orderChanged, orderChanged,
      map_name_of_forall₂ sameName oldRelated,
      map_name_of_forall₂ sameName newRelated]
    simp only [sameMoves]
  exact rel_compareItems compare alike (byName oldRelated)
    (byName newRelated) sameOrder label

end TwoRuns

end SymbolDiff
