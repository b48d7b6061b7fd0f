import SymbolDiff.Proofs.Outcome
import SymbolDiff.Proofs.Results
import SymbolDiff.Proofs.Symbol.Agreement

/-!
# Sequences that differ in their order alone

Where every name occurs equally often on both sides, each item has a partner
and nothing is added or removed.  A comparison that finds nothing in the
matched pairs then leaves at most the order mark, and the mark is due exactly
when the names do not come in the same order: an item that has moved shows in
the bare names, repeated or not.
-/

namespace SymbolDiff

section Reordering

variable {α : Type} [Named α]

/-- Every name occurs equally often in two sequences. -/
def SameNames (old new : List α) : Prop :=
  ∀ name, (old.map Named.name).count name = (new.map Named.name).count name

namespace SameNames

variable {old new : List α} (same : SameNames old new)

include same

theorem mem_keysOf_iff (key : Key) : key ∈ keysOf old ↔ key ∈ keysOf new := by
  rw [mem_keysOf_iff_le, mem_keysOf_iff_le, length_namedItems,
    length_namedItems, same]

theorem removals_eq_nil : removals old new = [] := by
  rw [removals_eq_map, List.map_eq_nil_iff, List.filter_eq_nil_iff]
  intro key member
  simp [(same.mem_keysOf_iff key).mp member]

theorem exists_partner {entry : α × Nat} (member : entry ∈ new.zipIdx) :
    ∃ partner, occurrence? old (keyAt new entry) = some partner :=
  (SymbolDiff.mem_keysOf_iff old _).mp
    ((same.mem_keysOf_iff _).mpr (List.mem_map_of_mem member))

/-- Some item has moved exactly when the names come in another order. -/
theorem moved_iff :
    Moved old new ↔ old.map Named.name ≠ new.map Named.name := by
  have byName : ByName (fun _ _ => True) old new := by
    intro name
    rw [List.forall₂_iff_get]
    refine ⟨?_, fun _ _ _ => trivial⟩
    rw [length_namedItems, length_namedItems, same]
  have aligned := not_moved_and_byName_iff (fun _ _ => True) old new
  simp only [byName, and_true, ← Outcome.map_eq_map_iff_forall₂] at aligned
  exact (not_iff_comm.mp aligned).symm

end SameNames

variable {m : Type → Type} [Monad m]

/-- Everything that a reconciliation does on the way to its report: the remarks
on repeated names, then the comparison of each matched pair. -/
def matchedCalls (remark : Remark → m Unit)
    (compare : α → α → m (Option Node)) (old new : List α) : m Unit := do
  remarkRepeated remark old
  remarkRepeated remark new
  (matchedPairs old new).forM fun pair => discard (compare pair.1 pair.2)

variable [LawfulMonad m]

/-- A walk along new items that all have partners, in which the comparison
finds nothing. -/
private theorem mapM_entriesAt
    {compare : α → α → m (Option Node)} (orderSensitive : Bool)
    {old new : List α} {todo : List (α × Nat)}
    (silent : ∀ entry ∈ todo, ∃ partner,
      occurrence? old (keyAt new entry) = some partner ∧
        Gives (· = none) (compare partner.1 entry.1)) :
    todo.mapM (entriesAt compare orderSensitive old new) = (do
      (todo.filterMap fun entry =>
          (occurrence? old (keyAt new entry)).map
            fun partner => (partner.1, entry.1)).forM
        fun pair => discard (compare pair.1 pair.2)
      return todo.map (orderMark orderSensitive old new)) := by
  induction todo with
  | nil => simp
  | cons entry todo induction =>
      rw [List.forall_mem_cons] at silent
      obtain ⟨⟨partner, found, nothing⟩, later⟩ := silent
      have here : entriesAt compare orderSensitive old new entry =
          compare partner.1 entry.1 >>= fun _ =>
            pure (orderMark orderSensitive old new entry) := by
        rw [entriesAt, found]
        apply nothing.bind_congr
        rintro _ rfl
        rw [Option.toList_none, List.append_nil]
      rw [List.mapM_cons, here, induction later]
      simp [found, discard, map_const]

/-- Where nothing but the order can differ, the entries are the order mark or
none at all. -/
theorem entries_of_sameNames
    {compare : α → α → m (Option Node)} (orderSensitive : Bool)
    {old new : List α} (same : SameNames old new)
    (silent : ∀ pair ∈ matchedPairs old new,
      Gives (· = none) (compare pair.1 pair.2)) :
    entries compare orderSensitive old new = (do
      (matchedPairs old new).forM
        fun pair => discard (compare pair.1 pair.2)
      return (reportMark? orderSensitive old new).toList) := by
  have each : ∀ entry ∈ new.zipIdx, ∃ partner,
      occurrence? old (keyAt new entry) = some partner ∧
        Gives (· = none) (compare partner.1 entry.1) := by
    intro entry member
    obtain ⟨partner, found⟩ := same.exists_partner member
    refine ⟨partner, found, silent (partner.1, entry.1) ?_⟩
    exact List.mem_filterMap.mpr ⟨entry, member, by rw [found]; rfl⟩
  rw [entries, mapM_entriesAt orderSensitive each, same.removals_eq_nil,
    ← flatMap_orderMark]
  simp [matchedPairs, List.flatMap_def]

/-- Where every name occurs equally often on both sides and the comparison
finds nothing in any matched pair, a reconciliation in which the order counts
reports nothing exactly when the names come in the same order, and otherwise
the order mark alone; one in which the order does not count reports nothing. -/
theorem compareItems_of_sameNames
    (remark : Remark → m Unit) (compare : α → α → m (Option Node))
    (label : String) (old new : List α)
    (same : SameNames old new)
    (silent : ∀ pair ∈ matchedPairs old new,
      Gives (· = none) (compare pair.1 pair.2)) :
    ∃ report : Option Node,
      compareItems remark compare true label old new = (do
        matchedCalls remark compare old new
        return report) ∧
      (report = none ↔ old.map Named.name = new.map Named.name) ∧
      (old.map Named.name ≠ new.map Named.name →
        report = some (.mk label .outline
          [.mk "Order Changed" .changed
            [.removed (", ".intercalate (old.map Named.name)),
              .added (", ".intercalate (new.map Named.name))]])) ∧
      compareItems remark compare false label old new = (do
        matchedCalls remark compare old new
        return none) := by
  have walked : ∀ orderSensitive,
      compareItems remark compare orderSensitive label old new = (do
        matchedCalls remark compare old new
        return outlined label (reportMark? orderSensitive old new).toList) := by
    intro orderSensitive
    rw [compareItems_eq_entries, entries_of_sameNames orderSensitive same silent]
    simp [matchedCalls]
  have moved := same.moved_iff
  refine ⟨_, walked true, ?_, ?_, walked false⟩
  · rw [outlined_eq_none_iff, Option.toList_eq_nil_iff, reportMark?]
    simp [moved]
  · intro different
    rw [reportMark?, if_pos ⟨rfl, moved.mpr different⟩]
    rfl

end Reordering

/-- Two parameters of one name that are told apart by their types alone: a third
one moves in front of them, and the mark shows both orders. -/
theorem compareItems_of_sameNames_overtaken :
    let old : List Parameter :=
      [{ name := "x", type := "A", ordinal := 0 },
        { name := "x", type := "B", ordinal := 1 }, { name := "y", ordinal := 2 }]
    let new : List Parameter :=
      [{ name := "y", ordinal := 0 }, { name := "x", type := "A", ordinal := 1 },
        { name := "x", type := "B", ordinal := 2 }]
    let compare : Parameter → Parameter → Traced (Option Node) :=
      fun first second => pure (compareParameter first second)
    SameNames old new ∧
      (∀ pair ∈ matchedPairs old new,
        Gives (· = none) (compare pair.1 pair.2)) ∧
      (compareItems Traced.remark compare true "Parameters" old new).value =
        some (.mk "Parameters" .outline
          [.mk "Order Changed" .changed
            [.removed "x, x, y", .added "y, x, x"]]) ∧
      (compareItems Traced.remark compare false "Parameters" old new).value =
        none := by
  intro old new compare
  have perm : (old.map Named.name).Perm (new.map Named.name) := by decide
  have same : SameNames old new := fun name => perm.count_eq name
  have silent : ∀ pair ∈ matchedPairs old new,
      Gives (· = none) (compare pair.1 pair.2) := by
    have agree : ∀ pair ∈ matchedPairs old new,
        pair.1.type = pair.2.type ∧ pair.1.isOptional = pair.2.isOptional := by
      decide
    intro pair member
    exact gives_iff_value.mpr
      ((compareParameter_eq_none_iff _ _).mpr (agree pair member))
  obtain ⟨report, ordered, _, marked, unordered⟩ :=
    compareItems_of_sameNames Traced.remark compare "Parameters" old new same
      silent
  refine ⟨same, silent, ?_, ?_⟩
  · rw [ordered, Traced.value_bind, Traced.value_pure, marked (by decide)]
    rfl
  · rw [unordered, Traced.value_bind, Traced.value_pure]

end SymbolDiff
