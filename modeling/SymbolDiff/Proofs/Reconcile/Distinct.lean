import SymbolDiff.Proofs.Reconcile.Reference

/-!
# Collections without repeated names

Where no name repeats, occurrence numbers say nothing: each key is a name with
the number one, the partner of an item is the item of its name, and nothing is
remarked.  Reconciliation then compares the new items by name, one after the
other, and puts the names of the old side alone in front.
-/

namespace SymbolDiff

section Distinct

variable {α : Type} [Named α]

/-- No two items have the same name. -/
def Distinct (items : List α) : Prop :=
  (items.map Named.name).Nodup

/-- What a new item contributes when names do not repeat: an added leaf, or
the answer of the comparison with the old item of its name. -/
def entryFor {m : Type → Type} [Monad m]
    (compare : α → α → m (Option Node)) (old : List α) (item : α) :
    m (Option Node) :=
  match old.find? fun other => Named.name other = Named.name item with
  | none => pure (some (.added (Named.name item)))
  | some partner => compare partner item

/-- The leaves of the old items whose name is gone. -/
def removedNames (old new : List α) : List Node :=
  (old.filter fun item => Named.name item ∉ new.map Named.name).map
    fun item => .removed (Named.name item)

theorem length_namedItems_le_one {items : List α} (distinct : Distinct items)
    (name : String) : (namedItems name items).length ≤ 1 := by
  rw [length_namedItems]
  exact List.nodup_iff_count_le_one.mp distinct name

theorem occurrence_eq_one {items : List α} (distinct : Distinct items)
    {key : Key} (member : key ∈ keysOf items) : key.occurrence = 1 := by
  obtain ⟨positive, bounded⟩ := (mem_keysOf_iff_le items key).mp member
  have single := length_namedItems_le_one distinct key.name
  omega

theorem keyAt_eq {items : List α} (distinct : Distinct items)
    {entry : α × Nat} (member : entry ∈ items.zipIdx) :
    keyAt items entry = ⟨Named.name entry.1, 1⟩ := by
  have listed : keyAt items entry ∈ keysOf items :=
    List.mem_map_of_mem member
  have first := occurrence_eq_one distinct listed
  rw [keyAt] at first ⊢
  rw [Key.mk.injEq]
  exact ⟨rfl, first⟩

theorem repeatedNames_eq_nil {items : List α} (distinct : Distinct items) :
    repeatedNames items = [] := by
  have keys : (keyed items).map Prod.fst = keysOf items := by
    rw [keyed_eq_map, List.map_map]
    rfl
  have second : (keysOf items).filter (fun key => key.occurrence = 2) = [] := by
    rw [List.filter_eq_nil_iff]
    intro key member
    simp [occurrence_eq_one distinct member]
  rw [repeatedNames, keys, second]
  simp [Text.inOrder]

/-- The first item of a name. -/
theorem map_fst_occurrence?_one (items : List α) (name : String) :
    (occurrence? items ⟨name, 1⟩).map Prod.fst =
      items.find? fun item => Named.name item = name := by
  rw [map_fst_occurrence?, namedItems, ← List.head?_eq_getElem?,
    List.head?_filter]

theorem removals_eq_removedNames {old new : List α}
    (oldDistinct : Distinct old) :
    removals old new = removedNames old new := by
  have positions : old.zipIdx.filter (fun entry =>
        (namedItems (Named.name entry.1) new).length <
          (keyAt old entry).occurrence) =
      old.zipIdx.filter
        fun entry => Named.name entry.1 ∉ new.map Named.name := by
    apply List.filter_congr
    intro entry member
    rw [keyAt_eq oldDistinct member, decide_eq_decide, Nat.lt_one_iff,
      List.length_eq_zero_iff, namedItems, List.filter_eq_nil_iff]
    simp
  rw [removals, positions, removedNames, ← List.zipIdx_map_fst 0 old,
    List.filter_map, List.map_map]
  simp only [List.zipIdx_map_fst]
  apply List.map_congr_left
  intro entry member
  rw [keyAt_eq oldDistinct (List.mem_of_mem_filter member)]
  rfl

variable {m : Type → Type} [Monad m] [LawfulMonad m]

theorem entriesAt_eq_entryFor
    (compare : α → α → m (Option Node)) (old : List α) {new : List α}
    (newDistinct : Distinct new) {entry : α × Nat}
    (member : entry ∈ new.zipIdx) :
    entriesAt compare false old new entry =
      Option.toList <$> entryFor compare old entry.1 := by
  have partner := map_fst_occurrence?_one old (Named.name entry.1)
  rw [entriesAt, entryFor, ← partner, keyAt_eq newDistinct member]
  cases occurrence? old ⟨Named.name entry.1, 1⟩ with
  | none => simp [Key.label]
  | some found => simp [orderMark]

omit [Named α] in
private theorem flatten_mapM_toList
    {step : α → m (List Node)} {answer : α → m (Option Node)}
    {items : List α}
    (each : ∀ item ∈ items, step item = Option.toList <$> answer item) :
    List.flatten <$> items.mapM step =
      List.filterMap id <$> items.mapM answer := by
  induction items with
  | nil => simp
  | cons item rest induction =>
      have others := induction fun other member =>
        each other (List.mem_cons_of_mem item member)
      rw [List.mapM_cons, List.mapM_cons, each item List.mem_cons_self]
      simp only [map_bind, map_pure, bind_map_left, List.flatten_cons]
      congr 1
      funext found
      have continued := congrArg
        (fun following => (found.toList ++ ·) <$> following) others
      simp only [Functor.map_map] at continued
      simp only [bind_pure_comp, continued]
      cases found with
      | none => simp
      | some node => simp

theorem entries_eq_entryFor
    (compare : α → α → m (Option Node)) {old new : List α}
    (oldDistinct : Distinct old) (newDistinct : Distinct new) :
    entries compare false old new = (do
      let later ← new.mapM (entryFor compare old)
      return removedNames old new ++ later.filterMap id) := by
  have contributions := flatten_mapM_toList fun entry member =>
    entriesAt_eq_entryFor compare old newDistinct member
  have items := List.mapM_map (m := m) (f := Prod.fst)
    (g := entryFor compare old) (l := new.zipIdx)
  rw [List.zipIdx_map_fst] at items
  rw [entries, removals_eq_removedNames oldDistinct, items]
  have whole := congrArg
    (fun following => (removedNames old new ++ ·) <$> following) contributions
  simp only [Functor.map_map] at whole
  rw [bind_pure_comp, bind_pure_comp]
  exact whole

/-- Reconciling collections without repeated names goes by name. -/
theorem compareItems_of_distinct
    (remark : Remark → m Unit) (compare : α → α → m (Option Node))
    (label : String) {old new : List α}
    (oldDistinct : Distinct old) (newDistinct : Distinct new) :
    compareItems remark compare false label old new = (do
      let later ← new.mapM (entryFor compare old)
      return outlined label
        (removedNames old new ++ later.filterMap id)) := by
  rw [compareItems_eq_entries, remarkRepeated, remarkRepeated,
    repeatedNames_eq_nil oldDistinct, repeatedNames_eq_nil newDistinct,
    entries_eq_entryFor compare oldDistinct newDistinct]
  simp

end Distinct

end SymbolDiff
