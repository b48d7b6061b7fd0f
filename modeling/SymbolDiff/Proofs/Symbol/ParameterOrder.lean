import SymbolDiff.Proofs.Reconcile.ByKey
import SymbolDiff.Proofs.Report.Shape
import SymbolDiff.Symbol.Comparison

/-!
# The order of parameters

A reconciliation never looks at ordinals: it counts for itself at which
positions two items of one name stand.  Where the ordinals of parameters are
their positions, the order mark in the report of two methods can be read off
the ordinals all the same, since nothing else in such a report looks like it.
-/

namespace SymbolDiff

open Node

/-- An item of a list stands behind so many others of its name. -/
def Occurs {α : Type} [Named α] (items : List α) (item : α)
    (earlier : Nat) : Prop :=
  ∃ before after, items = before ++ item :: after ∧
    (before.filter fun other => Named.name other = Named.name item).length =
      earlier

/-- Parameters have their positions as ordinals. -/
def Numbered (parameters : List Parameter) : Prop :=
  parameters.map Parameter.ordinal = List.range parameters.length

/-- Two parameters of one name and occurrence have different ordinals. -/
def OrdinalsDiffer (old new : List Parameter) : Prop :=
  ∃ first second earlier, Occurs old first earlier ∧
    Occurs new second earlier ∧ first.name = second.name ∧
    first.ordinal ≠ second.ordinal

/-- A report holds the mark of two orders of parameters. -/
def MarksOrder (old new : List Parameter) (report : Option Node) : Prop :=
  ∃ node, report = some node ∧ orderChanged old new ∈ node.subtrees

section Positions

theorem occurrence?_eq_some_iff_append {α : Type} [Named α]
    {items : List α} {key : Key} {entry : α × Nat} :
    occurrence? items key = some entry ↔
      ∃ before after, items = before ++ entry.1 :: after ∧
        before.length = entry.2 ∧
        key = ⟨Named.name entry.1,
          (namedItems (Named.name entry.1) before).length + 1⟩ := by
  obtain ⟨item, position⟩ := entry
  rw [occurrence?_eq_some_iff, List.mem_zipIdx_iff_getElem?, keyAt]
  constructor
  · intro both
    obtain ⟨found, same⟩ := both
    obtain ⟨inside, here⟩ := List.getElem?_eq_some_iff.mp found
    refine ⟨items.take position, items.drop (position + 1), ?_, ?_, same.symm⟩
    · have divided := List.drop_eq_getElem_cons inside
      rw [here] at divided
      rw [← divided, List.take_append_drop]
    · exact List.length_take_of_le (Nat.le_of_lt inside)
  · intro parts
    obtain ⟨before, after, rfl, rfl, rfl⟩ := parts
    simp

theorem Numbered.ordinal_eq_length {before after : List Parameter}
    {parameter : Parameter}
    (numbered : Numbered (before ++ parameter :: after)) :
    parameter.ordinal = before.length := by
  have here := congrArg (·[before.length]?) numbered
  simpa using here

/-- Numbered parameters have moved exactly when their ordinals differ. -/
theorem moved_iff_ordinalsDiffer {old new : List Parameter}
    (oldNumbered : Numbered old) (newNumbered : Numbered new) :
    Moved old new ↔ OrdinalsDiffer old new := by
  constructor
  · intro moved
    obtain ⟨key, first, second, inOld, inNew, different⟩ := moved
    obtain ⟨before, after, rfl, place, rfl⟩ :=
      occurrence?_eq_some_iff_append.mp inOld
    obtain ⟨earlier, later, rfl, position, same⟩ :=
      occurrence?_eq_some_iff_append.mp inNew
    rw [Key.mk.injEq] at same
    refine ⟨first.1, second.1, _, ⟨before, after, rfl, rfl⟩,
      ⟨earlier, later, rfl, ?_⟩, same.1, ?_⟩
    -- a key counts its own item, `Occurs` the items before it
    · exact (Nat.succ.inj same.2).symm
    · rw [oldNumbered.ordinal_eq_length, newNumbered.ordinal_eq_length, place,
        position]
      exact different
  · intro differ
    obtain ⟨first, second, _, ⟨before, after, rfl, rfl⟩,
      ⟨earlier, later, rfl, count⟩, name, different⟩ := differ
    rw [oldNumbered.ordinal_eq_length, newNumbered.ordinal_eq_length]
      at different
    refine ⟨_, (first, before.length), (second, earlier.length),
      occurrence?_eq_some_iff_append.mpr ⟨before, after, rfl, rfl, rfl⟩,
      occurrence?_eq_some_iff_append.mpr ⟨earlier, later, rfl, rfl, ?_⟩,
      different⟩
    rw [Key.mk.injEq]
    exact ⟨name, congrArg Nat.succ count.symm⟩

end Positions

section Report

variable {old new : List Parameter}

theorem not_marksOrder_none : ¬MarksOrder old new none := by
  simp [MarksOrder]

theorem marksOrder_mk_iff {label : String} {kind : Kind} {children : List Node} :
    MarksOrder old new (some (.mk label kind children)) ↔
      orderChanged old new = .mk label kind children ∨
        ∃ child ∈ children, MarksOrder old new (some child) := by
  simp only [MarksOrder, Option.some.injEq, exists_eq_left']
  exact mem_subtrees_iff

theorem not_marksOrder_leaf (label : String) (kind : Kind) :
    ¬MarksOrder old new (some (.mk label kind [])) := by
  rw [marksOrder_mk_iff]
  simp [orderChanged, replaced]

/-- The mark is no outline. -/
theorem marksOrder_outlined_iff {label : String} {children : List Node} :
    MarksOrder old new (outlined label children) ↔
      ∃ child ∈ children, MarksOrder old new (some child) := by
  cases children with
  | nil => simp [outlined, not_marksOrder_none]
  | cons first rest =>
      rw [outlined, marksOrder_mk_iff, or_iff_right]
      intro same
      injection same with _ kind
      cases kind

/-- The mark stands over leaves, and a changed symbol does not. -/
theorem marksOrder_changed_iff {label : String} {results : List (Option Node)}
    (parts : ∀ node, some node ∈ results → node.kind.isLeaf = false) :
    MarksOrder old new (changed label results) ↔
      ∃ result ∈ results, MarksOrder old new result := by
  have present : (∃ result ∈ results, MarksOrder old new result) ↔
      ∃ child ∈ results.filterMap id, MarksOrder old new (some child) := by
    constructor
    · intro found
      obtain ⟨result, member, node, rfl, marks⟩ := found
      exact ⟨node, List.mem_filterMap.mpr ⟨_, member, rfl⟩, node, rfl, marks⟩
    · intro found
      obtain ⟨node, member, marks⟩ := found
      obtain ⟨result, listed, rfl⟩ := List.mem_filterMap.mp member
      exact ⟨some node, listed, marks⟩
  rw [present, changed, gather]
  cases listed : results.filterMap id with
  | nil => simp [not_marksOrder_none]
  | cons first rest =>
      rw [marksOrder_mk_iff, or_iff_right]
      -- else the first part would be the leaf of the old order
      intro same
      injection same with _ _ same
      injection same with same
      have member : first ∈ results.filterMap id := listed ▸ List.mem_cons_self
      obtain ⟨result, found, rfl⟩ := List.mem_filterMap.mp member
      have inner := parts first found
      rw [← same] at inner
      cases inner

theorem not_marksOrder_compareScalar {label : String}
    (other : label ≠ orderChangedLabel) (first second : Scalar) :
    ¬MarksOrder old new (compareScalar label first second) := by
  rw [compareScalar]
  split
  · exact not_marksOrder_none
  · rw [replaced, marksOrder_mk_iff]
    intro found
    rcases found with same | ⟨child, member, inside⟩
    · injection same with same
      exact other same.symm
    · rcases List.mem_pair.mp member with rfl | rfl
      · exact not_marksOrder_leaf _ _ inside
      · exact not_marksOrder_leaf _ _ inside

theorem isLeaf_of_compareScalar {label : String} {first second : Scalar}
    {node : Node} (differs : some node = compareScalar label first second) :
    node.kind.isLeaf = false := by
  rw [compareScalar] at differs
  split at differs
  · cases differs
  · cases differs
    rfl

theorem isLeaf_of_outlined {label : String} {children : List Node} {node : Node}
    (outline : some node = outlined label children) :
    node.kind.isLeaf = false := by
  cases children with
  | nil => cases outline
  | cons first rest =>
      cases outline
      rfl

theorem not_marksOrder_compareParameter (first second : Parameter) :
    ¬MarksOrder old new (compareParameter first second) := by
  rw [compareParameter, marksOrder_changed_iff]
  · intro found
    obtain ⟨result, member, marks⟩ := found
    rcases List.mem_pair.mp member with rfl | rfl
    · exact not_marksOrder_compareScalar (by decide) _ _ marks
    · exact not_marksOrder_compareScalar (by decide) _ _ marks
  · intro node member
    rcases List.mem_pair.mp member with differs | differs
    · exact isLeaf_of_compareScalar differs
    · exact isLeaf_of_compareScalar differs

/-- Of what is said about single parameters nothing is the mark. -/
theorem not_marksOrder_entryOf? (key : Key) :
    ¬MarksOrder old new (entryOf? compareParameter old new key) := by
  rw [entryOf?]
  split
  · exact not_marksOrder_none
  · exact not_marksOrder_leaf _ _
  · exact not_marksOrder_leaf _ _
  · exact not_marksOrder_compareParameter _ _

theorem marksOrder_orderChanged :
    MarksOrder old new (some (orderChanged old new)) := by
  rw [orderChanged, replaced, marksOrder_mk_iff]
  exact .inl rfl

theorem marksOrder_plainEntries_iff :
    (∃ child ∈ plainEntries compareParameter true old new,
        MarksOrder old new (some child)) ↔
      Moved old new := by
  simp only [(plainEntries_perm compareParameter true old new).mem_iff,
    List.mem_append, Option.mem_toList, List.mem_filterMap]
  constructor
  · intro found
    obtain ⟨child, mark | ⟨key, _, entry⟩, marks⟩ := found
    · rw [reportMark?, Option.ite_none_right_eq_some] at mark
      exact mark.1.2
    · rw [← entry] at marks
      exact absurd marks (not_marksOrder_entryOf? key)
  · intro moved
    refine ⟨orderChanged old new, .inl ?_, marksOrder_orderChanged⟩
    rw [reportMark?, if_pos ⟨rfl, moved⟩]

/-- The report of two methods holds the mark exactly when some parameter
has moved. -/
theorem marksOrder_compareMethod_iff (old new : Method) :
    MarksOrder old.parameters new.parameters (compareMethod old new).value ↔
      Moved old.parameters new.parameters := by
  have returnType : ¬MarksOrder old.parameters new.parameters
      (compareScalar "Return Type" (.text old.returnType)
        (.text new.returnType)) :=
    not_marksOrder_compareScalar (by decide) _ _
  simp only [compareMethod, Traced.value_bind, Traced.value_pure,
    value_compareItems]
  rw [marksOrder_changed_iff, List.exists_mem_cons_iff, List.exists_mem_cons_iff,
    marksOrder_outlined_iff, marksOrder_plainEntries_iff]
  · simp [returnType]
  · intro node member
    rcases List.mem_pair.mp member with outline | differs
    · exact isLeaf_of_outlined outline
    · exact isLeaf_of_compareScalar differs

end Report

end SymbolDiff
