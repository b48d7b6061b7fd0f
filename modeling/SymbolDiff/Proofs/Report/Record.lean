import SymbolDiff.Proofs.Data.Reading
import SymbolDiff.Proofs.Data.Table
import SymbolDiff.Proofs.Report.Shape
import SymbolDiff.Report.Record

/-!
# Stored reports are read back

`Node.Stored` says in terms of a stored value when it is a report: under which
keys what has to stand, level by level.  Exactly these values are read.  What is
written for a report is read back as that report, and what is written for a
report that was read is the value it was read from, less what reading ignores.
-/

namespace SymbolDiff.Node

open Checked

/-- A table has a label, and the word of a kind. -/
structure Headed (entries : List (String × Data)) (label : String)
    (kind : Kind) : Prop where
  label : Data.lookup "label" entries = some (.text label)
  kind : Data.lookup "kind" entries = some (.text kind.word)

/-- The children of a table are absent or null. -/
def Childless (entries : List (String × Data)) : Prop :=
  Data.lookup "children" entries = none ∨
    Data.lookup "children" entries = some .null

/-- The stored forms of reports: additions and removals are childless, outlines
and changes have a list of stored forms that is not empty. -/
inductive Stored : Data → Prop where
  | leaf {entries : List (String × Data)} {label : String} {kind : Kind} :
      Headed entries label kind →
      kind = .added ∨ kind = .removed →
      Childless entries →
      Stored (.table entries)
  | inner {entries : List (String × Data)} {label : String} {kind : Kind}
      {items : List Data} :
      Headed entries label kind →
      kind = .outline ∨ kind = .changed →
      Data.lookup "children" entries = some (.list items) →
      items ≠ [] →
      (∀ item ∈ items, Stored item) →
      Stored (.table entries)

/-- The entries of a table that have a meaning: those under the three keys, the
children only where they are not null. -/
def isKept (key : String) : Data → Bool
  | .null => key = "label" || key = "kind"
  | _ => key = "label" || key = "kind" || key = "children"

mutual

/-- A stored value without unknown keys and null children, at every level. -/
def trimmed : Data → Data
  | .list items => .list (trimmedEach items)
  | .table entries => .table (trimmedEntries entries)
  | data => data

def trimmedEach : List Data → List Data
  | [] => []
  | data :: rest => trimmed data :: trimmedEach rest

def trimmedEntries : List (String × Data) → List (String × Data)
  | [] => []
  | (key, data) :: rest =>
      if isKept key data then (key, trimmed data) :: trimmedEntries rest
      else trimmedEntries rest

end

/-- What the entries of a table have to hold for a report to be read. -/
inductive Holds (entries : List (String × Data)) : Node → Prop where
  | leaf {label : String} {kind : Kind} :
      Headed entries label kind →
      kind.isLeaf = true →
      Childless entries →
      Holds entries (.mk label kind [])
  | inner {label : String} {kind : Kind} {items : List Data}
      {children : List Node} :
      Headed entries label kind →
      kind.isLeaf = false →
      Data.lookup "children" entries = some (.list items) →
      children ≠ [] →
      List.Forall₂ (fun item child => ofData item = .valid child)
        items children →
      Holds entries (.mk label kind children)

section Reading

theorem ofMembers_eq_members (position : Nat) (items : List Data) :
    ofMembers position items = members ofData position items := by
  induction items generalizing position with
  | nil => rw [ofMembers, members]
  | cons item rest induction => rw [ofMembers, members, induction]

theorem ofChildren_eq (entries : List (String × Data)) :
    ofChildren entries =
      match Data.lookup "children" entries with
      | none => .valid none
      | some data => under (.key "children") (ofChildList data) := by
  induction entries with
  | nil => rw [ofChildren, Data.lookup]
  | cons entry rest induction =>
      obtain ⟨name, data⟩ := entry
      rw [ofChildren, Data.lookup]
      split
      · rfl
      · exact induction

theorem ofChildList_eq_valid_iff {data : Data}
    {children : Option (List Node)} :
    ofChildList data = .valid children ↔
      (data = .null ∧ children = none) ∨
      ∃ items nodes, data = .list items ∧ children = some nodes ∧
        List.Forall₂ (fun item node => ofData item = .valid node)
          items nodes := by
  cases data with
  | null =>
      rw [ofChildList]
      cases children <;> simp
  | list items =>
      rw [ofChildList, map_eq_valid_iff]
      simp only [ofMembers_eq_members, members_eq_valid_iff]
      constructor
      · intro found
        obtain ⟨nodes, each, rfl⟩ := found
        exact .inr ⟨items, nodes, rfl, rfl, each⟩
      · intro found
        rcases found with ⟨impossible, -⟩ | ⟨others, nodes, same, rfl, each⟩
        · cases impossible
        · cases same
          exact ⟨nodes, each, rfl⟩
  | bool value => simp [ofChildList]
  | integer value => simp [ofChildList]
  | real value => simp [ofChildList]
  | text value => simp [ofChildList]
  | date => simp [ofChildList]
  | table entries => simp [ofChildList]

theorem ofChildren_eq_valid_iff {entries : List (String × Data)}
    {children : Option (List Node)} :
    ofChildren entries = .valid children ↔
      (Childless entries ∧ children = none) ∨
      ∃ items nodes, Data.lookup "children" entries = some (.list items) ∧
        children = some nodes ∧
        List.Forall₂ (fun item node => ofData item = .valid node)
          items nodes := by
  rw [ofChildren_eq, Childless]
  cases Data.lookup "children" entries with
  | none => simp [eq_comm]
  | some data => simp [ofChildList_eq_valid_iff]

theorem readChoice_kind {data : Data} {kind : Kind} :
    readChoice kindChoices data = .valid kind ↔ data = .text kind.word := by
  constructor
  · intro valid
    cases data with
    | text word =>
        rw [readChoice] at valid
        split at valid
        · rename_i entry found
          have member := List.mem_of_find?_eq_some found
          obtain ⟨own, -, same⟩ := List.mem_map.mp member
          have named := List.find?_some found
          subst same
          cases valid
          simpa [eq_comm] using named
        · exact absurd valid (fail_ne_valid _ _)
    | _ => exact absurd valid (fail_ne_valid _ _)
  · intro same
    subst same
    cases kind <;> rfl

theorem judge_eq_valid_iff {label : String} {kind : Kind}
    {children : Option (List Node)} {node : Node} :
    judge label kind children = .valid node ↔
      check label kind children = .ok node := by
  rw [judge]
  cases check label kind children with
  | ok built => simp
  | error fault => simp

theorem check_eq_ok_iff {label : String} {kind : Kind}
    {children : Option (List Node)} {node : Node} :
    check label kind children = .ok node ↔
      (kind.isLeaf = true ∧ children = none ∧ node = .mk label kind []) ∨
      (kind.isLeaf = false ∧ ∃ present, children = some present ∧
        present ≠ [] ∧ node = .mk label kind present) := by
  cases children with
  | none => cases leaf : kind.isLeaf <;> simp [check, leaf, eq_comm]
  | some present =>
      cases leaf : kind.isLeaf with
      | true => simp [check, leaf]
      | false => cases present <;> simp [check, leaf, eq_comm]

theorem ofData_table_eq_valid_iff {entries : List (String × Data)}
    {node : Node} :
    ofData (.table entries) = .valid node ↔
      ∃ label kind children, Headed entries label kind ∧
        ofChildren entries = .valid children ∧
        check label kind children = .ok node := by
  rw [ofData]
  simp only [andThen_eq_valid_iff, seq_eq_valid_iff, map_eq_valid_iff,
    required_eq_valid_iff, readText_eq_valid_iff, readChoice_kind,
    judge_eq_valid_iff]
  constructor
  · intro found
    obtain ⟨_, ⟨_, children, ⟨_, kind, ⟨label, ⟨_, named, rfl⟩, rfl⟩,
      ⟨_, sorted, rfl⟩, rfl⟩, held, rfl⟩, checked⟩ := found
    exact ⟨label, kind, children, ⟨named, sorted⟩, held, checked⟩
  · intro found
    obtain ⟨label, kind, children, headed, held, checked⟩ := found
    exact ⟨_, ⟨_, children, ⟨_, kind, ⟨label, ⟨_, headed.label, rfl⟩, rfl⟩,
      ⟨_, headed.kind, rfl⟩, rfl⟩, held, rfl⟩, checked⟩

theorem ofData_table_iff_holds {entries : List (String × Data)}
    {node : Node} :
    ofData (.table entries) = .valid node ↔ Holds entries node := by
  rw [ofData_table_eq_valid_iff]
  constructor
  · intro found
    obtain ⟨label, kind, children, headed, held, checked⟩ := found
    rcases ofChildren_eq_valid_iff.mp held with
      ⟨childless, rfl⟩ | ⟨items, nodes, listed, rfl, each⟩
    · rcases check_eq_ok_iff.mp checked with
        ⟨leaf, -, rfl⟩ | ⟨-, present, impossible, -⟩
      · exact .leaf headed leaf childless
      · cases impossible
    · rcases check_eq_ok_iff.mp checked with
        ⟨-, impossible, -⟩ | ⟨inner, present, same, some, rfl⟩
      · cases impossible
      · cases same
        exact .inner headed inner listed some each
  · intro holds
    cases holds with
    | leaf headed leaf childless =>
        exact ⟨_, _, none, headed,
          ofChildren_eq_valid_iff.mpr (.inl ⟨childless, rfl⟩),
          check_eq_ok_iff.mpr (.inl ⟨leaf, rfl, rfl⟩)⟩
    | inner headed inner listed some each =>
        exact ⟨_, _, _, headed,
          ofChildren_eq_valid_iff.mpr (.inr ⟨_, _, listed, rfl, each⟩),
          check_eq_ok_iff.mpr (.inr ⟨inner, _, rfl, some, rfl⟩)⟩

/-- Only tables are read, and what they hold decides what is read. -/
theorem ofData_eq_valid_iff {data : Data} {node : Node} :
    ofData data = .valid node ↔
      ∃ entries, data = .table entries ∧ Holds entries node := by
  cases data with
  | table entries => simp [ofData_table_iff_holds]
  | null => simp [ofData]
  | bool value => simp [ofData]
  | integer value => simp [ofData]
  | real value => simp [ofData]
  | text value => simp [ofData]
  | date => simp [ofData]
  | list items => simp [ofData]

end Reading

theorem isLeaf_eq_false_iff {kind : Kind} :
    kind.isLeaf = false ↔ kind = .outline ∨ kind = .changed := by
  cases kind <;> simp [Kind.isLeaf]

mutual

theorem shaped_of_ofData {data : Data} {node : Node}
    (valid : ofData data = .valid node) : node.Shaped := by
  obtain ⟨entries, -, holds⟩ := ofData_eq_valid_iff.mp valid
  cases holds with
  | leaf headed leaf childless => simp [Shaped, ShapedList, leaf]
  | inner headed inner listed some each =>
      simp only [Shaped, inner, some]
      exact ⟨by simp, shapedList_of_ofData each⟩

theorem shapedList_of_ofData {items : List Data} {nodes : List Node}
    (each : List.Forall₂ (fun item node => ofData item = .valid node)
      items nodes) : ShapedList nodes := by
  cases each with
  | nil => simp [ShapedList]
  | cons head tail =>
      exact ⟨shaped_of_ofData head, shapedList_of_ofData tail⟩

end

mutual

theorem stored_of_ofData {data : Data} {node : Node}
    (valid : ofData data = .valid node) : Stored data := by
  obtain ⟨entries, rfl, holds⟩ := ofData_eq_valid_iff.mp valid
  cases holds with
  | leaf headed leaf childless =>
      exact .leaf headed (isLeaf_iff.mp leaf) childless
  | inner headed inner listed some each =>
      apply Stored.inner headed (isLeaf_eq_false_iff.mp inner) listed
      · intro empty
        subst empty
        exact some (List.forall₂_nil_left_iff.mp each)
      · exact storedEach_of_ofData each

theorem storedEach_of_ofData {items : List Data} {nodes : List Node}
    (each : List.Forall₂ (fun item node => ofData item = .valid node)
      items nodes) : ∀ item ∈ items, Stored item := by
  cases each with
  | nil => simp
  | cons head tail =>
      rw [List.forall_mem_cons]
      exact ⟨stored_of_ofData head, storedEach_of_ofData tail⟩

end

theorem exists_forall₂_ofData {items : List Data}
    (each : ∀ item ∈ items, ∃ node, ofData item = .valid node) :
    ∃ nodes, List.Forall₂ (fun item node => ofData item = .valid node)
      items nodes := by
  induction items with
  | nil => exact ⟨[], .nil⟩
  | cons item rest induction =>
      rw [List.forall_mem_cons] at each
      obtain ⟨node, first⟩ := each.1
      obtain ⟨nodes, others⟩ := induction each.2
      exact ⟨node :: nodes, .cons first others⟩

theorem ofData_of_stored {data : Data} (stored : Stored data) :
    ∃ node, ofData data = .valid node := by
  induction stored with
  | leaf headed kinds childless =>
      have leaf := isLeaf_iff.mpr kinds
      exact ⟨_, ofData_table_iff_holds.mpr (.leaf headed leaf childless)⟩
  | inner headed kinds listed some _ induction =>
      have inner := isLeaf_eq_false_iff.mpr kinds
      obtain ⟨nodes, each⟩ := exists_forall₂_ofData induction
      have nonempty : nodes ≠ [] := by
        intro empty
        subst empty
        exact some (List.forall₂_nil_right_iff.mp each)
      exact ⟨_, ofData_table_iff_holds.mpr
        (.inner headed inner listed nonempty each)⟩

section Written

theorem toData_leaf (label : String) (kind : Kind) :
    toData (.mk label kind []) =
      .table [("label", .text label), ("kind", .text kind.word)] := by
  rw [toData]
  rfl

theorem toData_inner (label : String) (kind : Kind) {children : List Node}
    (some : children ≠ []) :
    toData (.mk label kind children) =
      .table [("label", .text label), ("kind", .text kind.word),
        ("children", .list (toDataList children))] := by
  cases children with
  | nil => exact absurd rfl some
  | cons first rest =>
      rw [toData]
      rfl

mutual

theorem ofData_toData {node : Node} (shaped : node.Shaped) :
    ofData node.toData = .valid node := by
  cases node with
  | mk label kind children =>
      rw [Shaped] at shaped
      by_cases empty : children = []
      · subst empty
        rw [toData_leaf, ofData_table_iff_holds]
        exact .leaf ⟨rfl, rfl⟩ (shaped.1.mpr rfl) (.inl rfl)
      · have inner : kind.isLeaf = false := by
          simpa using shaped.1.not.mpr empty
        rw [toData_inner label kind empty, ofData_table_iff_holds]
        exact .inner ⟨rfl, rfl⟩ inner rfl empty (ofData_toDataList shaped.2)

theorem ofData_toDataList {nodes : List Node} (shaped : ShapedList nodes) :
    List.Forall₂ (fun item node => ofData item = .valid node)
      (toDataList nodes) nodes := by
  cases nodes with
  | nil =>
      rw [toDataList]
      exact .nil
  | cons node rest =>
      rw [ShapedList] at shaped
      rw [toDataList]
      exact .cons (ofData_toData shaped.1) (ofData_toDataList shaped.2)

end

/-- Trimming keeps or drops an entry as a whole, and there is no second entry
under a key that could take the place of one that is dropped. -/
theorem lookup_trimmedEntries {entries : List (String × Data)}
    (distinct : (entries.map Prod.fst).Nodup) (key : String) :
    Data.lookup key (trimmedEntries entries) =
      ((Data.lookup key entries).filter (isKept key)).map trimmed := by
  induction entries with
  | nil => rfl
  | cons entry rest induction =>
      obtain ⟨name, data⟩ := entry
      rw [List.map_cons, List.nodup_cons] at distinct
      rw [trimmedEntries]
      by_cases same : name = key
      · subst same
        rw [Data.lookup_cons_self]
        by_cases keep : isKept name data = true
        · simp [keep, Option.filter]
        · have missing := Data.lookup_eq_none_iff.mpr distinct.1
          simp [keep, induction distinct.2, missing, Option.filter]
      · rw [Data.lookup_cons_of_ne same]
        split
        · rw [Data.lookup_cons_of_ne same]
          exact induction distinct.2
        · exact induction distinct.2

theorem isKept_of_unknown {key : String} (label : key ≠ "label")
    (kind : key ≠ "kind") (children : key ≠ "children") (data : Data) :
    isKept key data = false := by
  cases data <;> simp [isKept, label, kind, children]

/-- A written table is the trimmed one when they agree on the children. -/
theorem same_of_headed {entries written : List (String × Data)}
    {label : String} {kind : Kind}
    (distinct : (entries.map Prod.fst).Nodup) (headed : Headed entries label kind)
    (only : ∀ key, key ≠ "children" → Data.lookup key written = none)
    (children : Option.Rel Data.Same (Data.lookup "children" written)
      (Data.lookup "children" (trimmedEntries entries))) :
    Data.Same
      (.table (("label", .text label) :: ("kind", .text kind.word) :: written))
      (.table (trimmedEntries entries)) := by
  apply Data.Same.table
  intro key
  by_cases atLabel : key = "label"
  · subst atLabel
    rw [lookup_trimmedEntries distinct, headed.label]
    exact .some (.refl _)
  · rw [Data.lookup_cons_of_ne (Ne.symm atLabel)]
    by_cases atKind : key = "kind"
    · subst atKind
      rw [lookup_trimmedEntries distinct, headed.kind]
      exact .some (.refl _)
    · rw [Data.lookup_cons_of_ne (Ne.symm atKind)]
      by_cases atChildren : key = "children"
      · subst atChildren
        exact children
      · have dropped := isKept_of_unknown atLabel atKind atChildren
        rw [only key atChildren, lookup_trimmedEntries distinct]
        cases Data.lookup key entries <;> simp [Option.filter, dropped]

mutual

theorem same_toData {data : Data} {node : Node}
    (distinct : data.DistinctKeys) (valid : ofData data = .valid node) :
    Data.Same node.toData (trimmed data) := by
  obtain ⟨entries, rfl, holds⟩ := ofData_eq_valid_iff.mp valid
  rw [Data.DistinctKeys] at distinct
  rw [trimmed]
  cases holds with
  | leaf headed leaf childless =>
      rw [toData_leaf]
      apply same_of_headed distinct.1 headed
      · intro key _
        rfl
      · rw [lookup_trimmedEntries distinct.1]
        rcases childless with absent | null
        · rw [absent]
          exact .none
        · rw [null]
          exact .none
  | inner headed inner listed some each =>
      have below := Data.distinctKeys_of_lookup distinct.2 listed
      rw [Data.DistinctKeys] at below
      rw [toData_inner _ _ some]
      apply same_of_headed distinct.1 headed
      · intro key different
        rw [Data.lookup_cons_of_ne (Ne.symm different), Data.lookup]
      · rw [lookup_trimmedEntries distinct.1, listed, Data.lookup_cons_self]
        apply Option.Rel.some
        rw [trimmed]
        exact .list (same_toDataList below each)

theorem same_toDataList {items : List Data} {nodes : List Node}
    (distinct : Data.DistinctKeysEach items)
    (each : List.Forall₂ (fun item node => ofData item = .valid node)
      items nodes) :
    List.Forall₂ Data.Same (toDataList nodes) (trimmedEach items) := by
  cases each with
  | nil =>
      rw [toDataList, trimmedEach]
      exact .nil
  | cons head tail =>
      rw [Data.DistinctKeysEach] at distinct
      rw [toDataList, trimmedEach]
      exact .cons (same_toData distinct.1 head)
        (same_toDataList distinct.2 tail)

end

end Written

/-- Reading and writing agree on reports: exactly the trees of the right shape
are read back from what is written for them, exactly the stored forms are read,
and writing what was read gives the value again, less what has no meaning. -/
theorem stored_reports_agree :
    (∀ node : Node, node.Shaped ↔ ofData node.toData = .valid node) ∧
      (∀ data, (∃ node, ofData data = .valid node) ↔ Stored data) ∧
      ∀ data node, data.DistinctKeys → ofData data = .valid node →
        node.Shaped ∧ Data.Same node.toData (trimmed data) := by
  refine ⟨?_, ?_, ?_⟩
  · intro node
    exact ⟨ofData_toData, shaped_of_ofData⟩
  · intro data
    constructor
    · intro found
      obtain ⟨node, valid⟩ := found
      exact stored_of_ofData valid
    · exact ofData_of_stored
  · intro data node distinct valid
    exact ⟨shaped_of_ofData valid, same_toData distinct valid⟩

/-- A stored report with its keys in another order, unknown keys on both levels
and null children. -/
theorem stored_reports_agree_reordered :
    let data : Data := .table
      [("children", .list [.table
          [("label", .text "x"), ("children", .null), ("note", .text "new"),
            ("kind", .text "added")]]),
        ("kind", .text "changed"), ("version", .integer 2),
        ("label", .text "A")]
    let node : Node := .mk "A" .changed [.added "x"]
    data.DistinctKeys ∧ ofData data = .valid node ∧ node.Shaped ∧
      trimmed data = .table
        [("children", .list [.table
            [("label", .text "x"), ("kind", .text "added")]]),
          ("kind", .text "changed"), ("label", .text "A")] ∧
      Data.Same node.toData (trimmed data) := by
  intro data node
  have distinct : data.DistinctKeys := by
    simp [data, Data.DistinctKeys, Data.DistinctKeysEach,
      Data.DistinctKeysUnder]
  have valid : ofData data = .valid node := by
    rfl
  have agree := stored_reports_agree.2.2 data node distinct valid
  exact ⟨distinct, valid, agree.1, rfl, agree.2⟩

end SymbolDiff.Node
