import SymbolDiff.Proofs.Results
import SymbolDiff.Reconcile

/-!
# The shape of reports

A report is well formed when each of its entries passes `Node.check` with what
stands below it, and when it has no more than a given number of levels.  Both
are kept when reports are gathered under a heading, and a reconciliation adds
one level to what its comparison gives.
-/

namespace SymbolDiff

namespace Node

mutual

/-- The entries of a tree, from its top downwards. -/
def subtrees : Node → List Node
  | .mk label kind children => .mk label kind children :: subtreesOf children

def subtreesOf : List Node → List Node
  | [] => []
  | node :: rest => subtrees node ++ subtreesOf rest

end

mutual

/-- The number of levels of a tree. -/
def height : Node → Nat
  | .mk _ _ children => heightOf children + 1

def heightOf : List Node → Nat
  | [] => 0
  | node :: rest => max (height node) (heightOf rest)

end

/-- What an entry hands to `check`: no entries at all where none stand below
it. -/
def held? : Node → Option (List Node)
  | .mk _ _ [] => none
  | .mk _ _ (first :: rest) => some (first :: rest)

/-- A tree of at most so many levels in which every entry is accepted. -/
structure WellFormed (levels : Nat) (node : Node) : Prop where
  accepted : ∀ entry ∈ node.subtrees,
    check entry.label entry.kind entry.held? = .ok entry
  ends : ∀ entry ∈ node.subtrees,
    entry.kind = .added ∨ entry.kind = .removed ↔ entry.children = []
  height : node.height ≤ levels

/-- The same for a report that may be missing. -/
def WellFormedIn (levels : Nat) (report : Option Node) : Prop :=
  ∀ node, report = some node → WellFormed levels node

def Fits (levels : Nat) (node : Node) : Prop :=
  node.Shaped ∧ node.height ≤ levels

def FitsIn (levels : Nat) (report : Option Node) : Prop :=
  ∀ node, report = some node → Fits levels node

theorem subtreesOf_eq_flatMap (nodes : List Node) :
    subtreesOf nodes = nodes.flatMap subtrees := by
  induction nodes with
  | nil => rfl
  | cons node rest induction => rw [subtreesOf, induction, List.flatMap_cons]

/-- An entry of a tree is its top or an entry further down. -/
theorem mem_subtrees_iff {node entry : Node} :
    entry ∈ node.subtrees ↔
      entry = node ∨ ∃ child ∈ node.children, entry ∈ child.subtrees := by
  cases node with
  | mk label kind children =>
      rw [subtrees, List.mem_cons, subtreesOf_eq_flatMap, List.mem_flatMap]
      rfl

theorem shapedList_iff {nodes : List Node} :
    ShapedList nodes ↔ ∀ node ∈ nodes, Shaped node := by
  induction nodes with
  | nil => simp [ShapedList]
  | cons node rest induction => simp [ShapedList, induction]

theorem heightOf_le_iff {nodes : List Node} {levels : Nat} :
    heightOf nodes ≤ levels ↔ ∀ node ∈ nodes, height node ≤ levels := by
  induction nodes with
  | nil => simp [heightOf]
  | cons node rest induction =>
      rw [heightOf, Nat.max_le, induction, List.forall_mem_cons]

mutual

theorem shaped_of_mem_subtrees {node entry : Node} (shaped : node.Shaped)
    (member : entry ∈ node.subtrees) : entry.Shaped := by
  cases node with
  | mk label kind children =>
      rw [subtrees] at member
      rcases List.mem_cons.mp member with rfl | below
      · exact shaped
      · rw [Shaped] at shaped
        exact shaped_of_mem_subtreesOf shaped.2 below

theorem shaped_of_mem_subtreesOf {nodes : List Node} {entry : Node}
    (shaped : ShapedList nodes) (member : entry ∈ subtreesOf nodes) :
    entry.Shaped := by
  cases nodes with
  | nil => simp [subtreesOf] at member
  | cons node rest =>
      rw [ShapedList] at shaped
      rw [subtreesOf] at member
      rcases List.mem_append.mp member with here | later
      · exact shaped_of_mem_subtrees shaped.1 here
      · exact shaped_of_mem_subtreesOf shaped.2 later

end

theorem check_held?_of_shaped {node : Node} (shaped : node.Shaped) :
    check node.label node.kind node.held? = .ok node := by
  cases node with
  | mk label kind children =>
      rw [Shaped] at shaped
      cases children with
      | nil =>
          have leaf := shaped.1.mpr rfl
          simp [check, Node.kind, Node.label, held?, leaf]
      | cons first rest =>
          have inner : kind.isLeaf = false := by
            simpa using shaped.1.not.mpr (by simp)
          simp [check, Node.kind, Node.label, held?, inner]

theorem isLeaf_iff {kind : Kind} :
    kind.isLeaf = true ↔ kind = .added ∨ kind = .removed := by
  cases kind <;> simp [Kind.isLeaf]

theorem Fits.wellFormed {levels : Nat} {node : Node} (fits : Fits levels node) :
    WellFormed levels node := by
  refine ⟨?_, ?_, fits.2⟩
  · intro entry member
    apply check_held?_of_shaped
    exact shaped_of_mem_subtrees fits.1 member
  · intro entry member
    have shaped := shaped_of_mem_subtrees fits.1 member
    cases entry with
    | mk label kind children =>
        rw [Shaped] at shaped
        exact isLeaf_iff.symm.trans shaped.1

mutual

theorem shaped_of_ends {node : Node}
    (ends : ∀ entry ∈ node.subtrees,
      entry.kind = .added ∨ entry.kind = .removed ↔ entry.children = []) :
    node.Shaped := by
  cases node with
  | mk label kind children =>
      rw [subtrees, List.forall_mem_cons] at ends
      exact ⟨isLeaf_iff.trans ends.1, shapedList_of_ends ends.2⟩

theorem shapedList_of_ends {nodes : List Node}
    (ends : ∀ entry ∈ subtreesOf nodes,
      entry.kind = .added ∨ entry.kind = .removed ↔ entry.children = []) :
    ShapedList nodes := by
  cases nodes with
  | nil => exact trivial
  | cons node rest =>
      rw [subtreesOf, List.forall_mem_append] at ends
      exact ⟨shaped_of_ends ends.1, shapedList_of_ends ends.2⟩

end

theorem wellFormed_iff_fits {levels : Nat} {node : Node} :
    WellFormed levels node ↔ Fits levels node := by
  constructor
  · intro formed
    exact ⟨shaped_of_ends formed.ends, formed.height⟩
  · exact Fits.wellFormed

theorem wellFormedIn_eq_fitsIn (levels : Nat) :
    WellFormedIn levels = FitsIn levels := by
  funext report
  simp only [WellFormedIn, FitsIn, wellFormed_iff_fits]

theorem Fits.mono {levels more : Nat} {node : Node} (fits : Fits levels node)
    (enough : levels ≤ more) : Fits more node :=
  ⟨fits.1, Nat.le_trans fits.2 enough⟩

theorem FitsIn.mono {levels more : Nat} {report : Option Node}
    (fits : FitsIn levels report) (enough : levels ≤ more) :
    FitsIn more report := by
  intro node present
  exact (fits node present).mono enough

theorem fitsIn_none (levels : Nat) : FitsIn levels none := by
  intro node present
  cases present

theorem fitsIn_some {levels : Nat} {node : Node} :
    FitsIn levels (some node) ↔ Fits levels node := by
  simp [FitsIn]

theorem fits_leaf (label : String) {kind : Kind} (leaf : kind.isLeaf = true) :
    Fits 1 (.mk label kind []) := by
  simp [Fits, Shaped, ShapedList, height, heightOf, leaf]

theorem fits_section {levels : Nat} (label : String) {kind : Kind}
    (inner : kind.isLeaf = false) {children : List Node} (some : children ≠ [])
    (each : ∀ node ∈ children, Fits levels node) :
    Fits (levels + 1) (.mk label kind children) := by
  constructor
  · rw [Shaped, shapedList_iff]
    refine ⟨by simp [inner, some], ?_⟩
    intro node member
    exact (each node member).1
  · rw [height, Nat.add_le_add_iff_right, heightOf_le_iff]
    intro node member
    exact (each node member).2

theorem fits_added (label : String) : Fits 1 (added label) :=
  fits_leaf label rfl

theorem fits_removed (label : String) : Fits 1 (removed label) :=
  fits_leaf label rfl

theorem fits_replaced (label old new : String) :
    Fits 2 (replaced label old new) := by
  apply fits_section label rfl (by simp)
  intro node member
  rcases List.mem_pair.mp member with rfl | rfl
  · exact fits_removed old
  · exact fits_added new

/-- A heading adds one level. -/
theorem fitsIn_gather {levels : Nat} (label : String) {kind : Kind}
    (inner : kind.isLeaf = false) {results : List (Option Node)}
    (each : ∀ result ∈ results, FitsIn levels result) :
    FitsIn (levels + 1) (gather label kind results) := by
  have present : ∀ node ∈ results.filterMap id, Fits levels node := by
    intro node member
    obtain ⟨result, listed, same⟩ := List.mem_filterMap.mp member
    exact each result listed node same
  rw [gather]
  cases found : results.filterMap id with
  | nil => exact fitsIn_none _
  | cons first rest =>
      rw [found] at present
      rw [fitsIn_some]
      exact fits_section label inner (by simp) present

end Node

open Node

section Reconcile

variable {α : Type} [Named α]

omit [Named α] in
theorem fits_of_mem_planFrom {moved : Option Node} {pool : List (Unclaimed α)}
    {position : Nat} {items : List (Key × α)} (mark : FitsIn 2 moved)
    {node : Node}
    (planned : .entry node ∈ (planFrom moved pool position items).steps) :
    Fits 2 node := by
  fun_induction planFrom moved pool position items with
  | case1 => simp at planned
  | case2 moved pool position key item rest unclaimed following induction =>
      rcases List.mem_cons.mp planned with here | later
      · cases here
        exact (fits_added _).mono (by omega)
      · exact induction mark later
  | case3 pool key item rest partner others node claimed induction =>
      rcases List.mem_cons.mp planned with here | later
      · cases here
      · exact induction mark later
  | case4 pool position key item rest partner others claimed node other following
      induction =>
      rcases List.mem_cons.mp planned with here | later
      · cases here
        exact mark _ rfl
      · rcases List.mem_cons.mp later with pair | later
        · cases pair
        · exact induction (fitsIn_none 2) later
  | case5 pool position key item rest partner others claimed following
    induction =>
      rcases List.mem_cons.mp planned with here | later
      · cases here
      · exact induction mark later

theorem fits_of_mem_plan {orderSensitive : Bool} {old new : List α} {node : Node}
    (planned : .entry node ∈ (Plan.make orderSensitive old new).steps) :
    Fits 2 node := by
  apply fits_of_mem_planFrom _ planned
  cases orderSensitive with
  | false => exact fitsIn_none 2
  | true => exact fitsIn_some.mpr (fits_replaced _ _ _)

variable {m : Type → Type} [Monad m] [LawfulMonad m]

/-- A reconciliation gives reports of one level more than its comparison, or
of the three levels of an order mark. -/
theorem gives_compareItems {levels : Nat} {remark : Remark → m Unit}
    {compare : α → α → m (Option Node)}
    (each : ∀ first second, Gives (FitsIn levels) (compare first second))
    (orderSensitive : Bool) (label : String) (old new : List α) :
    Gives (FitsIn (max 2 levels + 1))
      (compareItems remark compare orderSensitive label old new) := by
  have steps : ∀ step ∈ (Plan.make orderSensitive old new).steps,
      Gives (FitsIn (max 2 levels)) (step.run compare) := by
    intro step planned
    cases step with
    | entry node =>
        apply Gives.of_pure
        rw [fitsIn_some]
        exact (fits_of_mem_plan planned).mono (by omega)
    | pair first second =>
        apply (each first second).mono
        intro report fits
        exact fits.mono (by omega)
  unfold compareItems
  apply Gives.andThen
  intro _
  apply Gives.andThen
  intro _
  apply (Gives.mapM_all steps).bind
  intro results fit
  apply Gives.of_pure
  apply fitsIn_gather label rfl
  intro result member
  rcases List.mem_append.mp member with gone | kept
  · obtain ⟨key, _, rfl⟩ := List.mem_map.mp gone
    rw [fitsIn_some]
    exact (fits_removed _).mono (by omega)
  · exact fit result kept

end Reconcile

end SymbolDiff
