import SymbolDiff.Proofs.Reconcile.Matching
import SymbolDiff.Symbol.Basic

/-!
# Reconciliation against a reference

The reference goes through the two sequences position by position and asks
only how often a name has occurred so far and how often it occurs on the
other side.  `compareItems` gives the same entries in the same order, and it
calls the comparison on the matched pairs, once each, in the new order.  The
comparison may do anything a lawful monad allows, so this covers comparisons
that fail or make remarks.
-/

namespace SymbolDiff

section Reference

variable {α : Type} [Named α]

/-- The leaves of the old items that come later among the items of their name
than there are new items of that name. -/
def removals (old new : List α) : List Node :=
  (old.zipIdx.filter fun entry =>
      (namedItems (Named.name entry.1) new).length <
        (keyAt old entry).occurrence).map
    fun entry => .removed (keyAt old entry).label

/-- Each new item that has a partner, behind that partner. -/
def matchedPairs (old new : List α) : List (α × α) :=
  new.zipIdx.filterMap fun entry =>
    (occurrence? old (keyAt new entry)).map
      fun partner => (partner.1, entry.1)

/-- The heading over some entries, or nothing over none. -/
def outlined (label : String) : List Node → Option Node
  | [] => none
  | first :: rest => some (.mk label .outline (first :: rest))

/-- A comparison that notes the pairs on which it is called. -/
def recorded (answer : α → α → Option Node) (old new : α) :
    StateM (List (α × α)) (Option Node) := do
  modify fun calls => calls ++ [(old, new)]
  return answer old new

/-- What one new item contributes: an added leaf when it has no partner, else
the order mark where it is due and then the answer of the comparison. -/
def plainEntriesAt (answer : α → α → Option Node) (orderSensitive : Bool)
    (old new : List α) (entry : α × Nat) : List Node :=
  match occurrence? old (keyAt new entry) with
  | none => [.added (keyAt new entry).label]
  | some partner =>
      orderMark orderSensitive old new entry ++
        (answer partner.1 entry.1).toList

/-- Removals first, then what the new items contribute in their order. -/
def plainEntries (answer : α → α → Option Node) (orderSensitive : Bool)
    (old new : List α) : List Node :=
  removals old new ++
    new.zipIdx.flatMap (plainEntriesAt answer orderSensitive old new)

variable {m : Type → Type} [Monad m]

/-- As `plainEntriesAt`, for a comparison with effects.  It is not called for
an item without a partner. -/
def entriesAt (compare : α → α → m (Option Node)) (orderSensitive : Bool)
    (old new : List α) (entry : α × Nat) : m (List Node) :=
  match occurrence? old (keyAt new entry) with
  | none => pure [.added (keyAt new entry).label]
  | some partner => do
      let answer ← compare partner.1 entry.1
      return orderMark orderSensitive old new entry ++ answer.toList

def entries (compare : α → α → m (Option Node)) (orderSensitive : Bool)
    (old new : List α) : m (List Node) := do
  let later ← new.zipIdx.mapM (entriesAt compare orderSensitive old new)
  return removals old new ++ later.flatten

theorem removals_eq_map (old new : List α) :
    removals old new =
      ((keysOf old).filter fun key => key ∉ keysOf new).map
        fun key => .removed key.label := by
  have listed : keysOf old = old.zipIdx.map (keyAt old) := rfl
  rw [removals, listed, List.filter_map, List.map_map]
  congr 1
  apply List.filter_congr
  intro entry _
  rw [Function.comp_apply, decide_eq_decide, mem_keysOf_iff_le]
  simp [keyAt]

theorem gather_outline (label : String) (results : List (Option Node)) :
    Node.gather label .outline results =
      outlined label (results.filterMap id) := by
  rw [Node.gather]
  cases results.filterMap id with
  | nil => rfl
  | cons first rest => rfl

variable [LawfulMonad m]

omit [Named α] in
private theorem mapM_entries
    (compare : α → α → m (Option Node)) (nodes : List Node) :
    (nodes.map Step.entry).mapM (Step.run compare) =
      pure (nodes.map some) := by
  rw [List.mapM_map]
  exact List.mapM_pure

/-- Carrying out the steps of one new item gives what it contributes. -/
private theorem mapM_stepsAt
    (compare : α → α → m (Option Node)) (orderSensitive : Bool)
    (old new : List α) (entry : α × Nat) :
    List.filterMap id <$>
        (stepsAt orderSensitive old new entry).mapM (Step.run compare) =
      entriesAt compare orderSensitive old new entry := by
  rw [stepsAt, entriesAt]
  cases occurrence? old (keyAt new entry) with
  | none => simp [Step.run]
  | some partner =>
      dsimp only
      rw [List.mapM_append, mapM_entries, pure_bind, map_bind]
      simp only [List.mapM_cons, List.mapM_nil, Step.run, pure_bind,
        bind_assoc, map_pure]
      congr 1
      funext answer
      cases answer with
      | none => simp
      | some node => simp

private theorem mapM_flatMap_stepsAt
    (compare : α → α → m (Option Node)) (orderSensitive : Bool)
    (old new : List α) (todo : List (α × Nat)) :
    List.filterMap id <$>
        (todo.flatMap (stepsAt orderSensitive old new)).mapM
          (Step.run compare) =
      List.flatten <$>
        todo.mapM (entriesAt compare orderSensitive old new) := by
  induction todo with
  | nil => simp
  | cons entry todo induction =>
      rw [List.flatMap_cons, List.mapM_append, List.mapM_cons]
      simp only [map_bind, map_pure, ← mapM_stepsAt, bind_map_left,
        List.filterMap_append, List.flatten_cons]
      congr 1
      funext first
      have continued := congrArg
        (fun following => (List.filterMap id first ++ ·) <$> following)
        induction
      simpa only [Functor.map_map, bind_pure_comp] using continued

/-- A comparison of two collections, as the reference describes it. -/
theorem compareItems_eq_entries
    (remark : Remark → m Unit) (compare : α → α → m (Option Node))
    (orderSensitive : Bool) (label : String) (old new : List α) :
    compareItems remark compare orderSensitive label old new = (do
      remarkRepeated remark old
      remarkRepeated remark new
      let children ← entries compare orderSensitive old new
      return outlined label children) := by
  rw [compareItems]
  congr 1
  funext _
  congr 1
  funext _
  have front :
      (((keysOf old).filter fun key => key ∉ keysOf new).map
        fun key => some (Node.removed key.label)).filterMap id =
        removals old new := by
    rw [removals_eq_map, List.filterMap_map]
    exact congrFun List.filterMap_eq_map _
  have carried := congrArg
    (fun following =>
      (fun later => outlined label (removals old new ++ later)) <$> following)
    (mapM_flatMap_stepsAt compare orderSensitive old new new.zipIdx)
  simp only [Functor.map_map] at carried
  simp only [Plan.make_eq, entries, gather_outline, List.filterMap_append,
    bind_pure_comp, Functor.map_map, front]
  exact carried

/-- A recording comparison is called on the partner of each new item that
has one, and the answers go where they belong. -/
private theorem run_mapM_recorded
    (answer : α → α → Option Node) (orderSensitive : Bool)
    (old new : List α) (todo : List (α × Nat)) (calls : List (α × α)) :
    ((todo.mapM
        (entriesAt (recorded answer) orderSensitive old new)).run calls).run =
      (todo.map (plainEntriesAt answer orderSensitive old new),
        calls ++ todo.filterMap fun entry =>
          (occurrence? old (keyAt new entry)).map
            fun partner => (partner.1, entry.1)) := by
  induction todo generalizing calls with
  | nil => simp
  | cons entry todo induction =>
      cases found : occurrence? old (keyAt new entry) with
      | none =>
          simp [List.mapM_cons, entriesAt, plainEntriesAt, found, induction]
      | some partner =>
          simp [List.mapM_cons, entriesAt, plainEntriesAt, found, induction,
            recorded]

theorem run_compareItems_recorded
    (answer : α → α → Option Node) (orderSensitive : Bool) (label : String)
    (old new : List α) :
    ((compareItems (fun _ => pure ()) (recorded answer) orderSensitive label
        old new).run []).run =
      (outlined label (plainEntries answer orderSensitive old new),
        matchedPairs old new) := by
  have silent : ∀ items : List α,
      remarkRepeated (m := StateM (List (α × α))) (fun _ => pure ()) items =
        pure () := by
    intro items
    rw [remarkRepeated]
    cases repeatedNames items with
    | nil => rfl
    | cons name names => rfl
  have walk := run_mapM_recorded answer orderSensitive old new new.zipIdx []
  rw [compareItems_eq_entries, silent, silent]
  simp [entries, plainEntries, matchedPairs, walk, List.flatMap_def]

/-- Reconciliation is the reference: it gives the same result with the same
effects, and it calls the comparison on the matched pairs in the new order,
on each once and on no other pair. -/
theorem compareItems_eq_reference
    (remark : Remark → m Unit) (compare : α → α → m (Option Node))
    (answer : α → α → Option Node)
    (orderSensitive : Bool) (label : String) (old new : List α) :
    compareItems remark compare orderSensitive label old new = (do
      remarkRepeated remark old
      remarkRepeated remark new
      let children ← entries compare orderSensitive old new
      return outlined label children) ∧
    ((compareItems (fun _ => pure ()) (recorded answer) orderSensitive label
        old new).run []).run =
      (outlined label (plainEntries answer orderSensitive old new),
        matchedPairs old new) :=
  ⟨compareItems_eq_entries remark compare orderSensitive label old new,
    run_compareItems_recorded answer orderSensitive label old new⟩

/-- Two overloads and a method that moved: one more overload is added, and
the order mark stands before the first pair that is displaced. -/
theorem compareItems_eq_reference_overloads :
    let old : List Method :=
      [{ name := "f", returnType := "A" }, { name := "g" },
        { name := "f", returnType := "B" }]
    let new : List Method :=
      [{ name := "f", returnType := "A" }, { name := "f", returnType := "C" },
        { name := "f" }, { name := "g" }]
    let answer : Method → Method → Option Node := fun first second =>
      if first.returnType = second.returnType then none
      else some (.replaced first.name first.returnType second.returnType)
    ((compareItems (fun _ => pure ()) (recorded answer) true "Methods"
        old new).run []).run =
      (some (.mk "Methods" .outline
        [.replaced "Order Changed" "f, g, f" "f, f, f, g",
          .replaced "f" "B" "C", .added "f (3)"]),
        [({ name := "f", returnType := "A" },
            { name := "f", returnType := "A" }),
          ({ name := "f", returnType := "B" },
            { name := "f", returnType := "C" }),
          ({ name := "g" }, { name := "g" })]) := by
  dsimp only
  rw [(compareItems_eq_reference Traced.remark (fun _ _ => pure none) _ true
    "Methods" _ _).2]
  rfl

end Reference

end SymbolDiff
