import SymbolDiff.Proofs.Reconcile.Occurrence

/-!
# The matching by occurrence counts

The plan of a comparison is made by going along the new items while claimed
old items leave a pool.  Here the same plan is given by occurrences alone:
the k-th item of a name is matched with the k-th item of that name on the
other side, whatever stands between them.  `planFrom_eq` is the invariant of
the walk and `Plan.make_eq` its result.
-/

namespace SymbolDiff

section Plans

variable {α : Type} [Named α]

/-- Whether a new item has a partner that stands at another position. -/
def displaced (old new : List α) (entry : α × Nat) : Bool :=
  (occurrence? old (keyAt new entry)).any fun partner => partner.2 ≠ entry.2

/-- The position of the first new item whose partner stands elsewhere. -/
def firstDisplaced? (old new : List α) : Option Nat :=
  new.zipIdx.findIdx? (displaced old new)

/-- The mark that precedes the first displaced item, if the order counts. -/
def orderMark (orderSensitive : Bool) (old new : List α)
    (entry : α × Nat) : List Node :=
  if orderSensitive = true ∧ firstDisplaced? old new = some entry.2 then
    [orderChanged old new]
  else
    []

/-- What the plan says about one new item. -/
def stepsAt (orderSensitive : Bool) (old new : List α)
    (entry : α × Nat) : List (Step α) :=
  match occurrence? old (keyAt new entry) with
  | none => [.entry (.added (keyAt new entry).label)]
  | some partner =>
      (orderMark orderSensitive old new entry).map .entry ++
        [.pair partner.1 entry.1]

/-- The mark that is still to be made when some new items are done. -/
def pendingMark (orderSensitive : Bool) (old new : List α)
    (done : List (α × Nat)) : Option Node :=
  if orderSensitive = true ∧ done.any (displaced old new) = false then
    some (orderChanged old new)
  else
    none

/-- The old items that the new items done so far have not claimed. -/
def remaining (old new : List α) (done : List (α × Nat)) :
    List (Unclaimed α) :=
  (unclaimed old).filter fun entry => entry.key ∉ done.map (keyAt new)

private theorem nodup_keys_remaining
    (old new : List α) (done : List (α × Nat)) :
    ((remaining old new done).map Unclaimed.key).Nodup := by
  have all : ((unclaimed old).map Unclaimed.key).Nodup := by
    rw [map_key_unclaimed]
    exact nodup_keysOf old
  exact all.sublist (List.filter_sublist.map _)

private theorem remaining_concat
    (old new : List α) (done : List (α × Nat)) (entry : α × Nat) :
    ((remaining old new done).filter
        fun other => other.key ≠ keyAt new entry) =
      remaining old new (done ++ [entry]) := by
  rw [remaining, remaining, List.filter_filter]
  apply List.filter_congr
  intro other _
  rw [List.map_append, List.map_singleton]
  by_cases same : other.key = keyAt new entry
  · simp [same]
  · simp only [List.mem_append, List.mem_singleton, same, or_false,
      not_false_eq_true, ne_eq, decide_true, Bool.true_and]

/-- Claiming the key of the next new item finds its partner in the whole old
sequence: no earlier new item can have claimed it. -/
private theorem claim_remaining
    {old new : List α} {done todo : List (α × Nat)} {entry : α × Nat}
    (split : new.zipIdx = done ++ entry :: todo) :
    claim (keyAt new entry) (remaining old new done) =
      (occurrence? old (keyAt new entry)).map fun partner =>
        (⟨keyAt new entry, partner.2, partner.1⟩,
          remaining old new (done ++ [entry])) := by
  have fresh : keyAt new entry ∉ done.map (keyAt new) := by
    have nodup := nodup_keysOf new
    rw [keysOf, split, List.map_append, List.map_cons,
      List.nodup_middle, List.nodup_cons] at nodup
    intro member
    exact nodup.1 (List.mem_append_left _ member)
  have found :
      ((remaining old new done).find?
          fun other => other.key = keyAt new entry) =
        (occurrence? old (keyAt new entry)).map
          fun partner => ⟨keyAt new entry, partner.2, partner.1⟩ := by
    rw [← find?_unclaimed, remaining, List.find?_filter]
    congr 1
    funext other
    by_cases same : other.key = keyAt new entry
    · simpa [same] using fresh
    · simp [same]
  rw [claim_eq_find? _ (nodup_keys_remaining old new done), found,
    remaining_concat, Option.map_map]
  rfl

omit [Named α] in
private theorem snd_of_zipIdx_split
    {new : List α} {done todo : List (α × Nat)} {entry : α × Nat}
    (split : new.zipIdx = done ++ entry :: todo) :
    entry.2 = done.length := by
  have found : new.zipIdx[done.length]? = some entry := by simp [split]
  rw [List.getElem?_zipIdx, Option.map_eq_some_iff] at found
  obtain ⟨item, _, rfl⟩ := found
  simp

private theorem firstDisplaced?_eq_iff
    (old : List α) {new : List α} {done todo : List (α × Nat)} {entry : α × Nat}
    (split : new.zipIdx = done ++ entry :: todo) :
    firstDisplaced? old new = some entry.2 ↔
      done.any (displaced old new) = false ∧
        displaced old new entry = true := by
  rw [firstDisplaced?, split, List.findIdx?_append, List.findIdx?_cons,
    snd_of_zipIdx_split split]
  cases earlier : done.findIdx? (displaced old new) with
  | some index =>
      obtain ⟨inside, hit, _⟩ := List.findIdx?_eq_some_iff_getElem.mp earlier
      have present : done.any (displaced old new) = true :=
        List.any_eq_true.mpr ⟨_, List.getElem_mem inside, hit⟩
      rw [present, Option.some_or, Option.some.injEq]
      constructor
      · intro atEntry
        omega
      · rintro ⟨absent, _⟩
        cases absent
  | none =>
      have absent : done.any (displaced old new) = false := by
        rw [List.any_eq_false]
        intro other member
        simpa using List.findIdx?_eq_none_iff.mp earlier other member
      by_cases here : displaced old new entry = true
      · simp [absent, here]
      · rw [if_neg here, Option.none_or, Option.map_map,
          Option.map_eq_some_iff]
        constructor
        · rintro ⟨index, _, past⟩
          simp only [Function.comp_apply] at past
          omega
        · rintro ⟨_, elsewhere⟩
          exact absurd elsewhere here

private theorem pendingMark_concat
    (orderSensitive : Bool) (old new : List α)
    (done : List (α × Nat)) (entry : α × Nat) :
    pendingMark orderSensitive old new (done ++ [entry]) =
      if displaced old new entry = true then none
      else pendingMark orderSensitive old new done := by
  have extended : (done ++ [entry]).any (displaced old new) =
      (done.any (displaced old new) || displaced old new entry) := by simp
  rw [pendingMark, pendingMark, extended]
  cases displaced old new entry with
  | true => simp
  | false => simp only [Bool.or_false, Bool.false_eq_true, if_false]

/-- A new item without a partner leaves the pool as it is. -/
private theorem remaining_concat_of_unmatched
    {old new : List α} (done : List (α × Nat)) {entry : α × Nat}
    (unmatched : occurrence? old (keyAt new entry) = none) :
    remaining old new (done ++ [entry]) = remaining old new done := by
  rw [← remaining_concat, List.filter_eq_self]
  intro other member
  have listed : other.key ∈ keysOf old := by
    rw [← map_key_unclaimed]
    exact List.mem_map_of_mem (List.mem_of_mem_filter member)
  obtain ⟨partner, found⟩ := (mem_keysOf_iff old other.key).mp listed
  have different : other.key ≠ keyAt new entry := by
    intro same
    rw [same, unmatched] at found
    cases found
  simpa using different

private theorem orderMark_eq
    (orderSensitive : Bool) (old : List α) {new : List α}
    {done todo : List (α × Nat)} {entry : α × Nat}
    (split : new.zipIdx = done ++ entry :: todo) :
    orderMark orderSensitive old new entry =
      if displaced old new entry = true then
        (pendingMark orderSensitive old new done).toList
      else
        [] := by
  simp only [orderMark, pendingMark, firstDisplaced?_eq_iff old split]
  cases orderSensitive with
  | false => simp
  | true =>
      cases done.any (displaced old new) with
      | true => simp
      | false => simp

/-- The invariant of the walk along the new items.  What is done determines
the pool and whether the order mark is still to be made; what is still to do
gets its steps from the occurrences alone. -/
theorem planFrom_eq
    (orderSensitive : Bool) (old new : List α)
    (done todo : List (α × Nat)) (split : new.zipIdx = done ++ todo) :
    planFrom (pendingMark orderSensitive old new done)
        (remaining old new done) done.length
        (todo.map fun entry => (keyAt new entry, entry.1)) =
      ⟨(keysOf old).filter fun key => key ∉ keysOf new,
        todo.flatMap (stepsAt orderSensitive old new)⟩ := by
  induction todo generalizing done with
  | nil =>
      rw [List.append_nil] at split
      subst split
      have left :
          (remaining old new new.zipIdx).map Unclaimed.key =
            (keysOf old).filter fun key => key ∉ keysOf new := by
        rw [← map_key_unclaimed old, List.filter_map]
        rfl
      rw [List.map_nil, planFrom, left, List.flatMap_nil]
  | cons entry todo induction =>
      have next := induction (done ++ [entry]) (by simp [split])
      rw [List.length_append, List.length_singleton] at next
      have position : entry.2 = done.length := snd_of_zipIdx_split split
      rw [pendingMark_concat] at next
      rw [List.map_cons, planFrom, claim_remaining split,
        List.flatMap_cons]
      cases found : occurrence? old (keyAt new entry) with
      | none =>
          have still : displaced old new entry = false := by
            simp [displaced, found]
          rw [still, remaining_concat_of_unmatched done found] at next
          simp only [Bool.false_eq_true, if_false] at next
          simp [stepsAt, found, next]
      | some partner =>
          have moved : displaced old new entry = true ↔
              ¬partner.2 = done.length := by
            simp [displaced, found, position]
          have marked := orderMark_eq orderSensitive old split
          by_cases same : partner.2 = done.length
          · rw [if_neg (by simpa [moved] using same)] at next marked
            cases mark : pendingMark orderSensitive old new done with
            | none =>
                rw [mark] at next
                simp [stepsAt, found, marked, next]
            | some node =>
                rw [mark] at next
                simp [stepsAt, found, marked, same, next]
          · rw [if_pos (moved.mpr same)] at next marked
            cases mark : pendingMark orderSensitive old new done with
            | none =>
                rw [mark] at marked
                simp [stepsAt, found, marked, next]
            | some node =>
                rw [mark] at marked
                simp [stepsAt, found, marked, same, next]

/-- The matching of two sequences, by occurrences alone. -/
theorem Plan.make_eq (orderSensitive : Bool) (old new : List α) :
    Plan.make orderSensitive old new =
      ⟨(keysOf old).filter fun key => key ∉ keysOf new,
        new.zipIdx.flatMap (stepsAt orderSensitive old new)⟩ := by
  have walk := planFrom_eq orderSensitive old new [] new.zipIdx rfl
  have fromAll : remaining old new [] = unclaimed old := by
    simp [remaining]
  have atFirst : pendingMark orderSensitive old new [] =
      if orderSensitive then some (orderChanged old new) else none := by
    simp [pendingMark]
  rw [fromAll, atFirst, ← keyed_eq_map] at walk
  exact walk

end Plans

end SymbolDiff
