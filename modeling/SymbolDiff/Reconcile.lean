import SymbolDiff.Report.Node
import SymbolDiff.Text.Order
import SymbolDiff.Trace

/-!
# Reconciling named collections

Two sequences of named items are matched by name, not by position or content,
so that a renamed item is one removal and one addition.  Items that share a
name are told apart by their occurrence number.  The matching is planned first:
`Plan.make` lists the old items that stay unmatched and then, along the new
sequence, what becomes of each new item.  `compareItems` carries the plan out,
calling the given comparison once for each matched pair in the order of the new
sequence.
-/

namespace SymbolDiff

/-- Things that are matched by their names. -/
class Named (α : Type) where
  name : α → String

/-- A name with the number of its occurrence, counted from one. -/
structure Key where
  name : String
  occurrence : Nat
  deriving DecidableEq, Repr

/-- The label of an entry: the occurrence is shown from the second one on. -/
def Key.label (key : Key) : String :=
  if key.occurrence = 1 then key.name
  else key.name ++ " (" ++ toString key.occurrence ++ ")"

section

variable {α : Type} [Named α]

/-- Keys items that follow others whose names are given. -/
def keyedAfter (earlier : List String) : List α → List (Key × α)
  | [] => []
  | item :: rest =>
    (⟨Named.name item, earlier.count (Named.name item) + 1⟩, item) ::
      keyedAfter (Named.name item :: earlier) rest

/-- Each item with its name and occurrence number. -/
def keyed (items : List α) : List (Key × α) :=
  keyedAfter [] items

/-- The names that occur more than once, each once, in code point order. -/
def repeatedNames (items : List α) : List String :=
  Text.inOrder
    ((((keyed items).map Prod.fst).filter fun key => key.occurrence = 2).map
      Key.name)

/-- What the plan says about one new item. -/
inductive Step (α : Type) where
  /-- An entry that is known without looking at the items. -/
  | entry (node : Node)
  /-- A pair of items of one name and occurrence. -/
  | pair (old new : α)

/-- The label over the names of two sequences in which a matched item has
moved. -/
def orderChangedLabel : String := "Order Changed"

/-- The entry that shows both orders. -/
def orderChanged (old new : List α) : Node :=
  Node.replaced orderChangedLabel
    (", ".intercalate (old.map Named.name))
    (", ".intercalate (new.map Named.name))

/-- An old item that no new item has claimed yet, with its position. -/
structure Unclaimed (α : Type) where
  key : Key
  position : Nat
  item : α

/-- The old items before any is claimed. -/
def unclaimed (old : List α) : List (Unclaimed α) :=
  ((keyed old).zipIdx).map fun entry => ⟨entry.1.1, entry.2, entry.1.2⟩

/-- Takes the entry of a key out of a list. -/
def claim (key : Key) :
    List (Unclaimed α) → Option (Unclaimed α × List (Unclaimed α))
  | [] => none
  | entry :: rest =>
    if entry.key = key then some (entry, rest)
    else (claim key rest).map fun found => (found.1, entry :: found.2)

/-- The matching of two sequences. -/
structure Plan (α : Type) where
  /-- Keys of the old items without a partner, in old order. -/
  removed : List Key
  /-- What follows, along the new sequence. -/
  steps : List (Step α)

/-- Goes along the new items.  `moved` is the entry to be made once before the
first pair that does not stand at one position, as long as it has not been
made. -/
def planFrom (moved : Option Node) (pool : List (Unclaimed α))
    (position : Nat) : List (Key × α) → Plan α
  | [] => ⟨pool.map Unclaimed.key, []⟩
  | (key, item) :: rest =>
    match claim key pool with
    | none =>
      let following := planFrom moved pool (position + 1) rest
      ⟨following.removed, .entry (.added key.label) :: following.steps⟩
    | some (partner, others) =>
      match moved with
      | some node =>
        if partner.position = position then
          let following := planFrom moved others (position + 1) rest
          ⟨following.removed, .pair partner.item item :: following.steps⟩
        else
          let following := planFrom none others (position + 1) rest
          ⟨following.removed,
            .entry node :: .pair partner.item item :: following.steps⟩
      | none =>
        let following := planFrom none others (position + 1) rest
        ⟨following.removed, .pair partner.item item :: following.steps⟩

/-- The matching of an old and a new sequence. -/
def Plan.make (orderSensitive : Bool) (old new : List α) : Plan α :=
  planFrom (if orderSensitive then some (orderChanged old new) else none)
    (unclaimed old) 0 (keyed new)

variable {m : Type → Type} [Monad m]

/-- Carries out one step of a plan. -/
def Step.run (compare : α → α → m (Option Node)) : Step α → m (Option Node)
  | .entry node => pure (some node)
  | .pair old new => compare old new

/-- Remarks on the repeated names of a sequence, if there are any. -/
def remarkRepeated (remark : Remark → m Unit) (items : List α) : m Unit :=
  match repeatedNames items with
  | [] => pure ()
  | name :: names => remark (.repeatedNames (name :: names))

/-- Reconciles two named collections into one outline: removals first, then
additions and differences along the new sequence; nothing when nothing differs.
-/
def compareItems (remark : Remark → m Unit) (compare : α → α → m (Option Node))
    (orderSensitive : Bool) (label : String) (old new : List α) :
    m (Option Node) := do
  remarkRepeated remark old
  remarkRepeated remark new
  let plan := Plan.make orderSensitive old new
  let results ← plan.steps.mapM (Step.run compare)
  return Node.gather label .outline
    (plan.removed.map (fun key => some (.removed key.label)) ++ results)

end

end SymbolDiff
