import Mathlib.Data.List.Forall2
import Mathlib.Data.List.Perm.Basic
import SymbolDiff.Report.Node

/-!
# Reports up to the order of their entries

Two report trees are alike when the entries below each entry can be put in an
order in which they are alike one by one.  The mirror of a report exchanges
additions and removals.  Both leave the number of entries of a kind as it is,
up to that exchange.
-/

namespace SymbolDiff

/-- Additions become removals and removals additions. -/
def Kind.mirror : Kind → Kind
  | .outline => .outline
  | .added => .removed
  | .removed => .added
  | .changed => .changed

namespace Node

mutual

/-- Trees that differ at most in the order of the entries below an entry. -/
inductive Alike : Node → Node → Prop where
  | mk (label : String) (kind : Kind) {children moved others : List Node} :
      children.Perm moved → AlikeEach moved others →
      Alike (.mk label kind children) (.mk label kind others)

/-- Lists whose trees are alike one by one. -/
inductive AlikeEach : List Node → List Node → Prop where
  | nil : AlikeEach [] []
  | cons {first second : Node} {firsts seconds : List Node} :
      Alike first second → AlikeEach firsts seconds →
      AlikeEach (first :: firsts) (second :: seconds)

end

/-- Lists of trees that are alike after a permutation. -/
def AlikeList (firsts seconds : List Node) : Prop :=
  ∃ moved, firsts.Perm moved ∧ AlikeEach moved seconds

mutual

/-- The tree with additions and removals exchanged. -/
def mirror : Node → Node
  | .mk label kind children => .mk label kind.mirror (mirrorList children)

/-- List counterpart of `mirror`. -/
def mirrorList : List Node → List Node
  | [] => []
  | node :: rest => mirror node :: mirrorList rest

end

/-- A report that mirrors another up to order.  Where one finds nothing, the
other does too. -/
def Mirrored (backward forward : Option Node) : Prop :=
  Option.Rel Alike backward (forward.map mirror)

/-- How many entries of a kind a report has that may be missing. -/
def countIn (wanted : Kind) : Option Node → Nat
  | none => 0
  | some node => count wanted node

@[simp] theorem mirrorList_eq_map (nodes : List Node) :
    mirrorList nodes = nodes.map mirror := by
  induction nodes with
  | nil => rfl
  | cons node rest induction => simp [mirrorList, induction]

mutual

theorem Alike.refl (node : Node) : Alike node node := by
  cases node with
  | mk label kind children =>
      exact .mk label kind (.refl children) (AlikeEach.refl children)

theorem AlikeEach.refl (nodes : List Node) : AlikeEach nodes nodes := by
  cases nodes with
  | nil => exact .nil
  | cons node rest => exact .cons (Alike.refl node) (AlikeEach.refl rest)

end

theorem AlikeEach.append
    {firsts seconds others lasts : List Node}
    (front : AlikeEach firsts seconds) (back : AlikeEach others lasts) :
    AlikeEach (firsts ++ others) (seconds ++ lasts) := by
  cases front with
  | nil => exact back
  | cons head tail => exact .cons head (tail.append back)

/-- A permutation of the second list can be made on the first one. -/
theorem AlikeEach.exists_perm
    {firsts seconds others : List Node}
    (each : AlikeEach firsts seconds) (moved : seconds.Perm others) :
    ∃ lasts, firsts.Perm lasts ∧ AlikeEach lasts others := by
  induction moved generalizing firsts with
  | nil => exact ⟨firsts, .refl firsts, each⟩
  | cons node _ induction =>
      cases each with
      | cons head tail =>
          obtain ⟨lasts, perm, rest⟩ := induction tail
          exact ⟨_ :: lasts, perm.cons _, .cons head rest⟩
  | swap second first rest =>
      cases each with
      | cons head tail =>
          cases tail with
          | cons next tail =>
              exact ⟨_, .swap _ _ _, .cons next (.cons head tail)⟩
  | trans _ _ firstInduction secondInduction =>
      obtain ⟨middle, firstPerm, middleEach⟩ := firstInduction each
      obtain ⟨lasts, secondPerm, lastEach⟩ := secondInduction middleEach
      exact ⟨lasts, firstPerm.trans secondPerm, lastEach⟩

theorem AlikeList.of_perms
    {firsts seconds moved others : List Node}
    (firstMoved : firsts.Perm moved) (each : AlikeEach moved others)
    (secondMoved : seconds.Perm others) : AlikeList firsts seconds := by
  obtain ⟨lasts, perm, lastEach⟩ := each.exists_perm secondMoved.symm
  exact ⟨lasts, firstMoved.trans perm, lastEach⟩

theorem AlikeEach.toList
    {first second : Option Node} (alike : Option.Rel Alike first second) :
    AlikeEach first.toList second.toList := by
  cases alike with
  | none => exact .nil
  | some pair => exact .cons pair .nil

/-- Results that are alike one by one leave entries that are. -/
theorem AlikeEach.of_results
    {firsts seconds : List (Option Node)}
    (results : List.Forall₂ (Option.Rel Alike) firsts seconds) :
    AlikeEach (firsts.filterMap id) (seconds.filterMap id) := by
  induction results with
  | nil => exact .nil
  | cons head _ induction =>
      cases head with
      | none => exact induction
      | some alike => exact .cons alike induction

theorem AlikeEach.filterMap
    {κ : Type} {first second : κ → Option Node}
    (alike : ∀ key, Option.Rel Alike (first key) (second key))
    (keys : List κ) :
    AlikeEach (keys.filterMap first) (keys.filterMap second) := by
  have results : List.Forall₂ (Option.Rel Alike)
      (keys.map first) (keys.map second) := by
    rw [List.forall₂_map_left_iff, List.forall₂_map_right_iff,
      List.forall₂_same]
    intro key _
    exact alike key
  simpa [List.filterMap_map] using AlikeEach.of_results results

theorem rel_gather_of_alikeList
    (label : String) (kind : Kind) {firsts seconds : List (Option Node)}
    (alike : AlikeList (firsts.filterMap id) (seconds.filterMap id)) :
    Option.Rel Alike (gather label kind firsts)
      (gather label kind seconds) := by
  obtain ⟨moved, perm, each⟩ := alike
  rw [gather, gather]
  cases present : firsts.filterMap id with
  | nil =>
      rw [present, List.nil_perm] at perm
      subst perm
      cases others : seconds.filterMap id with
      | nil => exact Option.Rel.none
      | cons other rest =>
          rw [others] at each
          cases each
  | cons first rest =>
      cases others : seconds.filterMap id with
      | nil =>
          rw [others] at each
          cases each
          rw [present] at perm
          exact absurd perm.eq_nil (by simp)
      | cons other lasts =>
          rw [present] at perm
          rw [others] at each
          exact Option.Rel.some (.mk label kind perm each)

theorem rel_gather
    (label : String) (kind : Kind) {firsts seconds : List (Option Node)}
    (results : List.Forall₂ (Option.Rel Alike) firsts seconds) :
    Option.Rel Alike (gather label kind firsts)
      (gather label kind seconds) :=
  rel_gather_of_alikeList label kind
    ⟨_, .refl _, AlikeEach.of_results results⟩

/-- The mirror of a heading stands over the mirrored entries. -/
theorem map_mirror_gather
    (label : String) {kind : Kind} (fixed : kind.mirror = kind)
    (results : List (Option Node)) :
    (gather label kind results).map mirror =
      gather label kind (results.map (Option.map mirror)) := by
  have present : (results.map (Option.map mirror)).filterMap id =
      (results.filterMap id).map mirror := by
    rw [List.filterMap_map, List.map_filterMap]
    rfl
  rw [gather, gather, present]
  cases results.filterMap id with
  | nil => rfl
  | cons first rest => simp [mirror, fixed]

theorem Mirrored.gather
    (label : String) {kind : Kind} (fixed : kind.mirror = kind)
    {backward forward : List (Option Node)}
    (results : List.Forall₂ Mirrored backward forward) :
    Mirrored (gather label kind backward) (gather label kind forward) := by
  rw [Mirrored, map_mirror_gather label fixed]
  apply rel_gather
  rw [List.forall₂_map_right_iff]
  exact results

theorem countList_eq_of_perm
    (wanted : Kind) {nodes others : List Node} (perm : nodes.Perm others) :
    countList wanted nodes = countList wanted others := by
  induction perm with
  | nil => rfl
  | cons node _ induction => rw [countList, countList, induction]
  | swap second first rest =>
      simp only [countList]
      omega
  | trans _ _ firstInduction secondInduction =>
      exact firstInduction.trans secondInduction

mutual

/-- Trees that are alike have the same number of entries of each kind. -/
theorem Alike.count_eq
    {first second : Node} (alike : Alike first second) (wanted : Kind) :
    count wanted first = count wanted second := by
  cases alike with
  | mk label kind perm each =>
      rw [count, count, ← each.countList_eq wanted,
        countList_eq_of_perm wanted perm]

theorem AlikeEach.countList_eq
    {firsts seconds : List Node} (each : AlikeEach firsts seconds)
    (wanted : Kind) :
    countList wanted firsts = countList wanted seconds := by
  cases each with
  | nil => rfl
  | cons head tail =>
      rw [countList, countList, head.count_eq wanted,
        tail.countList_eq wanted]

end

mutual

/-- The mirror exchanges the numbers of additions and removals. -/
theorem count_mirror (wanted : Kind) (node : Node) :
    count wanted node.mirror = count wanted.mirror node := by
  cases node with
  | mk label kind children =>
      have own : kind.mirror = wanted ↔ kind = wanted.mirror := by
        cases kind <;> cases wanted <;> simp [Kind.mirror]
      rw [mirror, count, count, countList_mirror wanted children]
      simp only [own]

theorem countList_mirror (wanted : Kind) (nodes : List Node) :
    countList wanted (mirrorList nodes) =
      countList wanted.mirror nodes := by
  cases nodes with
  | nil => rfl
  | cons node rest =>
      rw [mirrorList, countList, countList, count_mirror wanted node,
        countList_mirror wanted rest]

end

theorem Mirrored.countIn_eq
    {backward forward : Option Node} (mirrored : Mirrored backward forward)
    (wanted : Kind) :
    countIn wanted backward = countIn wanted.mirror forward := by
  cases forward with
  | none =>
      cases mirrored
      rfl
  | some node =>
      cases mirrored with
      | some alike =>
          rw [countIn, countIn, alike.count_eq wanted, count_mirror]

end Node

end SymbolDiff
