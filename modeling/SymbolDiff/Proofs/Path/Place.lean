import Mathlib.Data.List.Infix
import SymbolDiff.FileSystem

/-!
# Places

The place of a path is the list of names that is left when the path is seen
from a directory and each `..` has taken back the name before it.  Where no
symbolic links stand this is where the path leads to.  Two places are apart
when neither of them lies in the other.
-/

namespace SymbolDiff

namespace Path

/-- The place of a path as seen from a directory. -/
def place (working path : Path) : List String :=
  settle [] (working.join path).names

theorem settle_append (reached first second : List String) :
    settle reached (first ++ second) =
      settle (settle reached first).reverse second := by
  induction first generalizing reached with
  | nil => simp [settle]
  | cons name rest induction =>
      rw [List.cons_append, settle, settle]
      by_cases up : name = ".."
      · rw [if_pos up, if_pos up, induction]
      · rw [if_neg up, if_neg up, induction]

theorem settle_of_downward (reached : List String) {names : List String}
    (downward : ".." ∉ names) :
    settle reached names = reached.reverse ++ names := by
  induction names generalizing reached with
  | nil => simp [settle]
  | cons name rest induction =>
      rw [List.mem_cons, not_or] at downward
      obtain ⟨here, later⟩ := downward
      rw [settle, if_neg (Ne.symm here), induction _ later]
      simp

theorem place_of_downward {working path : Path}
    (downward : ".." ∉ (working.join path).names) :
    place working path = (working.join path).names := by
  rw [place, settle_of_downward _ downward]
  rfl

theorem join_of_isAbsolute {path : Path} (absolute : path.isAbsolute = true)
    (base : Path) : base.join path = path :=
  if_pos absolute

theorem isAbsolute_join {base : Path} (absolute : base.isAbsolute = true)
    (path : Path) : (base.join path).isAbsolute = true := by
  unfold join
  split
  · assumption
  · exact absolute

theorem join_join (working base path : Path) :
    working.join (base.join path) = (working.join base).join path := by
  unfold join
  by_cases absolute : path.isAbsolute
  · simp [absolute]
  · by_cases anchored : base.isAbsolute
    · have kept : (Path.mk base.anchor (base.names ++ path.names)).isAbsolute =
          true := anchored
      simp [absolute, anchored, kept]
    · have kept : (Path.mk base.anchor (base.names ++ path.names)).isAbsolute =
          false := by simpa [isAbsolute] using anchored
      simp [absolute, anchored, kept]

theorem place_join (working base : Path) {path : Path}
    (relative : path.anchor = .relative) (downward : ".." ∉ path.names) :
    place working (base.join path) = place working base ++ path.names := by
  have notAbsolute : path.isAbsolute = false := by simp [isAbsolute, relative]
  have names : ((working.join base).join path).names =
      (working.join base).names ++ path.names := by
    simp [join, notAbsolute]
  rw [place, join_join, names, settle_append, settle_of_downward _ downward,
    List.reverse_reverse, place]

/-- Two places neither of which lies in the other. -/
def Apart (first second : List String) : Prop :=
  ¬first <+: second ∧ ¬second <+: first

instance (first second : List String) : Decidable (Apart first second) :=
  inferInstanceAs (Decidable (_ ∧ _))

theorem Apart.symm {first second : List String} (apart : Apart first second) :
    Apart second first :=
  ⟨apart.2, apart.1⟩

theorem apart_or_below_or_above (position place : List String) :
    Apart position place ∨ (∃ names, position = place ++ names) ∨
      position <+: place ∧ position ≠ place := by
  by_cases below : place <+: position
  · obtain ⟨names, same⟩ := below
    exact .inr (.inl ⟨names, same.symm⟩)
  · by_cases above : position <+: place
    · refine .inr (.inr ⟨above, ?_⟩)
      intro same
      exact below (same ▸ List.prefix_rfl)
    · exact .inl ⟨above, below⟩

/-- What lies in two places that are apart is apart as well. -/
theorem Apart.below {first second inner other : List String}
    (apart : Apart first second) (firstBelow : first <+: inner)
    (secondBelow : second <+: other) : Apart inner other := by
  constructor
  · intro inside
    have both : first <+: other := firstBelow.trans inside
    rcases List.prefix_or_prefix_of_prefix both secondBelow with before | after
    · exact apart.1 before
    · exact apart.2 after
  · intro inside
    have both : second <+: inner := secondBelow.trans inside
    rcases List.prefix_or_prefix_of_prefix firstBelow both with before | after
    · exact apart.1 before
    · exact apart.2 after

/-- Two names in two directories are apart unless they are the same name in
the same directory, or one of them holds the directory of the other. -/
theorem apart_concat_iff (first second : List String) (name other : String) :
    Apart (first ++ [name]) (second ++ [other]) ↔
      ¬(first = second ∧ name = other) ∧ ¬first ++ [name] <+: second ∧
        ¬second ++ [other] <+: first := by
  have same : second ++ [other] = first ++ [name] ↔
      first = second ∧ name = other := by
    rw [eq_comm, List.append_singleton_inj]
  rw [Apart, List.prefix_concat_iff, List.prefix_concat_iff,
    eq_comm, same]
  grind

theorem not_concat_within (base : List String) (name : String) :
    ¬base ++ [name] <+: base := by
  intro inside
  have shorter := inside.length_le
  rw [List.length_append, List.length_singleton] at shorter
  omega

theorem apart_siblings (base : List String) {name other : String}
    (different : name ≠ other) : Apart (base ++ [name]) (base ++ [other]) := by
  rw [apart_concat_iff]
  exact ⟨fun same => different same.2, not_concat_within base name,
    not_concat_within base other⟩

/-- What lies above one of two siblings lies above the other. -/
theorem above_sibling {base position : List String} {name : String}
    (above : position <+: base ++ [name]) (proper : position ≠ base ++ [name])
    (other : String) :
    position <+: base ++ [other] ∧ position ≠ base ++ [other] := by
  have within : position <+: base :=
    (List.prefix_concat_iff.mp above).resolve_left proper
  refine ⟨within.trans (List.prefix_append base [other]), ?_⟩
  rintro rfl
  exact not_concat_within base other within

end Path

namespace FileSystem

def Linkless (system : FileSystem) : Prop :=
  ∀ names target, system.top.find? names ≠ some (.link target)

theorem walk_of_linkless {system : FileSystem} (linkless : system.Linkless)
    (links : Nat) (reached names : List String) :
    walk system.top false links reached names =
      .ok (Path.settle reached names) := by
  induction names generalizing reached with
  | nil => rw [walk, Path.settle]
  | cons name rest induction =>
      rw [walk, Path.settle]
      by_cases up : name = ".."
      · rw [if_pos up, if_pos up, induction]
      · rw [if_neg up, if_neg up]
        cases found : system.top.find? (name :: reached).reverse with
        | none => simp [induction]
        | some entry =>
            cases entry with
            | file content => simp [induction]
            | link target => exact absurd found (linkless _ target)
            | directory entries => simp [induction]

theorem follow_of_linkless {system : FileSystem} (linkless : system.Linkless)
    (path : Path) :
    system.follow path = .ok ⟨.root, Path.place system.working path⟩ := by
  rw [follow, walk_of_linkless linkless]
  rfl

theorem destination_of_linkless {system : FileSystem} (linkless : system.Linkless)
    (path : Path) : system.destination path = Path.place system.working path := by
  rw [destination, follow_of_linkless linkless]

end FileSystem

end SymbolDiff
