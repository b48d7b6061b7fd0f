import Mathlib.Algebra.Order.BigOperators.Group.List
import Mathlib.Algebra.Order.Group.Nat
import SymbolDiff.Proofs.Comparison.Locations

/-!
# Output below its directory

The directories of a comparison are named from the directory of its language
downwards, but the names come from the path of a specification, and a path may
hold `..`.  Output stays below the directory, wherever that is, exactly when
the names never go up more often than they have gone down.
-/

namespace SymbolDiff

namespace Path

/-- An absolute path by which nothing is left to be removed. -/
structure IsNormal (path : Path) : Prop where
  absolute : path.isAbsolute = true
  names : ∀ name ∈ path.names, Entry.IsName name

/-- A place that lies in another one and is not that one. -/
def StrictlyBelow (place base : List String) : Prop :=
  base <+: place ∧ place ≠ base

instance (place base : List String) : Decidable (StrictlyBelow place base) :=
  inferInstanceAs (Decidable (_ ∧ _))

/-- Some first part of the names goes up more often than down. -/
def Climbs (names : List String) : Prop :=
  ∃ front ∈ names.inits, front.length < 2 * front.count ".."

instance (names : List String) : Decidable (Climbs names) :=
  inferInstanceAs (Decidable (∃ front ∈ names.inits, _))

/-- What was reached below a base is as deep as the names go up at most. -/
theorem prefix_settle {base extra names : List String}
    (shallow : ∀ front, front <+: names →
      2 * front.count ".." ≤ front.length + extra.length) :
    base <+: settle (extra ++ base.reverse) names := by
  induction names generalizing extra with
  | nil =>
      rw [settle, List.reverse_append, List.reverse_reverse]
      exact List.prefix_append base extra.reverse
  | cons name rest induction =>
      rw [settle]
      by_cases up : name = ".."
      · subst up
        rw [if_pos rfl]
        cases extra with
        | nil =>
            have first := shallow [".."] (by simp)
            simp at first
        | cons inner extra =>
            rw [List.cons_append, List.tail_cons]
            apply induction
            intro front within
            have longer := shallow (".." :: front)
              (List.cons_prefix_cons.mpr ⟨rfl, within⟩)
            rw [List.count_cons_self, List.length_cons,
              List.length_cons] at longer
            omega
      · rw [if_neg up, ← List.cons_append]
        apply induction
        intro front within
        have longer := shallow (name :: front)
          (List.cons_prefix_cons.mpr ⟨rfl, within⟩)
        rw [List.count_cons_of_ne up, List.length_cons] at longer
        rw [List.length_cons]
        omega

theorem not_mem_settle {name : String} {reached names : List String}
    (before : name ∉ reached) (later : name ∉ names) :
    name ∉ settle reached names := by
  induction names generalizing reached with
  | nil =>
      rw [settle, List.mem_reverse]
      exact before
  | cons first rest induction =>
      rw [List.mem_cons, not_or] at later
      rw [settle]
      by_cases up : first = ".."
      · rw [if_pos up]
        exact induction (fun inTail => before (List.mem_of_mem_tail inTail))
          later.2
      · rw [if_neg up]
        apply induction _ later.2
        rw [List.mem_cons, not_or]
        exact ⟨later.1, before⟩

/-- Names that climb leave the directory that they start in, and only a name of
their own could lead back. -/
theorem not_mem_settle_of_climbing {base : String}
    {extra names front : List String}
    (within : front <+: names)
    (climbing : front.length + extra.length < 2 * front.count "..")
    (noReturn : base ∉ names) : base ∉ settle (extra ++ [base]) names := by
  induction names generalizing extra front with
  | nil =>
      rw [List.prefix_nil.mp within] at climbing
      simp at climbing
  | cons name rest induction =>
      cases front with
      | nil => simp at climbing
      | cons first front =>
          obtain ⟨rfl, shorter⟩ := List.cons_prefix_cons.mp within
          rw [List.mem_cons, not_or] at noReturn
          rw [settle]
          by_cases up : first = ".."
          · subst up
            rw [if_pos rfl]
            rw [List.count_cons_self, List.length_cons] at climbing
            cases extra with
            | nil => exact not_mem_settle (List.not_mem_nil) noReturn.2
            | cons inner extra =>
                rw [List.cons_append, List.tail_cons]
                apply induction shorter _ noReturn.2
                rw [List.length_cons] at climbing
                omega
          · rw [if_neg up, ← List.cons_append]
            apply induction shorter _ noReturn.2
            rw [List.count_cons_of_ne up, List.length_cons] at climbing
            rw [List.length_cons]
            omega

/-- There is always another name. -/
theorem exists_fresh (names : List String) :
    ∃ name, Entry.IsName name ∧ name ∉ names := by
  let name := String.ofList
    (List.replicate ((names.map String.length).sum + 1) 'p')
  have characters : name.toList =
      'p' :: List.replicate (names.map String.length).sum 'p' := by
    rw [String.toList_ofList, List.replicate_succ]
  refine ⟨name, ⟨?_, ?_, ?_, ?_⟩, ?_⟩
  · intro empty
    simp [empty] at characters
  · intro dot
    simp [dot] at characters
  · intro up
    simp [up] at characters
  · rw [characters]
    simp
  · intro member
    have bounded : name.length ≤ (names.map String.length).sum :=
      List.single_le_sum (fun _ _ => Nat.zero_le _) _ (List.mem_map_of_mem member)
    rw [← String.length_toList, characters, List.length_cons,
      List.length_replicate] at bounded
    omega

theorem not_climbs_iff {names : List String} :
    ¬Climbs names ↔
      ∀ front, front <+: names → 2 * front.count ".." ≤ front.length := by
  simp only [Climbs, List.mem_inits, not_exists, not_and, not_lt]

theorem not_climbs_of_downward {names : List String} (downward : ".." ∉ names) :
    ¬Climbs names := by
  rw [not_climbs_iff]
  intro front within
  have none : front.count ".." = 0 := by
    rw [List.count_eq_zero]
    exact fun member => downward (within.subset member)
  omega

/-- Wherever they start, names that do not climb stay below. -/
theorem forall_prefix_settle_iff (names : List String) :
    (∀ base : List String, (∀ name ∈ base, Entry.IsName name) →
        base <+: settle base.reverse names) ↔
      ¬Climbs names := by
  constructor
  · intro below climbs
    obtain ⟨front, within, climbing⟩ := climbs
    obtain ⟨name, isName, fresh⟩ := exists_fresh names
    have inside := below [name] (by simpa using isName)
    have gone : name ∉ settle ([] ++ [name]) names :=
      not_mem_settle_of_climbing ((List.mem_inits front names).mp within)
        climbing fresh
    exact gone (inside.subset (List.mem_singleton_self name))
  · intro still base _
    have stays : base <+: settle ([] ++ base.reverse) names :=
      prefix_settle (not_climbs_iff.mp still)
    exact stays

theorem strictlyBelow_concat_iff (place base : List String) (name : String) :
    StrictlyBelow (place ++ [name]) base ↔ base <+: place := by
  constructor
  · rintro ⟨within, different⟩
    rcases List.prefix_concat_iff.mp within with same | inside
    · exact absurd same.symm different
    · exact inside
  · intro inside
    refine ⟨inside.trans (List.prefix_append place [name]), ?_⟩
    intro same
    exact not_concat_within place name (same ▸ inside)

/-- The last name without its ending is read as one name or as none. -/
theorem eq_stem_of_mem {spec name : String}
    (member : name ∈ (ofString (ofString spec).stem).names) :
    name = (ofString spec).stem := by
  have slashless := slash_notMem_stem spec
  generalize (ofString spec).stem = stem at member slashless ⊢
  by_cases isName : Entry.IsName stem
  · rw [ofString_of_isName isName] at member
    exact List.mem_singleton.mp member
  · have special : stem = "" ∨ stem = "." ∨ stem = ".." := by
      simp only [Entry.IsName, slashless] at isName
      tauto
    rcases special with rfl | rfl | rfl
    · have none : (ofString "").names = [] := by decide
      rw [none] at member
      cases member
    · have none : (ofString ".").names = [] := by decide
      rw [none] at member
      cases member
    · exact List.mem_singleton.mp member

end Path

namespace Comparison

variable {settings : Settings} {language : LanguageSettings}

/-- The place of a location is found by following the subpath from the output
directory. -/
theorem place_location_of_isNormal (working : Path) (specs : SpecSettings)
    (spec : String) (normal : language.output.IsNormal) :
    Path.place working (planSpec settings language specs spec).location =
      Path.settle language.output.names.reverse
        (specs.outputSubpath spec).names := by
  have downward : ".." ∉ language.output.names := by
    intro up
    exact (normal.names ".." up).2.2.1 rfl
  have relative : (specs.outputSubpath spec).isAbsolute = false := by
    simp [Path.isAbsolute, anchor_outputSubpath]
  have seen : working.join language.output = language.output :=
    if_pos normal.absolute
  have names : (language.output.join (specs.outputSubpath spec)).names =
      language.output.names ++ (specs.outputSubpath spec).names := by
    simp [Path.join, relative]
  rw [location_planSpec, Path.place, Path.join_join, seen, names,
    Path.settle_append, Path.settle_of_downward _ downward]
  rfl

theorem strictlyBelow_places_iff (working : Path) (specs : SpecSettings)
    (spec : String) (normal : language.output.IsNormal) :
    (∀ place ∈ (planSpec settings language specs spec).places working,
        Path.StrictlyBelow place language.output.names) ↔
      language.output.names <+: Path.settle language.output.names.reverse
        (specs.outputSubpath spec).names := by
  rw [places_planSpec, place_location_of_isNormal working specs spec normal]
  simp only [List.forall_mem_cons, Path.strictlyBelow_concat_iff,
    List.not_mem_nil, IsEmpty.forall_iff, implies_true, and_true, and_self]

theorem downward_outputSubpath {specs : SpecSettings} {spec : String}
    (downward : ".." ∉ (Path.ofString spec).names)
    (stem : (Path.ofString spec).stem ≠ "..") :
    ".." ∉ (specs.outputSubpath spec).names := by
  have last : ".." ∉ (Path.ofString (Path.ofString spec).stem).names :=
    fun member => stem (Path.eq_stem_of_mem member).symm
  have relative :
      (Path.ofString (Path.ofString spec).stem).isAbsolute = false := by
    simp [Path.isAbsolute, Path.anchor_of_slashless (Path.slash_notMem_stem spec)]
  unfold SpecSettings.outputSubpath
  dsimp only
  split
  · exact last
  · simp only [Path.child, Path.join, relative, Bool.false_eq_true, if_false,
      Path.parent, List.mem_append, not_or]
    exact ⟨fun member => downward (List.mem_of_mem_dropLast member), last⟩

/-- Where only the stem of a specification counts, it alone can lead up. -/
theorem climbs_outputSubpath_iff_of_stem {specs : SpecSettings} {spec : String}
    (stemOnly : specs.root = none ∨ (Path.ofString spec).isAbsolute = true) :
    Path.Climbs (specs.outputSubpath spec).names ↔
      (Path.ofString spec).stem = ".." := by
  have subpath : specs.outputSubpath spec =
      Path.ofString (Path.ofString spec).stem := by
    unfold SpecSettings.outputSubpath
    dsimp only
    rw [if_pos]
    rcases stemOnly with rootless | absolute
    · simp [rootless]
    · simp [absolute]
  rw [subpath]
  constructor
  · intro climbs
    by_contra other
    apply Path.not_climbs_of_downward _ climbs
    intro member
    exact other (Path.eq_stem_of_mem member).symm
  · intro up
    rw [up]
    decide

/-- Both directories of a comparison lie below the directory of its language,
wherever that is, exactly when the subpath of the specification does not climb.
Without a root, and for an absolute path, only a stem of two dots climbs; with
a root a path climbs only if it holds `..` or has such a stem. -/
theorem outputs_below_iff (specs : SpecSettings) (spec : String) :
    let stem := (Path.ofString spec).stem
    let subpath := (specs.outputSubpath spec).names
    ((∀ (settings : Settings) (language : LanguageSettings) (working : Path),
        language.output.IsNormal →
          ∀ place ∈ (planSpec settings language specs spec).places working,
            Path.StrictlyBelow place language.output.names) ↔
      ¬Path.Climbs subpath) ∧
    (specs.root = none ∨ (Path.ofString spec).isAbsolute = true →
      (Path.Climbs subpath ↔ stem = "..")) ∧
    (".." ∉ (Path.ofString spec).names → stem ≠ ".." →
      ¬Path.Climbs subpath) := by
  intro stem subpath
  refine ⟨?_, climbs_outputSubpath_iff_of_stem, ?_⟩
  · rw [← Path.forall_prefix_settle_iff]
    constructor
    · intro below base areNames
      let language : LanguageSettings :=
        { language := .python, output := ⟨.root, base⟩ }
      have normal : language.output.IsNormal := ⟨rfl, areNames⟩
      have places := below {} language language.output normal
      exact (strictlyBelow_places_iff language.output specs spec normal).mp places
    · intro below settings language working normal
      rw [strictlyBelow_places_iff working specs spec normal]
      exact below language.output.names normal.names
  · intro downward other
    exact Path.not_climbs_of_downward (downward_outputSubpath downward other)

/-- A path may go up as long as it has gone down before. -/
theorem outputs_below_iff_detour :
    let specs : SpecSettings := { root := some (.ofString "specs") }
    let language : LanguageSettings :=
      { language := .python, output := .ofString "/work/out" }
    language.output.IsNormal ∧
      ∀ place ∈ (planSpec {} language specs "a/../x.json").places (.ofString "/"),
        Path.StrictlyBelow place language.output.names := by
  intro specs language
  have normal : language.output.IsNormal := ⟨by decide, by decide⟩
  obtain ⟨below, _⟩ := outputs_below_iff specs "a/../x.json"
  exact ⟨normal, below.mpr (by decide) {} language (.ofString "/") normal⟩

/-- Below a root, a specification next to the root is generated next to the
output directory. -/
theorem output_beside_directory :
    ¬∀ (specs : SpecSettings) (spec : String) (settings : Settings)
        (language : LanguageSettings) (working : Path),
      language.output.IsNormal →
        ∀ place ∈ (planSpec settings language specs spec).places working,
          Path.StrictlyBelow place language.output.names := by
  intro below
  let specs : SpecSettings := { root := some (.ofString "specs") }
  let language : LanguageSettings :=
    { language := .python, output := .ofString "/work/out" }
  have normal : language.output.IsNormal := ⟨by decide, by decide⟩
  have placed : ["work", "x", "old"] ∈
      (planSpec {} language specs "../x.json").places (.ofString "/") := by
    decide
  have inside :=
    below specs "../x.json" {} language (.ofString "/") normal _ placed
  exact absurd inside (by decide)

end Comparison

end SymbolDiff
