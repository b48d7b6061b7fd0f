import SymbolDiff.Comparison.Plan
import SymbolDiff.Proofs.FileSystem.Resolving
import SymbolDiff.Proofs.Path.Reading
import SymbolDiff.Settings.Load

/-!
# Where generations go

The two generations of a planned comparison lie next to each other in one
directory, its location.  Nothing in the settings keeps the locations of two
comparisons from being the same: without a root only the name of a
specification counts.  This file says exactly when the directories of two
comparisons do not get in each other's way.
-/

namespace SymbolDiff.Comparison

theorem mem_plan {settings : Settings} {planned : Planned} :
    planned ∈ plan settings ↔
      ∃ language ∈ settings.languages, ∃ specs ∈ settings.specs,
        ∃ spec ∈ specs.paths,
          planned = planSpec settings language specs spec := by
  simp only [plan, List.mem_flatMap, List.mem_map, eq_comm]

namespace Planned

/-- The directory that holds both generations of a comparison. -/
def location (planned : Planned) : Path :=
  planned.old.output.parent

/-- The directories of both generations, as places. -/
def places (working : Path) (planned : Planned) : List (List String) :=
  [Path.place working planned.old.output, Path.place working planned.new.output]

/-- A place lies in one of the two directories of a comparison. -/
def Encloses (working : Path) (planned : Planned) (place : List String) : Prop :=
  ∃ directory ∈ planned.places working, directory <+: place

/-- The four directories of two comparisons are different, and none of them
lies in another. -/
def ClearOf (working : Path) (first second : Planned) : Prop :=
  (first.places working ++ second.places working).Pairwise Path.Apart

end Planned

section Plan

variable {settings : Settings} {working : Path}

theorem location_planSpec (language : LanguageSettings) (specs : SpecSettings)
    (spec : String) :
    (planSpec settings language specs spec).location =
      language.output.join (specs.outputSubpath spec) := by
  have single : (Path.ofString oldDirectory).names = ["old"] := by decide
  have relative : (Path.ofString oldDirectory).isAbsolute = false := by decide
  simp [Planned.location, planSpec, Path.parent, Path.child, Path.join, single,
    relative]

theorem places_planSpec (language : LanguageSettings) (specs : SpecSettings)
    (spec : String) :
    (planSpec settings language specs spec).places working =
      [Path.place working (planSpec settings language specs spec).location ++
        ["old"],
        Path.place working (planSpec settings language specs spec).location ++
          ["new"]] := by
  have old : ".." ∉ (Path.ofString oldDirectory).names := by decide
  have new : ".." ∉ (Path.ofString newDirectory).names := by decide
  have oldPlace := Path.place_join working
    (language.output.join (specs.outputSubpath spec)) (by decide) old
  have newPlace := Path.place_join working
    (language.output.join (specs.outputSubpath spec)) (by decide) new
  rw [location_planSpec, Planned.places]
  exact congrArg₂ (fun first second => [first, second]) oldPlace newPlace

theorem places_of_mem_plan {planned : Planned}
    (member : planned ∈ plan settings) :
    planned.places working =
      [Path.place working planned.location ++ ["old"],
        Path.place working planned.location ++ ["new"]] := by
  obtain ⟨language, _, specs, _, spec, _, rfl⟩ := mem_plan.mp member
  exact places_planSpec language specs spec

theorem pairwise_places {planned : Planned} (member : planned ∈ plan settings) :
    (planned.places working).Pairwise Path.Apart := by
  rw [places_of_mem_plan member, List.pairwise_pair]
  exact Path.apart_siblings _ (by decide)

theorem encloses_iff {planned : Planned} (member : planned ∈ plan settings)
    (place : List String) :
    planned.Encloses working place ↔
      Path.place working planned.location ++ ["old"] <+: place ∨
        Path.place working planned.location ++ ["new"] <+: place := by
  rw [Planned.Encloses, places_of_mem_plan member, List.exists_mem_cons_iff,
    List.exists_mem_cons_iff]
  simp

/-- The directories of two comparisons get in each other's way only where the
locations are the same or one lies in a directory of the other. -/
theorem clearOf_iff {first second : Planned}
    (firstPlanned : first ∈ plan settings)
    (secondPlanned : second ∈ plan settings) :
    first.ClearOf working second ↔
      Path.place working first.location ≠ Path.place working second.location ∧
        ¬first.Encloses working (Path.place working second.location) ∧
        ¬second.Encloses working (Path.place working first.location) := by
  have between : first.ClearOf working second ↔
      ∀ here ∈ first.places working, ∀ there ∈ second.places working,
        Path.Apart here there := by
    rw [Planned.ClearOf, List.pairwise_append,
      and_iff_right (pairwise_places firstPlanned),
      and_iff_right (pairwise_places secondPlanned)]
  rw [between, encloses_iff firstPlanned, encloses_iff secondPlanned,
    places_of_mem_plan firstPlanned, places_of_mem_plan secondPlanned]
  generalize Path.place working first.location = here
  generalize Path.place working second.location = there
  simp only [List.forall_mem_cons, Path.apart_concat_iff]
  grind

theorem clearOf_of_outputs {first second : Planned}
    (firstPlanned : first ∈ plan settings)
    (secondPlanned : second ∈ plan settings)
    (outputs : Path.Apart (Path.place working first.language.output)
      (Path.place working second.language.output))
    (firstBelow : Path.place working first.language.output <+:
      Path.place working first.location)
    (secondBelow : Path.place working second.language.output <+:
      Path.place working second.location) :
    first.ClearOf working second := by
  rw [Planned.ClearOf, List.pairwise_append]
  refine ⟨pairwise_places firstPlanned, pairwise_places secondPlanned, ?_⟩
  rw [places_of_mem_plan firstPlanned, places_of_mem_plan secondPlanned]
  have below : ∀ (place : List String) (here : List String),
      here ∈ [place ++ ["old"], place ++ ["new"]] → place <+: here := by
    intro place here member
    rcases List.mem_pair.mp member with rfl | rfl
    · exact List.prefix_append place ["old"]
    · exact List.prefix_append place ["new"]
  intro here inFirst there inSecond
  exact outputs.below (firstBelow.trans (below _ here inFirst))
    (secondBelow.trans (below _ there inSecond))

end Plan

section Subpaths

variable {settings : Settings} {working : Path}

theorem anchor_outputSubpath (specs : SpecSettings) (spec : String) :
    (specs.outputSubpath spec).anchor = .relative := by
  have stem : (Path.ofString (Path.ofString spec).stem).anchor = .relative :=
    Path.anchor_of_slashless (Path.slash_notMem_stem spec)
  unfold SpecSettings.outputSubpath
  dsimp only
  split
  · exact stem
  · rename_i kept
    have relative : (Path.ofString spec).anchor = .relative := by
      simp [Path.isAbsolute] at kept
      exact kept.2
    simp [Path.child, Path.join, Path.isAbsolute, stem, Path.parent, relative]

theorem outputSubpath_of_rootless {specs : SpecSettings} {spec : String}
    (rootless : specs.root = none)
    (isName : Entry.IsName (Path.ofString spec).stem) :
    (specs.outputSubpath spec).names = [(Path.ofString spec).stem] := by
  unfold SpecSettings.outputSubpath
  rw [rootless]
  simp [Path.ofString_of_isName isName]

theorem place_location {language : LanguageSettings} {specs : SpecSettings}
    {spec : String} (downward : ".." ∉ (specs.outputSubpath spec).names) :
    Path.place working (planSpec settings language specs spec).location =
      Path.place working language.output ++ (specs.outputSubpath spec).names := by
  rw [location_planSpec]
  exact Path.place_join working language.output (anchor_outputSubpath specs spec)
    downward

theorem clearOf_iff_subpaths {firstLanguage secondLanguage : LanguageSettings}
    {firstSpecs secondSpecs : SpecSettings} {firstSpec secondSpec : String}
    (firstPlanned : planSpec settings firstLanguage firstSpecs firstSpec ∈
      plan settings)
    (secondPlanned : planSpec settings secondLanguage secondSpecs secondSpec ∈
      plan settings)
    (shared : Path.place working firstLanguage.output =
      Path.place working secondLanguage.output)
    (firstDownward : ".." ∉ (firstSpecs.outputSubpath firstSpec).names)
    (secondDownward : ".." ∉ (secondSpecs.outputSubpath secondSpec).names) :
    (planSpec settings firstLanguage firstSpecs firstSpec).ClearOf working
        (planSpec settings secondLanguage secondSpecs secondSpec) ↔
      (firstSpecs.outputSubpath firstSpec).names ≠
          (secondSpecs.outputSubpath secondSpec).names ∧
        (∀ side ∈ ["old", "new"],
          ¬(firstSpecs.outputSubpath firstSpec).names ++ [side] <+:
            (secondSpecs.outputSubpath secondSpec).names) ∧
        ∀ side ∈ ["old", "new"],
          ¬(secondSpecs.outputSubpath secondSpec).names ++ [side] <+:
            (firstSpecs.outputSubpath firstSpec).names := by
  rw [clearOf_iff firstPlanned secondPlanned, encloses_iff firstPlanned,
    encloses_iff secondPlanned, place_location firstDownward,
    place_location secondDownward, shared]
  simp only [List.append_assoc, List.prefix_append_right_inj, ne_eq,
    List.append_cancel_left_eq, List.forall_mem_cons, not_or, List.not_mem_nil,
    IsEmpty.forall_iff, implies_true, and_true]

theorem clearOf_iff_stems {firstLanguage secondLanguage : LanguageSettings}
    {firstSpecs secondSpecs : SpecSettings} {firstSpec secondSpec : String}
    (firstPlanned : planSpec settings firstLanguage firstSpecs firstSpec ∈
      plan settings)
    (secondPlanned : planSpec settings secondLanguage secondSpecs secondSpec ∈
      plan settings)
    (shared : Path.place working firstLanguage.output =
      Path.place working secondLanguage.output)
    (firstRootless : firstSpecs.root = none)
    (secondRootless : secondSpecs.root = none)
    (firstName : Entry.IsName (Path.ofString firstSpec).stem)
    (secondName : Entry.IsName (Path.ofString secondSpec).stem) :
    (planSpec settings firstLanguage firstSpecs firstSpec).ClearOf working
        (planSpec settings secondLanguage secondSpecs secondSpec) ↔
      (Path.ofString firstSpec).stem ≠ (Path.ofString secondSpec).stem := by
  have first := outputSubpath_of_rootless firstRootless firstName
  have second := outputSubpath_of_rootless secondRootless secondName
  have firstDownward : ".." ∉ (firstSpecs.outputSubpath firstSpec).names := by
    rw [first, List.mem_singleton]
    exact Ne.symm firstName.2.2.1
  have secondDownward : ".." ∉ (secondSpecs.outputSubpath secondSpec).names := by
    rw [second, List.mem_singleton]
    exact Ne.symm secondName.2.2.1
  -- a single name is too short to start with a location and a side
  have tooShort : ∀ stem other : String, ∀ side ∈ ["old", "new"],
      ¬[stem] ++ [side] <+: [other] := by
    intro stem other side _ inside
    have shorter := inside.length_le
    simp at shorter
  rw [clearOf_iff_subpaths firstPlanned secondPlanned shared firstDownward
    secondDownward, first, second, and_iff_left ⟨tooShort _ _, tooShort _ _⟩]
  simp

end Subpaths

/-- The two directories of a comparison never get in each other's way.  Those
of two comparisons do not exactly when their locations differ and neither
location lies in a directory of the other.  Output directories of languages
that are apart are enough for that; below one output directory the subpaths
decide, and without roots the stems of the specifications. -/
theorem directories_clear_iff (settings : Settings) (system : FileSystem)
    (first second : Planned) (firstPlanned : first ∈ plan settings)
    (secondPlanned : second ∈ plan settings) :
    let place := Path.place system.working
    let clear := first.ClearOf system.working second
    (system.Linkless →
      ∀ path, system.resolve path = .ok ⟨.root, place path⟩) ∧
    (first.places system.working).Pairwise Path.Apart ∧
    (clear ↔ place first.location ≠ place second.location ∧
      ¬first.Encloses system.working (place second.location) ∧
      ¬second.Encloses system.working (place first.location)) ∧
    (Path.Apart (place first.language.output) (place second.language.output) →
      place first.language.output <+: place first.location →
      place second.language.output <+: place second.location → clear) ∧
    ∀ firstSpecs secondSpecs : SpecSettings,
      first = planSpec settings first.language firstSpecs first.spec →
      second = planSpec settings second.language secondSpecs second.spec →
      place first.language.output = place second.language.output →
      let here := (firstSpecs.outputSubpath first.spec).names
      let there := (secondSpecs.outputSubpath second.spec).names
      (".." ∉ here → ".." ∉ there →
        (clear ↔ here ≠ there ∧
          (∀ side ∈ ["old", "new"], ¬here ++ [side] <+: there) ∧
          ∀ side ∈ ["old", "new"], ¬there ++ [side] <+: here)) ∧
      (firstSpecs.root = none → secondSpecs.root = none →
        Entry.IsName (Path.ofString first.spec).stem →
        Entry.IsName (Path.ofString second.spec).stem →
        (clear ↔
          (Path.ofString first.spec).stem ≠
            (Path.ofString second.spec).stem)) := by
  intro place clear
  refine ⟨FileSystem.resolve_of_linkless, pairwise_places firstPlanned,
    clearOf_iff firstPlanned secondPlanned,
    clearOf_of_outputs firstPlanned secondPlanned, ?_⟩
  intro firstSpecs secondSpecs firstMade secondMade shared here there
  rw [firstMade] at firstPlanned
  rw [secondMade] at secondPlanned
  have unfolded : clear = (planSpec settings first.language firstSpecs
      first.spec).ClearOf system.working
        (planSpec settings second.language secondSpecs second.spec) := by
    rw [← firstMade, ← secondMade]
  rw [unfolded]
  exact ⟨clearOf_iff_subpaths firstPlanned secondPlanned shared,
    clearOf_iff_stems firstPlanned secondPlanned shared⟩

/-- With a root two specifications of one name do not meet. -/
theorem directories_clear_iff_rooted :
    let settings : Settings := {
      specs := [{ root := some (.ofString "specs"),
                  paths := ["a/x.json", "b/x.json"] }]
      languages := [{ language := .python, output := .ofString "out" }] }
    let system : FileSystem := {
      top := .directory []
      working := .ofString "/work"
      home := .ofString "/home" }
    ∃ first ∈ plan settings, ∃ second ∈ plan settings,
      first.spec = "a/x.json" ∧ second.spec = "b/x.json" ∧
        first.ClearOf system.working second := by
  intro settings system
  let specs : SpecSettings :=
    { root := some (.ofString "specs"), paths := ["a/x.json", "b/x.json"] }
  let language : LanguageSettings :=
    { language := .python, output := .ofString "out" }
  have firstPlanned : planSpec settings language specs "a/x.json" ∈
      plan settings := mem_plan.mpr ⟨language, List.mem_singleton_self _, specs,
        List.mem_singleton_self _, "a/x.json", by decide, rfl⟩
  have secondPlanned : planSpec settings language specs "b/x.json" ∈
      plan settings := mem_plan.mpr ⟨language, List.mem_singleton_self _, specs,
        List.mem_singleton_self _, "b/x.json", by decide, rfl⟩
  refine ⟨_, firstPlanned, _, secondPlanned, rfl, rfl, ?_⟩
  obtain ⟨_, _, _, _, below⟩ :=
    directories_clear_iff settings system _ _ firstPlanned secondPlanned
  obtain ⟨subpaths, _⟩ := below specs specs rfl rfl rfl
  rw [subpaths (by decide +kernel) (by decide +kernel)]
  decide +kernel

/-- Two specifications of one name without a root share their directories,
although the settings are accepted. -/
theorem directories_clash :
    ¬∀ (data : Data) (settings : Settings), Settings.build data = .ok settings →
      ∀ (working : Path), ∀ first ∈ plan settings, ∀ second ∈ plan settings,
        first.language.language ≠ second.language.language ∨
          first.old.spec ≠ second.old.spec →
        first.ClearOf working second := by
  intro clear
  let data : Data := .table
    [("specs", .list [.table
        [("spec_paths", .list [.text "a/x.json", .text "b/x.json"])]]),
      ("languages", .list [.table
        [("language", .text "python"), ("output_path", .text "out")]])]
  let specs : SpecSettings := { paths := ["a/x.json", "b/x.json"] }
  let language : LanguageSettings :=
    { language := .python, output := .ofString "out" }
  let settings : Settings := { specs := [specs], languages := [language] }
  have accepted : Settings.build data = .ok settings := rfl
  have firstPlanned : planSpec settings language specs "a/x.json" ∈
      plan settings := mem_plan.mpr ⟨language, List.mem_singleton_self _, specs,
        List.mem_singleton_self _, "a/x.json", by decide, rfl⟩
  have secondPlanned : planSpec settings language specs "b/x.json" ∈
      plan settings := mem_plan.mpr ⟨language, List.mem_singleton_self _, specs,
        List.mem_singleton_self _, "b/x.json", by decide, rfl⟩
  have different : (planSpec settings language specs "a/x.json").old.spec ≠
      (planSpec settings language specs "b/x.json").old.spec := by
    decide +kernel
  have apart := clear data settings accepted (.ofString "/work") _ firstPlanned _
    secondPlanned (.inr different)
  rw [clearOf_iff_stems firstPlanned secondPlanned rfl rfl rfl
    (by decide +kernel) (by decide +kernel)] at apart
  exact apart (by decide +kernel)

end SymbolDiff.Comparison
