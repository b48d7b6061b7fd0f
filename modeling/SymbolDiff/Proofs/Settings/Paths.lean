import SymbolDiff.Proofs.FileSystem.Resolving
import SymbolDiff.Proofs.Outcome
import SymbolDiff.Settings.Load

/-!
# Paths in settings

Settings name directories: the roots of specifications and the output
directories of languages.  They are seen from a directory, and settings can be
resolved there exactly when none of their paths leads astray.  What has been
resolved is absolute and does not depend on the working directory.
-/

namespace SymbolDiff

open Outcome

namespace Path

/-- A path is absolute exactly when it is the same from everywhere. -/
theorem isAbsolute_iff_join_eq {path : Path} :
    path.isAbsolute = true ↔
      ∀ here there : Path, here.join path = there.join path := by
  constructor
  · intro absolute here there
    rw [join_of_isAbsolute absolute, join_of_isAbsolute absolute]
  · intro same
    by_contra relative
    have seen := same ⟨.root, []⟩ ⟨.relative, []⟩
    simp [join, relative] at seen

/-- A path that starts in the home of the user of this name; the empty name
stands for whoever runs the program. -/
def NamesUser (path : Path) (user : String) : Prop :=
  ∃ rest, path = ⟨.relative, ("~" ++ user) :: rest⟩

/-- Nothing but a home that is not known keeps a path from being expanded. -/
theorem expandHome_eq_error_iff {path : Path} {homes : Homes}
    {fault : UnknownHome} :
    path.expandHome homes = .error fault ↔
      path.NamesUser fault.user ∧ homes.of? fault.user = none := by
  constructor
  · intro fails
    obtain ⟨anchor, names⟩ := path
    unfold expandHome at fails
    split at fails
    · rename_i first rest isRelative isNamed
      dsimp only at isRelative isNamed
      subst isRelative isNamed
      split at fails
      · rename_i letters characters
        dsimp only at fails
        split at fails
        · cases fails
        · rename_i unknown
          cases fails
          refine ⟨⟨rest, ?_⟩, unknown⟩
          congr
          apply String.toList_injective
          simp [characters]
      · cases fails
    · cases fails
  · rintro ⟨⟨rest, rfl⟩, unknown⟩
    have letters :
        ("~" ++ fault.user).toList = '~' :: fault.user.toList := by simp
    simp only [expandHome, letters, String.ofList_toList, unknown]

end Path

namespace Settings

variable {system : FileSystem} {base : Path}

/-- Why a path that is seen from a directory leads nowhere: it starts in a home
that is not known, no file can have it, or links lead it round in a circle. -/
inductive Astray (system : FileSystem) (base written : Path) : Prop where
  | noHome (user : String) (named : written.NamesUser user)
      (unknown : system.home.of? user = none)
  | nul (expanded : Path) (home : written.expandHome system.home = .ok expanded)
      (holds : (base.join expanded).holdsNul = true)
  | loop (expanded : Path) (home : written.expandHome system.home = .ok expanded)
      (endless : system.resolve (base.join expanded) = .error .tooManyLinks)

/-- A failure that lies in a path. -/
inductive OfPath : Failure → Prop where
  | unknownHome (user : String) : OfPath (.path (.unknownHome user))
  | linkLoop (path : Path) : OfPath (.path (.linkLoop path))
  | holdsNul (path : Path) : OfPath (.path (.holdsNul path))

theorem decided_resolveFrom (written : Path) :
    Decided (¬Astray system base written) OfPath
      (resolveFrom system base written) := by
  unfold resolveFrom expand
  cases home : written.expandHome system.home with
  | error fault =>
      obtain ⟨named, unknown⟩ := Path.expandHome_eq_error_iff.mp home
      have astray : Astray system base written := .noHome fault.user named unknown
      dsimp only
      split
      · exact ⟨not_not_intro astray, .holdsNul _⟩
      · exact ⟨not_not_intro astray, .unknownHome _⟩
  | ok expanded =>
      rw [ok_bind]
      unfold resolveWritten resolve
      cases holds : (base.join expanded).holdsNul with
      | true => exact ⟨not_not_intro (.nul expanded home holds), .holdsNul _⟩
      | false =>
          rw [if_neg Bool.false_ne_true]
          cases endless : system.resolve (base.join expanded) with
          | error fault =>
              rw [(FileSystem.resolve_eq_error_iff.mp endless).1] at endless
              exact ⟨not_not_intro (.loop expanded home endless), .linkLoop _⟩
          | ok resolved =>
              rintro (⟨user, named, unknown⟩ | ⟨other, same, bad⟩ |
                ⟨other, same, bad⟩)
              · have fails : written.expandHome system.home = .error ⟨user⟩ :=
                  Path.expandHome_eq_error_iff.mpr ⟨named, unknown⟩
                rw [home] at fails
                cases fails
              · rw [home] at same
                cases same
                rw [holds] at bad
                cases bad
              · rw [home] at same
                cases same
                rw [endless] at bad
                cases bad

theorem isAbsolute_resolveFrom {written found : Path}
    (done : resolveFrom system base written = .ok found) :
    found.isAbsolute = true := by
  obtain ⟨expanded, _, done⟩ := bind_eq_ok_iff.mp done
  unfold resolveWritten resolve at done
  split at done
  · cases done
  · split at done
    · rename_i resolved leads
      cases done
      exact FileSystem.isAbsolute_of_resolve leads
    · cases done

/-- The paths that settings name, in the order in which they are resolved. -/
def writtenPaths (settings : Settings) : List Path :=
  settings.specs.filterMap SpecSettings.root ++
    settings.languages.map LanguageSettings.output

theorem decided_resolveSpec (spec : SpecSettings) :
    Decided (∀ root, spec.root = some root → ¬Astray system base root) OfPath
      (resolveSpec system base spec) := by
  unfold resolveSpec
  cases spec.root with
  | none => exact fun root absent => nomatch absent
  | some root =>
      dsimp only
      rw [bind_pure_eq_map]
      refine ((decided_resolveFrom root).map _).congr ?_
      simp

theorem paths_of_resolveSpec {spec found : SpecSettings}
    (done : resolveSpec system base spec = .ok found) :
    found.paths = spec.paths := by
  unfold resolveSpec at done
  split at done
  · cases done
    rfl
  · obtain ⟨_, _, done⟩ := bind_eq_ok_iff.mp done
    cases done
    rfl

theorem decided_resolveLanguage (entry : LanguageSettings) :
    Decided (¬Astray system base entry.output) OfPath
      (resolveLanguage system base entry) := by
  unfold resolveLanguage
  rw [bind_pure_eq_map]
  exact (decided_resolveFrom entry.output).map _

/-- Settings can be resolved exactly when none of their paths leads astray. -/
theorem decided_resolvePaths (settings : Settings) :
    Decided (∀ written ∈ settings.writtenPaths, ¬Astray system base written)
      OfPath
      (settings.resolvePaths system base) := by
  have specs : Decided _ OfPath (settings.specs.mapM (resolveSpec system base)) :=
    Decided.mapM fun spec _ => decided_resolveSpec spec
  have languages : Decided _ OfPath
      (settings.languages.mapM (resolveLanguage system base)) :=
    Decided.mapM fun entry _ => decided_resolveLanguage entry
  have both := specs.bind fun resolved _ =>
    languages.map fun found =>
      { settings with specs := resolved, languages := found }
  simp only [← bind_pure_eq_map] at both
  refine both.congr ?_
  simp only [writtenPaths, List.mem_append, List.mem_filterMap, List.mem_map]
  grind

/-- What resolving keeps and what it changes. -/
structure Resolved (system : FileSystem) (base : Path)
    (written resolved : Settings) : Prop where
  debug : resolved.debug = written.debug
  generator : resolved.generator = written.generator
  specs : List.Forall₂ (fun spec found =>
    resolveSpec system base spec = .ok found) written.specs resolved.specs
  languages : List.Forall₂ (fun entry found =>
    resolveLanguage system base entry = .ok found)
    written.languages resolved.languages

theorem resolvePaths_eq_ok_iff {written resolved : Settings} :
    written.resolvePaths system base = .ok resolved ↔
      Resolved system base written resolved := by
  unfold resolvePaths
  rw [bind_eq_ok_iff]
  constructor
  · rintro ⟨specs, specsDone, done⟩
    obtain ⟨languages, languagesDone, done⟩ := bind_eq_ok_iff.mp done
    cases done
    exact ⟨rfl, rfl, mapM_eq_ok_iff.mp specsDone, mapM_eq_ok_iff.mp languagesDone⟩
  · rintro ⟨debug, generator, specs, languages⟩
    refine ⟨resolved.specs, mapM_eq_ok_iff.mpr specs, ?_⟩
    rw [mapM_eq_ok_iff.mpr languages, ok_bind, ← debug, ← generator]
    rfl

theorem Resolved.not_astray {written resolved : Settings}
    (resolves : Resolved system base written resolved) :
    ∀ seen ∈ written.writtenPaths, ¬Astray system base seen := by
  have decided : Decided _ OfPath (written.resolvePaths system base) :=
    decided_resolvePaths written
  rw [resolvePaths_eq_ok_iff.mpr resolves] at decided
  exact decided

end Settings

end SymbolDiff
