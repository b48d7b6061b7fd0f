import Mathlib
import SymbolDiff.Proofs.Comparison.Locations
import SymbolDiff.Proofs.Settings.Loading

/-!
# Plans from a settings file

The roots and the output directories in a settings file are seen from the
directory of the file, and so the outputs of a plan do not depend on the
working directory.  A specification without a root is not seen from there: it
stays as it is written, and the file it stands for depends on where the program
is started.
-/

namespace SymbolDiff

open Outcome

namespace Settings

variable {system : FileSystem} {base : Path}

/-- The settings that the content of a file stands for, before anything is
resolved. -/
def WrittenIn (stack : Nat) (content : ByteArray) (written : Settings) : Prop :=
  ∃ source data, String.fromUTF8? content = some source ∧
    Toml.read stack source = .ok data ∧ Settings.ofData data = .valid written

namespace Resolved

variable {written found : Settings}
  (resolved : Resolved system base written found)

include resolved

theorem exists_output {output : Path}
    (member : output ∈ found.languages.map LanguageSettings.output) :
    ∃ entry ∈ written.languages,
      resolveFrom system base entry.output = .ok output := by
  obtain ⟨language, listed, rfl⟩ := List.mem_map.mp member
  obtain ⟨entry, inWritten, done⟩ :=
    exists_item_of_mem (mapM_eq_ok_iff.mpr resolved.languages) listed
  obtain ⟨output, seen, done⟩ := bind_eq_ok_iff.mp done
  cases done
  exact ⟨entry, inWritten, seen⟩

theorem exists_spec {specs : SpecSettings} (member : specs ∈ found.specs) :
    ∃ entry ∈ written.specs, resolveSpec system base entry = .ok specs :=
  exists_item_of_mem (mapM_eq_ok_iff.mpr resolved.specs) member

end Resolved

end Settings

namespace Comparison

open Settings

variable {system : FileSystem} {base : Path}

/-- The file of a specification that is written in a settings file: it is seen
from its root, and the root from the directory of the settings file.  Without a
root it is seen from nowhere. -/
inductive SpecFile (system : FileSystem) (base : Path) (specs : SpecSettings)
    (spec : String) : Path → Prop where
  | rooted {root found : Path} (given : specs.root = some root)
      (seen : resolveFrom system base root = .ok found) :
      SpecFile system base specs spec (found.join (.ofString spec))
  | bare (missing : specs.root = none) :
      SpecFile system base specs spec (.ofString spec)

theorem specFile_of_resolveSpec {entry specs : SpecSettings}
    (done : resolveSpec system base entry = .ok specs) (spec : String) :
    SpecFile system base entry spec (specs.file spec) := by
  unfold resolveSpec at done
  cases given : entry.root with
  | none =>
      rw [given] at done
      cases done
      rw [SpecSettings.file, given]
      exact .bare given
  | some root =>
      rw [given] at done
      obtain ⟨found, seen, done⟩ := bind_eq_ok_iff.mp done
      cases done
      exact .rooted given seen

theorem SpecFile.isAbsolute_iff {specs : SpecSettings} {spec : String}
    {file : Path}
    (stands : SpecFile system base specs spec file) :
    file.isAbsolute = true ↔
      specs.root ≠ none ∨ (Path.ofString spec).isAbsolute = true := by
  cases stands with
  | rooted given seen =>
      have absolute := isAbsolute_resolveFrom seen
      simp [given, Path.isAbsolute_join absolute]
  | bare missing => simp [missing]

/-- A planned output lies in the output directory of its language. -/
theorem isAbsolute_outputs {settings : Settings} {planned : Planned}
    (member : planned ∈ plan settings)
    (absolute : planned.language.output.isAbsolute = true) :
    planned.old.output.isAbsolute = true ∧
      planned.new.output.isAbsolute = true := by
  obtain ⟨language, _, specs, _, spec, _, rfl⟩ := mem_plan.mp member
  have location := Path.isAbsolute_join absolute (specs.outputSubpath spec)
  exact ⟨Path.isAbsolute_join location _, Path.isAbsolute_join location _⟩

/-- Everything that is planned from a settings file has its outputs in fixed
places.  Roots and output directories are seen from the directory of the file;
a specification is in a fixed place exactly when it has a root or is absolute
itself.  A file that is named by an absolute path gives the same settings, and
so the same plan, from every working directory. -/
theorem planned_from_file (system : FileSystem) (path : Path)
    (settings : Settings)
    (loaded : load system path = .ok settings) :
    ∃ base content written,
      system.LeadsToFile path base content ∧
        WrittenIn system.stack content written ∧
      (∀ planned ∈ plan settings,
        (∃ entry ∈ written.languages,
          resolveFrom system base entry.output = .ok planned.language.output) ∧
        planned.old.output.isAbsolute = true ∧
        planned.new.output.isAbsolute = true ∧
        planned.new.spec = planned.old.spec ∧
        ∃ specs ∈ written.specs, planned.spec ∈ specs.paths ∧
          SpecFile system base specs planned.spec planned.old.spec ∧
          (planned.old.spec.isAbsolute = true ↔
            specs.root ≠ none ∨ (Path.ofString planned.spec).isAbsolute = true) ∧
          (planned.old.spec.isAbsolute = true ↔ ∀ here there : Path,
            here.join planned.old.spec = there.join planned.old.spec)) ∧
      (path.isAbsolute = true → ∀ working,
        load { system with working := working } path = .ok settings) := by
  obtain ⟨base, content, stands⟩ := leadsToFile_of_load loaded
  obtain ⟨source, data, written, found, text, read, accepted, resolved, ready⟩ :=
    written_of_load stands loaded
  refine ⟨base, content, written, stands, ⟨source, data, text, read, accepted⟩,
    ?_, ?_⟩
  · intro planned member
    obtain ⟨language, inLanguages, specs, inSpecs, spec, inPaths, same⟩ :=
      mem_plan.mp member
    -- debug arguments change neither specifications nor output directories
    rw [ready_eq_ok ready] at inLanguages inSpecs
    rw [specs_withDebugArguments] at inSpecs
    have listed :
        language.output ∈ found.languages.map LanguageSettings.output := by
      rw [← outputs_withDebugArguments]
      exact List.mem_map_of_mem inLanguages
    obtain ⟨entry, inWritten, seen⟩ := resolved.exists_output listed
    obtain ⟨origin, inOrigins, done⟩ := resolved.exists_spec inSpecs
    have output :
        resolveFrom system base entry.output = .ok planned.language.output := by
      rw [same]
      exact seen
    have file : SpecFile system base origin planned.spec planned.old.spec := by
      rw [same]
      exact specFile_of_resolveSpec done spec
    have written : planned.spec ∈ origin.paths := by
      rw [same, ← paths_of_resolveSpec done]
      exact inPaths
    have both : planned.new.spec = planned.old.spec := by
      rw [same]
      rfl
    obtain ⟨old, new⟩ := isAbsolute_outputs member (isAbsolute_resolveFrom output)
    exact ⟨⟨entry, inWritten, output⟩, old, new, both, origin, inOrigins,
      written, file, file.isAbsolute_iff, Path.isAbsolute_iff_join_eq⟩
  · intro absolute working
    rw [load_elsewhere system working absolute]
    exact loaded

/-- A specification below a root next to the file. -/
theorem planned_from_file_rooted :
    let source := "specs=[\x7bspec_root_path='s',spec_paths=['a.json']\x7d]\n" ++
      "languages=[\x7blanguage='go',output_path='o'\x7d]"
    let system : FileSystem := {
      top := .directory [("work", .directory [("c.toml", .file source.toUTF8)])]
      working := .ofString "/tmp"
      home := .ofString "/home/me" }
    let settings : Settings := {
      specs := [⟨some (.ofString "/work/s"), ["a.json"]⟩]
      languages := [⟨.go, .ofString "/work/o", [], [], .nothing⟩] }
    load system (.ofString "/work/c.toml") = .ok settings ∧
      (∀ planned ∈ plan settings,
        planned.old.output.isAbsolute = true ∧
          planned.new.output.isAbsolute = true ∧
          planned.old.spec.isAbsolute = true) ∧
      load { system with working := .ofString "/elsewhere" }
        (.ofString "/work/c.toml") = .ok settings := by
  intro source system settings
  have text : String.fromUTF8? source.toUTF8 = some source :=
    dif_pos source.isValidUTF8
  have read : Toml.read system.stack source = .ok (.table
      [("specs", .list [.table [("spec_root_path", .text "s"),
          ("spec_paths", .list [.text "a.json"])]]),
        ("languages", .list [.table
          [("language", .text "go"), ("output_path", .text "o")]])]) := by
    subst source
    cbv
  clear_value source
  have stands : system.LeadsToFile (.ofString "/work/c.toml") (.ofString "/work")
      source.toUTF8 := ⟨["work", "c.toml"], by cbv, by cbv, by cbv⟩
  have root : resolveFrom system (.ofString "/work") (.ofString "s") =
      .ok (.ofString "/work/s") := by cbv
  have output : resolveFrom system (.ofString "/work") (.ofString "o") =
      .ok (.ofString "/work/o") := by cbv
  have seen : Settings.resolvePaths system (.ofString "/work")
      { specs := [⟨some (.ofString "s"), ["a.json"]⟩]
        languages := [⟨.go, .ofString "o", [], [], .nothing⟩] } = .ok settings :=
    resolvePaths_eq_ok_iff.mpr ⟨rfl, rfl,
      .cons (bind_eq_ok_iff.mpr ⟨_, root, rfl⟩) .nil,
      .cons (bind_eq_ok_iff.mpr ⟨_, output, rfl⟩) .nil⟩
  have loaded : load system (.ofString "/work/c.toml") = .ok settings := by
    rw [load_of_data stands text read]
    exact bind_eq_ok_iff.mpr ⟨_, rfl, bind_eq_ok_iff.mpr ⟨settings, seen, rfl⟩⟩
  obtain ⟨_, _, _, _, _, all, elsewhere⟩ :=
    planned_from_file system (.ofString "/work/c.toml") settings loaded
  refine ⟨loaded, ?_, elsewhere (by decide) _⟩
  intro planned member
  obtain ⟨_, old, new, _, _⟩ := all planned member
  refine ⟨old, new, ?_⟩
  rw [List.mem_singleton.mp member]
  decide

/-- A specification without a root: the file that is generated from depends on
the working directory. -/
theorem rootless_spec_unresolved :
    ¬∀ (system : FileSystem) (path : Path) (settings : Settings),
      load system path = .ok settings → ∀ planned ∈ plan settings,
        planned.old.spec.isAbsolute = true := by
  intro always
  obtain ⟨source, read⟩ : ∃ source, Toml.read 990 source = .ok (.table
      [("specs", .list [.table [("spec_paths", .list [.text "a.json"])]]),
        ("languages", .list [.table
          [("language", .text "go"), ("output_path", .text "o")]])]) :=
    ⟨"specs=[\x7bspec_paths=['a.json']\x7d]\n" ++
      "languages=[\x7blanguage='go',output_path='o'\x7d]", by cbv⟩
  have stands : FileSystem.LeadsToFile
      { top := .directory [("c.toml", .file source.toUTF8)]
        working := .ofString "/"
        home := .ofString "/" } (.ofString "/c.toml") (.ofString "/")
      source.toUTF8 :=
    ⟨["c.toml"], by cbv, by cbv, by cbv⟩
  have seen : Settings.resolvePaths
      { top := .directory [("c.toml", .file source.toUTF8)]
        working := .ofString "/"
        home := .ofString "/" } (.ofString "/")
      { specs := [⟨none, ["a.json"]⟩]
        languages := [⟨.go, .ofString "o", [], [], .nothing⟩] } = .ok
      { specs := [⟨none, ["a.json"]⟩]
        languages := [⟨.go, .ofString "/o", [], [], .nothing⟩] } := by
    cbv
  have loaded := load_of_data stands (dif_pos source.isValidUTF8) read
  have absolute := always _ _ _
    (loaded.trans
      (bind_eq_ok_iff.mpr ⟨_, rfl, bind_eq_ok_iff.mpr ⟨_, seen, rfl⟩⟩))
    _ (List.mem_singleton_self _)
  exact absurd absolute (by decide)

end Comparison

end SymbolDiff
