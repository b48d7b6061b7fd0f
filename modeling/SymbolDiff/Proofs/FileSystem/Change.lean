import SymbolDiff.Proofs.FileSystem.Way

/-!
# Changes that keep to one place

A change keeps to a place when all that lies apart from it is found as before.
Above the place directories may be made where nothing stood.  Such changes can
follow each other, and a path that does not come into the place goes the same
way before and after.
-/

namespace SymbolDiff.FileSystem

/-- Nothing or a directory stands at a position. -/
def Open (top : Entry) (position : List String) : Prop :=
  top.find? position = none ∨
    ∃ entries, top.find? position = some (.directory entries)

/-- A file system that differs from an earlier one at one place only, and above
it in directories that were missing. -/
structure ChangedAt (place : List String) (before after : FileSystem) : Prop where
  working : after.working = before.working
  home : after.home = before.home
  elsewhere : ∀ names, Path.Apart names place →
    after.top.find? names = before.top.find? names
  above : ∀ names, names <+: place → names ≠ place →
    after.top.find? names = before.top.find? names ∨
      Open before.top names ∧
        ∃ entries, after.top.find? names = some (.directory entries)

namespace ChangedAt

variable {place position : List String} {before middle after : FileSystem}

theorem refl (system : FileSystem) : ChangedAt place system system where
  working := rfl
  home := rfl
  elsewhere _ _ := rfl
  above _ _ _ := .inl rfl

theorem trans (first : ChangedAt place before middle)
    (second : ChangedAt place middle after) : ChangedAt place before after where
  working := second.working.trans first.working
  home := second.home.trans first.home
  elsewhere names away :=
    (second.elsewhere names away).trans (first.elsewhere names away)
  above names within proper := by
    rcases first.above names within proper with same | ⟨vacant, made⟩
    · have later := second.above names within proper
      rwa [Open, same] at later
    · refine .inr ⟨vacant, ?_⟩
      rcases second.above names within proper with same | ⟨_, kept⟩
      · rwa [same]
      · exact kept

theorem linkAt?_eq (changed : ChangedAt place before after)
    (outside : ¬place <+: position) :
    after.top.linkAt? position = before.top.linkAt? position := by
  rcases Path.apart_or_below_or_above position place with
    away | ⟨names, rfl⟩ | ⟨above, proper⟩
  · rw [Entry.linkAt?, Entry.linkAt?, changed.elsewhere position away]
  · exact absurd (List.prefix_append place names) outside
  · rcases changed.above position above proper with
      same | ⟨missing | ⟨_, earlier⟩, _, later⟩
    · rw [Entry.linkAt?, Entry.linkAt?, same]
    · rw [Entry.linkAt?_of_directory later, Entry.linkAt?_of_none missing]
    · rw [Entry.linkAt?_of_directory later, Entry.linkAt?_of_directory earlier]

theorem absolute_eq (changed : ChangedAt place before after) (path : Path) :
    after.absolute path = before.absolute path := by
  rw [absolute, absolute, changed.working]

/-- A path that does not come into the place goes the same way. -/
theorem way_eq (changed : ChangedAt place before after) {path : Path}
    (clear : ∀ position ∈ before.way path, ¬place <+: position) :
    arrival after.top linkLimit [] (after.absolute path).names =
        arrival before.top linkLimit [] (before.absolute path).names ∧
      after.way path = before.way path := by
  rw [way, changed.absolute_eq]
  apply way_congr
  intro position onWay _
  exact changed.linkAt?_eq (clear position onWay)

end ChangedAt

end SymbolDiff.FileSystem
