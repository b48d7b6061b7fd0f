import SymbolDiff.Listing
import SymbolDiff.Proofs.FileSystem.Resolving

/-!
# Files that lie in their directory

A regular file to which real directories lead from a directory lies in the
directory, however the directory itself is reached.  The test for this drops
nothing from a listing.
-/

namespace SymbolDiff

open FileSystem

namespace Listing

variable {entries : List (String × Entry)} {names place : List String}

theorem mem_regularFiles_iff_find? :
    names ∈ regularFiles (.directory entries) ↔
      ".." ∉ names ∧
        ∃ content,
          (Entry.directory entries).find? names = some (.file content) := by
  have regular : isRegular (.directory entries) names = true ↔
      ".." ∉ names ∧
        ∃ content,
          (Entry.directory entries).find? names = some (.file content) := by
    unfold isRegular
    split
    · rename_i content found
      simp [found]
    · rename_i other
      simpa using fun _ content found => other content found
  rw [regularFiles, List.mem_filter, regular, and_iff_right_iff_imp]
  rintro ⟨_, content, found⟩
  cases names with
  | nil => cases found
  | cons name rest =>
      exact List.mem_map.mpr ⟨_, Entry.mem_leavesOf_of_find? rfl found, rfl⟩

variable {system : FileSystem} {directory : Path}

/-- Below a directory that was reached, real directories are followed to where
they stand. -/
theorem locate_below {found : Entry}
    (located : system.locate directory = .ok place)
    (there : system.top.find? place = some (.directory entries))
    (downward : ".." ∉ names)
    (below : (Entry.directory entries).find? names = some found)
    (noLink : ∀ target, found ≠ .link target) :
    system.locate (directory.join ⟨.relative, names⟩) = .ok (place ++ names) := by
  have path : (system.absolute (directory.join ⟨.relative, names⟩)).names =
      (system.absolute directory).names ++ names := by
    rw [absolute, Path.join_join, absolute]
    simp [Path.join, Path.isAbsolute]
  have here : system.top.find? (place ++ names) = some found := by
    rw [Entry.find?_below there, below]
  have plain : system.top.linkAt? (place ++ names) = none := by
    cases link : system.top.linkAt? (place ++ names) with
    | none => rfl
    | some target =>
        rw [Entry.linkAt?_eq_some_iff, here] at link
        cases link
        exact absurd rfl (noLink target)
  obtain ⟨left, arrives⟩ := arrival_of_walk located
  rw [locate, path, walk_append arrives (firm_of_walk located there)]
  exact walk_of_find? downward here plain

theorem liesIn_of_mem
    (reached : system.stat? directory = some (.directory entries))
    (member : names ∈ regularFiles (.directory entries)) :
    liesIn system directory (directory.join ⟨.relative, names⟩) = true := by
  obtain ⟨downward, content, below⟩ := mem_regularFiles_iff_find?.mp member
  rw [stat?] at reached
  split at reached
  · rename_i place located
    have inside := locate_below located reached downward below (by simp)
    simp [liesIn, resolve_of_locate located, resolve_of_locate inside]
  · cases reached

/-- The test whether a file lies in the directory drops no file. -/
theorem filesIn_eq
    (reached : system.stat? directory = some (.directory entries)) :
    filesIn system directory (.directory entries) =
      (regularFiles (.directory entries)).map Path.posix := by
  rw [filesIn, List.filter_eq_self.mpr fun names member =>
    liesIn_of_mem reached member]

end Listing

end SymbolDiff
