import SymbolDiff.Proofs.Comparison.Generations
import SymbolDiff.Proofs.FileSystem.Put

/-!
# Generators that write their folder anew

The plainest generator replaces its folder by what the command line stands
for.  It is dependable as soon as nothing but directories stands on the way to
its folders.
-/

namespace SymbolDiff.Comparison

open FileSystem

/-- Puts a new directory at the folder of the command line. -/
def depositing (folder : List String → List String)
    (content : List String → List (String × Entry)) : Generator := fun command =>
  Process.act
    (fun system => { system with
      top := system.top.put (folder command) (.directory (content command)) })
    (.done (.exited 0 "" ""))

section Depositing

variable {folder : List String → List String}
variable {content : List String → List (String × Entry)}
variable {system : FileSystem} {request : Request}

theorem generated_depositing :
    generated (depositing folder content) request system =
      { system with
        top := system.top.put (folder request.commandLine)
          (.directory (content request.commandLine)) } := by
  rw [generated_eq]
  rfl

variable (content) in
theorem writes_depositing
    (above : OpenAbove system (folder request.commandLine)) :
    Writes (folder request.commandLine) (content request.commandLine) system
      (generated (depositing folder content) request system) := by
  rw [generated_depositing]
  refine ⟨Entry.find?_put_self _ _ _, ?_, above, rfl⟩
  intro names away
  exact Entry.find?_put_of_apart away _ _

/-- Writing a folder leaves the ways above the others open. -/
theorem OpenAbove.written {place other : List String}
    {entries : List (String × Entry)} {after : FileSystem}
    (above : OpenAbove system other) (writes : Writes place entries system after)
    (apart : place = other ∨ Path.Apart place other) : OpenAbove after other := by
  intro names within proper
  rcases Path.apart_or_below_or_above names place with
    away | ⟨rest, rfl⟩ | ⟨enclosing, strict⟩
  · rw [writes.elsewhere names away]
    exact above names within proper
  · have inside : place <+: other := (List.prefix_append place rest).trans within
    rcases apart with rfl | away
    · have same := within.eq_of_length_le
        (List.prefix_append place rest).length_le
      exact absurd same proper
    · exact absurd inside away.1
  · exact .inr (Entry.directory_of_find? writes.there enclosing strict)

theorem keep_all (paths : List String) :
    Listing.keep [] [] paths = .ok paths := by
  induction paths with
  | nil => rfl
  | cons path rest induction =>
      rw [Listing.keep, induction]
      rfl

theorem listed_of_in {stood : Folder} (stands : stood.In system)
    (unignored : Entry.lookup Listing.ignoreFileName stood.entries = none) :
    ∃ files, Listing.outputFiles system stood.path [] true = .ok files := by
  have isName : Entry.IsName Listing.ignoreFileName := by decide
  have read := Path.ofString_of_isName isName
  have relative : (Path.ofString Listing.ignoreFileName).anchor = .relative := by
    rw [read]
  have position : (Listing.ignoreFileName :: stood.place.reverse).reverse =
      stood.place ++ [Listing.ignoreFileName] := by simp
  have missing : system.top.find?
      (stood.place ++ [Listing.ignoreFileName]) = none := by
    rw [Entry.find?_below stands.there, Entry.find?, Entry.child?, unignored]
  have nothing :
      system.stat? (stood.path.child Listing.ignoreFileName) = none := by
    rw [Path.child, FileSystem.stat?, stands.locate relative, read,
      walk_cons isName.2.2.1, position, missing]
    rfl
  have rules : Listing.ownRules system stood.path = .ok [] := by
    rw [Listing.ownRules, nothing]
  refine ⟨_, (Listing.outputFiles_eq_ok_iff stands.stat?).mpr
    ⟨[], ?_, _, keep_all _, rfl⟩⟩
  rw [Listing.rulesFor, if_pos rfl, rules]

theorem in_of_straight {path : Path} {place : List String}
    {entries : List (String × Entry)}
    (straight : (system.absolute path).names = place) (downward : ".." ∉ place)
    (there : system.top.find? place = some (.directory entries)) :
    ∃ left, Folder.In ⟨path, place, left, entries⟩ system := by
  have leads : walk system.top true linkLimit [] (system.absolute path).names =
      .ok place := by
    rw [straight]
    have here : system.top.find? ([] ++ place) = some (.directory entries) :=
      there
    exact walk_of_find? downward here (Entry.linkAt?_of_directory here)
  obtain ⟨left, arrives⟩ := arrival_of_walk leads
  exact ⟨left, arrives, firm_of_walk leads there, there⟩

theorem succeeds_depositing {place : List String}
    (own : folder request.commandLine = place)
    (straight : (system.absolute request.output).names = place)
    (downward : ".." ∉ place)
    (unignored : Entry.lookup Listing.ignoreFileName
      (content request.commandLine) = none) :
    ∃ output, ((request.generate (depositing folder content)).run system).1 =
      .ok output := by
  let after := generated (depositing folder content) request system
  have there : after.top.find? place =
      some (.directory (content request.commandLine)) := by
    rw [← own]
    simp only [after, generated_depositing]
    exact Entry.find?_put_self _ _ _
  have same : (after.absolute request.output).names = place := by
    rw [← straight]
    simp only [after, generated_depositing, absolute]
  obtain ⟨left, stands⟩ := in_of_straight same downward there
  have isThere : after.isDirectory request.output = true := by
    rw [FileSystem.isDirectory, stands.stat?]
  obtain ⟨files, listed⟩ := listed_of_in stands unignored
  have existing := (existing_of_listed listed).2
  have ending : ((depositing folder content request.commandLine).run system).1 =
      .exited 0 "" "" := rfl
  have later : ((depositing folder content request.commandLine).run system).2 =
      after := generated_eq.symm
  refine ⟨{ directory := request.output, files := files }, ?_⟩
  rw [Request.generate, Process.run_andThen, ending, later, Request.conclude,
    if_pos rfl, run_inspect, if_pos isThere, existing]
  rfl

/-- A generator that writes its folders anew is dependable. -/
theorem dependable_depositing {asked : List Request} {start : FileSystem}
    (separate : Separate start asked)
    (folders : ∀ request ∈ asked,
      folder request.commandLine = start.destination request.output)
    (straight : ∀ request ∈ asked,
      (start.absolute request.output).names = start.destination request.output)
    (downward : ∀ request ∈ asked, ".." ∉ start.destination request.output)
    (above : ∀ request ∈ asked,
      OpenAbove start (start.destination request.output))
    (proper : ∀ request ∈ asked, Entry.ProperEach (content request.commandLine))
    (unignored : ∀ request ∈ asked, Entry.lookup Listing.ignoreFileName
      (content request.commandLine) = none)
    (linkless : ∀ request ∈ asked, ∀ names target,
      (Entry.directory (content request.commandLine)).find? names ≠
        some (.link target)) :
    Dependable (depositing folder content) asked start content := by
  have kept : ∀ {system}, Reached (depositing folder content) asked start system →
      system.working = start.working ∧ ∀ request ∈ asked,
        OpenAbove system (start.destination request.output) := by
    intro system reached
    induction reached with
    | start => exact ⟨rfl, above⟩
    | @generated before request _ inAsked induction =>
        have writes := writes_depositing content
          (folders request inAsked ▸ induction.2 request inAsked)
        refine ⟨writes.working.trans induction.1, ?_⟩
        intro other otherInAsked
        apply (induction.2 other otherInAsked).written writes
        rw [folders request inAsked]
        by_cases same : request = other
        · exact .inl (same ▸ rfl)
        · exact .inr (separate.apart_of_ne inAsked otherInAsked same)
  refine ⟨?_, ?_, proper, ?_⟩
  · intro system reached request inAsked
    have working := (kept reached).1
    have path : (system.absolute request.output).names =
        start.destination request.output := by
      rw [absolute, working]
      exact straight request inAsked
    exact succeeds_depositing (folders request inAsked) path
      (downward request inAsked) (unignored request inAsked)
  · intro system reached request inAsked
    have writes := writes_depositing content
      (folders request inAsked ▸ (kept reached).2 request inAsked)
    rwa [folders request inAsked] at writes
  · intro request inAsked top _ names target found
    exact absurd found (linkless request inAsked names target)

end Depositing

end SymbolDiff.Comparison
