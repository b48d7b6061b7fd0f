import SymbolDiff.Proofs.Comparison.Course
import SymbolDiff.Proofs.Report.Alike

/-!
# The summary of a run and its single results

The results of a run are those of the plan, comparison by comparison.  The
summary has an entry for each language with differences and under it an entry
for each of its specifications with differences, and so no addition or removal
is lost or counted twice.
-/

namespace SymbolDiff

namespace Node

theorem gather_eq_none_iff {label : String} {kind : Kind}
    {results : List (Option Node)} :
    gather label kind results = none ↔ results.filterMap id = [] := by
  rw [gather]
  cases results.filterMap id with
  | nil => simp
  | cons first rest => simp

theorem gather_of_ne_nil {label : String} {kind : Kind}
    {results : List (Option Node)} (some : results.filterMap id ≠ []) :
    gather label kind results =
      Option.some (.mk label kind (results.filterMap id)) := by
  rw [gather]
  cases found : results.filterMap id with
  | nil => exact absurd found some
  | cons first rest => rfl

/-- A heading of another kind adds nothing to a count. -/
theorem countIn_gather {wanted kind : Kind} (other : kind ≠ wanted)
    (label : String) (results : List (Option Node)) :
    countIn wanted (gather label kind results) =
      (results.map (countIn wanted)).sum := by
  have present : countList wanted (results.filterMap id) =
      (results.map (countIn wanted)).sum := by
    induction results with
    | nil => rfl
    | cons result rest induction =>
        cases result with
        | none => simpa [countIn] using induction
        | some node => simpa [countIn, countList] using induction
  rw [← present, gather]
  cases results.filterMap id with
  | nil => rfl
  | cons first rest => simp [countIn, count, other]

end Node

section Groups

variable {α κ : Type} [DecidableEq κ]

theorem idxOf_lt_of_filter (keep : κ → Bool) {keys : List κ} {first second : κ}
    (firstKept : keep first = true) (secondKept : keep second = true)
    (before : (keys.filter keep).idxOf first < (keys.filter keep).idxOf second) :
    keys.idxOf first < keys.idxOf second := by
  induction keys with
  | nil => simp at before
  | cons key rest induction => grind

/-- Distinct keys stand in the order in which they first occur. -/
theorem pairwise_eraseDups (keys : List κ) :
    keys.eraseDups.Pairwise fun first second =>
      keys.idxOf first < keys.idxOf second := by
  match keys with
  | [] => simp
  | key :: rest =>
      have shorter :
          (rest.filter fun other => !other == key).length ≤ rest.length :=
        List.length_filter_le _ _
      have others := pairwise_eraseDups (rest.filter fun other => !other == key)
      have kept : ∀ other ∈ (rest.filter fun other => !other == key).eraseDups,
          key ≠ other := by
        intro other member same
        have differs := (List.mem_filter.mp (List.mem_eraseDups.mp member)).2
        simp [same] at differs
      -- the other keys keep their order when one of them is left out
      rw [List.eraseDups_cons, List.pairwise_cons]
      constructor
      · intro other member
        rw [List.idxOf_cons_self, List.idxOf_cons_ne _ (kept other member)]
        omega
      · apply others.imp_of_mem
        intro first second inFirst inSecond before
        have firstOther := kept first inFirst
        have secondOther := kept second inSecond
        have ordered := idxOf_lt_of_filter (fun other => !other == key)
          (by simpa using Ne.symm firstOther) (by simpa using Ne.symm secondOther)
          before
        rw [List.idxOf_cons_ne _ firstOther, List.idxOf_cons_ne _ secondOther]
        omega
termination_by keys.length

theorem nodup_eraseDups (keys : List κ) : keys.eraseDups.Nodup := by
  apply (pairwise_eraseDups keys).imp
  intro first second before same
  rw [same] at before
  omega

/-- Group by group a sum is the sum over all items. -/
theorem sum_map_groups {keys : List κ} (distinct : keys.Nodup) (key : α → κ)
    (weight : α → Nat) {items : List α}
    (covered : ∀ item ∈ items, key item ∈ keys) :
    (keys.map fun wanted =>
      ((items.filter fun item => key item = wanted).map weight).sum).sum =
        (items.map weight).sum := by
  induction keys generalizing items with
  | nil =>
      have empty : items = [] := by
        rw [List.eq_nil_iff_forall_not_mem]
        intro item member
        exact absurd (covered item member) List.not_mem_nil
      simp [empty]
  | cons first rest induction =>
      obtain ⟨fresh, distinctRest⟩ := List.nodup_cons.mp distinct
      have coveredRest : ∀ item ∈ items.filter fun item => ¬key item = first,
          key item ∈ rest := by
        intro item member
        obtain ⟨listed, different⟩ := List.mem_filter.mp member
        have inKeys := covered item listed
        simpa [of_decide_eq_true different] using inKeys
      have others := induction distinctRest coveredRest
      have groups : ∀ wanted ∈ rest,
          (items.filter fun item => ¬key item = first).filter
              (fun item => key item = wanted) =
            items.filter fun item => key item = wanted := by
        intro wanted inRest
        rw [List.filter_filter]
        apply List.filter_congr
        intro item _
        by_cases same : key item = wanted
        · have different : wanted ≠ first := fun equal => fresh (equal ▸ inRest)
          simp [same, different]
        · simp [same]
      rw [List.map_cons, List.sum_cons,
        ← List.sum_map_filter_add_sum_map_filter_not
          (fun item => key item = first) weight items, ← others]
      congr 2
      apply List.map_congr_left
      intro wanted inRest
      rw [groups wanted inRest]

end Groups

namespace Comparison

/-- The languages that were met, each once. -/
def languagesOf (results : List SpecResult) : List Language :=
  (results.map SpecResult.language).eraseDups

theorem mem_languagesOf {results : List SpecResult} {language : Language} :
    language ∈ languagesOf results ↔
      ∃ found ∈ results, found.language = language := by
  rw [languagesOf, List.mem_eraseDups, List.mem_map]

/-- What was found for one language. -/
def groupOf (results : List SpecResult) (language : Language) :
    Language × List (Option Node) :=
  (language, (results.filter fun found => found.language = language).map specNode)

theorem enter_map_of_mem {languages : List Language} (distinct : languages.Nodup)
    {language : Language} (met : language ∈ languages) (entry : Option Node)
    (entries : Language → List (Option Node)) :
    Groups.enter language entry
        (languages.map fun other => (other, entries other)) =
      languages.map fun other =>
        (other,
          if other = language then entries other ++ [entry]
          else entries other) := by
  induction languages with
  | nil => exact absurd met List.not_mem_nil
  | cons first rest induction =>
      rw [List.nodup_cons] at distinct
      rw [List.map_cons, Groups.enter, List.map_cons]
      by_cases same : first = language
      · subst same
        rw [if_pos rfl, if_pos rfl]
        congr 1
        apply List.map_congr_left
        intro other later
        rw [if_neg]
        rintro rfl
        exact distinct.1 later
      · rw [if_neg same, if_neg same,
          induction distinct.2 (by simpa [Ne.symm same] using met)]

theorem enter_map_of_notMem {languages : List Language} {language : Language}
    (fresh : language ∉ languages) (entry : Option Node)
    (entries : Language → List (Option Node)) :
    Groups.enter language entry
        (languages.map fun other => (other, entries other)) =
      (languages.map fun other => (other, entries other)) ++
        [(language, [entry])] := by
  induction languages with
  | nil => rfl
  | cons first rest induction =>
      rw [List.mem_cons, not_or] at fresh
      rw [List.map_cons, Groups.enter, if_neg (Ne.symm fresh.1),
        induction fresh.2, List.cons_append]

theorem languagesOf_append_singleton (results : List SpecResult)
    (result : SpecResult) :
    languagesOf (results ++ [result]) =
      if result.language ∈ languagesOf results then languagesOf results
      else languagesOf results ++ [result.language] := by
  rw [languagesOf, languagesOf, List.map_append, List.eraseDups_append,
    List.map_singleton]
  by_cases met : result.language ∈ results.map SpecResult.language
  · have gone :
        [result.language].removeAll (results.map SpecResult.language) = [] :=
      List.filter_eq_nil_iff.mpr (by simpa using met)
    rw [if_pos (List.mem_eraseDups.mpr met), gone, List.eraseDups_nil,
      List.append_nil]
  · have stays : [result.language].removeAll (results.map SpecResult.language) =
        [result.language] := List.filter_eq_self.mpr (by simpa using met)
    rw [if_neg (List.mem_eraseDups.not.mpr met), stays]
    rfl

/-- One result more: its entry joins those of its language, which comes last
when it was not met before. -/
theorem add_groups (results : List SpecResult) (result : SpecResult) :
    Groups.add ((languagesOf results).map (groupOf results)) result =
      (languagesOf (results ++ [result])).map
        (groupOf (results ++ [result])) := by
  have group (language : Language) : groupOf (results ++ [result]) language =
      (language, if language = result.language then
        (groupOf results language).2 ++ [specNode result]
      else (groupOf results language).2) := by
    by_cases same : language = result.language
    · simp [groupOf, same]
    · simp [groupOf, same, Ne.symm same]
  rw [languagesOf_append_singleton, Groups.add]
  by_cases met : result.language ∈ languagesOf results
  · rw [if_pos met]
    refine (enter_map_of_mem (nodup_eraseDups _) met _ fun language =>
      (groupOf results language).2).trans ?_
    exact (List.map_congr_left fun language _ => group language).symm
  · rw [if_neg met, List.map_append]
    refine (enter_map_of_notMem met _ fun language =>
      (groupOf results language).2).trans ?_
    congr 1
    · apply List.map_congr_left
      intro language listed
      rw [group, if_neg]
      rintro rfl
      exact met listed
    · have none : results.filter (fun found => found.language = result.language) =
          [] := by
        rw [List.filter_eq_nil_iff]
        intro found member same
        exact met (mem_languagesOf.mpr ⟨found, member, of_decide_eq_true same⟩)
      simp [groupOf, none]

/-- The groups are those of the languages that were met, each with all of its
results. -/
theorem foldl_add_eq_groups (results : List SpecResult) :
    results.foldl Groups.add [] =
      (languagesOf results).map (groupOf results) := by
  induction results using List.reverseRecOn with
  | nil => rfl
  | append_singleton results result induction =>
      rw [List.foldl_append, induction, List.foldl_cons, List.foldl_nil,
        add_groups]

theorem summary_eq (results : List SpecResult) :
    summary results = Node.gather label .outline
      ((languagesOf results).map fun language =>
        languageNode (groupOf results language)) := by
  rw [summary, foldl_add_eq_groups, List.map_map]
  rfl

/-- An entry for each specification of a language that has differences. -/
def specEntries (results : List SpecResult) (language : Language) : List Node :=
  results.filterMap fun found =>
    if found.language = language then
      found.diff.map fun diff => .mk found.spec .outline [diff]
    else none

theorem specNode_eq (found : SpecResult) :
    specNode found = found.diff.map fun diff =>
      .mk found.spec .outline [diff] := by
  rw [specNode]
  cases found.diff with
  | none => rfl
  | some diff => rfl

theorem specEntries_eq (results : List SpecResult) (language : Language) :
    ((results.filter fun found => found.language = language).map
      specNode).filterMap
        id = specEntries results language := by
  rw [List.filterMap_map, List.filterMap_filter, specEntries]
  congr 1
  funext found
  by_cases same : found.language = language
  · simp [same, specNode_eq]
  · simp [same]

theorem specEntries_ne_nil_iff {results : List SpecResult} {language : Language} :
    specEntries results language ≠ [] ↔
      ∃ found ∈ results, found.language = language ∧ found.diff ≠ none := by
  rw [specEntries, Ne, List.filterMap_eq_nil_iff]
  simp only [not_forall]
  constructor
  · rintro ⟨found, member, shown⟩
    by_cases same : found.language = language
    · refine ⟨found, member, same, ?_⟩
      intro missing
      simp [missing] at shown
    · simp [same] at shown
  · rintro ⟨found, member, same, present⟩
    refine ⟨found, member, ?_⟩
    simpa [same] using present

/-- The entries of the languages that have differences. -/
theorem filterMap_languageNode (results : List SpecResult)
    (languages : List Language) :
    (languages.map fun language =>
        languageNode (groupOf results language)).filterMap id =
      (languages.filter fun language => specEntries results language ≠ []).map
        fun language =>
          .mk language.word .outline (specEntries results language) := by
  induction languages with
  | nil => rfl
  | cons language rest induction =>
      have entries := specEntries_eq results language
      by_cases empty : specEntries results language = []
      · have nothing : languageNode (groupOf results language) = none := by
          rw [languageNode, Node.gather_eq_none_iff, groupOf, entries, empty]
        simpa [nothing, empty] using induction
      · have something : languageNode (groupOf results language) =
            some (.mk language.word .outline (specEntries results language)) := by
          rw [languageNode, groupOf, Node.gather_of_ne_nil (entries ▸ empty),
            entries]
        simpa [something, empty] using induction

/-- The languages that have differences, in the order of their first results. -/
def differing (results : List SpecResult) : List Language :=
  (languagesOf results).filter fun language => specEntries results language ≠ []

theorem mem_differing {results : List SpecResult} {language : Language} :
    language ∈ differing results ↔
      ∃ found ∈ results, found.language = language ∧ found.diff ≠ none := by
  rw [differing, List.mem_filter, mem_languagesOf, decide_eq_true_eq,
    specEntries_ne_nil_iff]
  constructor
  · exact fun both => both.2
  · rintro ⟨found, member, same, present⟩
    exact ⟨⟨found, member, same⟩, found, member, same, present⟩

theorem summary_eq_none_iff {results : List SpecResult} :
    summary results = none ↔ ∀ found ∈ results, found.diff = none := by
  rw [summary_eq, Node.gather_eq_none_iff, filterMap_languageNode,
    List.map_eq_nil_iff, List.eq_nil_iff_forall_not_mem]
  constructor
  · intro nothing found member
    by_contra present
    exact nothing found.language (mem_differing.mpr ⟨found, member, rfl, present⟩)
  · intro nothing language member
    obtain ⟨found, listed, _, present⟩ := mem_differing.mp member
    exact present (nothing found listed)

theorem summary_of_difference {results : List SpecResult}
    (some : ∃ found ∈ results, found.diff ≠ none) :
    summary results = Option.some (.mk label .outline
      ((differing results).map fun language =>
        .mk language.word .outline (specEntries results language))) := by
  have present : ((languagesOf results).map fun language =>
      languageNode (groupOf results language)).filterMap id ≠ [] := by
    intro empty
    obtain ⟨found, member, differs⟩ := some
    apply differs
    apply summary_eq_none_iff.mp _ found member
    rw [summary_eq, Node.gather_eq_none_iff, empty]
  rw [summary_eq, Node.gather_of_ne_nil present, filterMap_languageNode]
  rfl

/-- Additions and removals are counted once each. -/
theorem countIn_summary {wanted : Kind} (leaf : wanted.isLeaf = true)
    (results : List SpecResult) :
    Node.countIn wanted (summary results) =
      (results.map fun found => Node.countIn wanted found.diff).sum := by
  have other : Kind.outline ≠ wanted := by
    rintro rfl
    cases leaf
  have spec : ∀ found, Node.countIn wanted (specNode found) =
      Node.countIn wanted found.diff := by
    intro found
    rw [specNode, Node.countIn_gather other]
    simp
  have language : ∀ language,
      Node.countIn wanted (languageNode (groupOf results language)) =
      ((results.filter fun found => found.language = language).map
        fun found => Node.countIn wanted found.diff).sum := by
    intro language
    rw [languageNode, groupOf, Node.countIn_gather other, List.map_map]
    congr 2
    funext found
    exact spec found
  have covered : ∀ found ∈ results, found.language ∈ languagesOf results := by
    intro found member
    exact mem_languagesOf.mpr ⟨found, member, rfl⟩
  rw [summary_eq, Node.countIn_gather other, List.map_map,
    ← sum_map_groups (nodup_eraseDups _) SpecResult.language
      (fun found => Node.countIn wanted found.diff) covered]
  congr 2
  funext key
  exact language key

theorem Turns.forall₂ {generator : Generator} {parse : Grammar.Parser}
    {system last : FileSystem} {runs : List Planned} {specs : List SpecResult}
    (turns : Turns generator parse system runs specs last) :
    List.Forall₂
      (fun planned found => found.language = planned.language.language ∧
      found.spec = planned.spec) runs specs := by
  induction turns with
  | nil => exact .nil
  | cons _ _ induction => exact .cons ⟨rfl, rfl⟩ induction

theorem Turns.languages_eq {generator : Generator} {parse : Grammar.Parser}
    {system last : FileSystem} {runs : List Planned} {specs : List SpecResult}
    (turns : Turns generator parse system runs specs last) :
    runs.map (fun planned => planned.language.language) =
      specs.map SpecResult.language := by
  apply Outcome.map_eq_map_iff_forall₂.mpr
  apply turns.forall₂.imp
  intro planned found same
  exact same.1.symm

theorem turns_of_run {generator : Generator} {parse : Grammar.Parser}
    {settings : Settings} {session later : Session} {result : Result}
    (ended : Run.on (run generator settings parse) session =
      (.ok result, later)) :
    ∃ last, Turns generator parse session.system
      (plan settings) result.specs last ∧
      result.diff = summary result.specs := by
  cases checked : checkReused session.system (plan settings) with
  | error failure =>
      rw [on_run_of_missing checked] at ended
      cases ended
  | ok _ =>
      rw [on_run_of_checked checked] at ended
      have outcome := congrArg Prod.fst ended
      rcases on_turns generator parse (plan settings) session with
        ⟨specs, last, turns, done, _⟩ | ⟨_, _, _, _, _, _, _, _, _, failed, _⟩
      · simp only [done, Outcome.map_ok, Except.ok.injEq] at outcome
        subst outcome
        exact ⟨last, turns, rfl⟩
      · simp only [failed, Outcome.map_error, reduceCtorEq] at outcome

/-- A run that succeeds has one result for each planned comparison, in the
order of the plan, and its summary is made of these results alone: nothing
when none of them has a difference, else one entry for each language with
differences, in the order in which the languages are planned, over one entry
for each of its specifications with differences. -/
theorem run_summarised (generator : Generator) (parse : Grammar.Parser)
    (settings : Settings) (session later : Session) (result : Result)
    (ended : Run.on (run generator settings parse) session =
      (.ok result, later)) :
    let planned := (plan settings).map fun planned => planned.language.language
    List.Forall₂
      (fun planned found => found.language = planned.language.language ∧
      found.spec = planned.spec) (plan settings) result.specs ∧
    (∃ last,
      Turns generator parse session.system (plan settings) result.specs last) ∧
    (result.diff = none ↔ ∀ found ∈ result.specs, found.diff = none) ∧
    (result.exitCode = 0 ↔ ∀ found ∈ result.specs, found.diff = none) ∧
    ((∃ found ∈ result.specs, found.diff ≠ none) →
      ∃ languages : List Language,
        (∀ language, language ∈ languages ↔
          ∃ found ∈ result.specs, found.language = language ∧ found.diff ≠ none) ∧
        languages.Pairwise (fun first second =>
          planned.idxOf first < planned.idxOf second) ∧
        result.diff = some (.mk "Comparison Results" .outline
          (languages.map fun language => .mk language.word .outline
            (result.specs.filterMap fun found =>
              if found.language = language then
                found.diff.map fun diff => .mk found.spec .outline [diff]
              else none)))) ∧
    ∀ kind, kind = .added ∨ kind = .removed →
      Node.countIn kind result.diff =
        (result.specs.map fun found => Node.countIn kind found.diff).sum := by
  intro planned
  obtain ⟨last, turns, gathered⟩ := turns_of_run ended
  have clean :
      result.diff = none ↔ ∀ found ∈ result.specs, found.diff = none := by
    rw [gathered]
    exact summary_eq_none_iff
  refine ⟨turns.forall₂, ⟨last, turns⟩, clean, ?_, ?_, ?_⟩
  · rw [← clean, Result.exitCode, Result.isClean]
    cases result.diff with
    | none => simp
    | some diff => simp
  · intro present
    refine ⟨differing result.specs, fun language => mem_differing, ?_, ?_⟩
    · have ordered := pairwise_eraseDups (result.specs.map SpecResult.language)
      have same : planned = result.specs.map SpecResult.language :=
        turns.languages_eq
      rw [same]
      exact ordered.sublist List.filter_sublist
    · rw [gathered]
      exact summary_of_difference present
  · intro kind leaf
    rw [gathered]
    apply countIn_summary
    rcases leaf with rfl | rfl
    · rfl
    · rfl

/-- Two entries of one language with another one between them: their
differences stand under one heading. -/
theorem run_summarised_interleaved :
    let settings : Settings := {
      specs := [{ paths := ["x.json"] }]
      languages := [
        { language := .go, output := .ofString "g", reuse := .both },
        { language := .python, output := .ofString "p", reuse := .both },
        { language := .go, output := .ofString "h", reuse := .both }] }
    let sides (name : String) (old new : List (String × Entry)) :
        String × Entry :=
      (name, .directory [("x", .directory [("old", .directory old),
        ("new", .directory new)])])
    let file (name : String) : String × Entry := (name, .file .empty)
    let session : Session := {
      system := {
        top := .directory [sides "g" [file "a.txt"] [file "b.txt"],
          sides "p" [file "c.txt"] [], sides "h" [] [file "d.txt"]]
        working := ⟨.root, []⟩
        home := .ofString "/" } }
    let idle : Generator := fun _ => .done (.exited 0 "" "")
    let entry (files : List Node) : Node :=
      .mk "x.json" .outline [.mk "Generated Output Files" .outline files]
    ∃ result later,
      Run.on (run idle settings) session = (.ok result, later) ∧
      result.diff = some (.mk "Comparison Results" .outline [
        .mk "go" .outline [entry [.removed "a.txt", .added "b.txt"],
          entry [.added "d.txt"]],
        .mk "python" .outline [entry [.removed "c.txt"]]]) ∧
      result.exitCode ≠ 0 ∧
      Node.countIn .removed result.diff =
        (result.specs.map fun found => Node.countIn .removed found.diff).sum := by
  intro settings sides file session idle entry
  have ended : ∃ result later,
      Run.on (run idle settings) session = (.ok result, later) ∧
      result.diff = some (.mk "Comparison Results" .outline [
        .mk "go" .outline [entry [.removed "a.txt", .added "b.txt"],
          entry [.added "d.txt"]],
        .mk "python" .outline [entry [.removed "c.txt"]]]) :=
    ⟨_, _, by cbv, by rfl⟩
  obtain ⟨result, later, ended, differs⟩ := ended
  obtain ⟨_, _, clean, success, _, counts⟩ :=
    run_summarised idle Grammar.treeOf settings session later result ended
  refine ⟨result, later, ended, differs, ?_, counts .removed (.inr rfl)⟩
  rw [Ne, success, ← clean, differs]
  exact Option.some_ne_none _

end Comparison

end SymbolDiff
