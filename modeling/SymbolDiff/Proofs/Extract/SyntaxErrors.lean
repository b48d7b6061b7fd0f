import SymbolDiff.Extract.Source
import SymbolDiff.Proofs.Tree.DocumentOrder

/-!
# The line of the first syntax error

A tree has an error when some node is one or stands for something that is
missing.  The line that is remarked on comes from a search for error nodes
alone, and from the top of the tree where that search finds nothing.  So it is
the line of the first fault below the top unless something missing comes
before the errors.
-/

namespace SymbolDiff

namespace Tree

/-- A node is an error, or stands for something that is missing. -/
def isFaulty (tree : Tree) : Bool :=
  tree.kind = "ERROR" || tree.head.isMissing

/-- The nodes strictly below the top of a tree, in document order. -/
def descendants (tree : Tree) : List Located :=
  listingEach [tree.kind] tree.children

/-- The first fault below the top of a tree. -/
def firstFault? (tree : Tree) : Option Located :=
  tree.descendants.find? fun node => node.tree.isFaulty

/-- The first error below the top of a tree; what is missing does not count. -/
def firstError? (tree : Tree) : Option Located :=
  tree.descendants.find? fun node => node.kind = "ERROR"

theorem isFaulty_of_kind {tree : Tree} (error : tree.kind = "ERROR") :
    tree.isFaulty = true := by
  simp [isFaulty, error]

theorem listing_nil (tree : Tree) :
    tree.listing [] = .root tree :: tree.descendants :=
  listing_eq [] tree

mutual

theorem hasError_eq_any (ancestors : List String) (tree : Tree) :
    tree.hasError =
      (tree.listing ancestors).any fun node => node.tree.isFaulty := by
  cases tree with
  | node head children =>
      rw [hasError, listing, List.any_cons,
        hasErrorList_eq_any (head.kind :: ancestors) children]
      rfl

theorem hasErrorList_eq_any (ancestors : List String) (trees : List Tree) :
    hasErrorList trees =
      (listingEach ancestors trees).any fun node => node.tree.isFaulty := by
  cases trees with
  | nil => rfl
  | cons tree rest =>
      rw [hasErrorList, listingEach, List.any_append,
        hasError_eq_any ancestors tree, hasErrorList_eq_any ancestors rest]

end

theorem hasError_iff (tree : Tree) :
    tree.hasError = true ↔
      ∃ node ∈ tree.listing [], node.tree.isFaulty = true := by
  rw [tree.hasError_eq_any [], List.any_eq_true]

theorem firstError?_of_firstFault? {tree : Tree} {first : Located}
    (found : tree.firstFault? = some first) (error : first.kind = "ERROR") :
    tree.firstError? = some first := by
  obtain ⟨_, before, after, split, earlier⟩ :=
    List.find?_eq_some_iff_append.mp found
  refine List.find?_eq_some_iff_append.mpr
    ⟨decide_eq_true error, before, after, split, ?_⟩
  intro node member
  have sound := earlier node member
  simp only [isFaulty, Bool.not_eq_true', Bool.or_eq_false_iff] at sound
  rw [Located.kind, sound.1, Bool.not_false]

theorem firstError?_eq_none {tree : Tree} (sound : tree.firstFault? = none) :
    tree.firstError? = none := by
  rw [firstFault?, List.find?_eq_none] at sound
  rw [firstError?, List.find?_eq_none]
  intro node member error
  exact sound node member (isFaulty_of_kind (of_decide_eq_true error))

end Tree

namespace Extract

theorem firstErrorLine_eq (source : ByteArray) (tree : Tree) :
    firstErrorLine source tree =
      if tree.hasError then
        some ((tree.firstError?.getD (.root tree)).tree.line source)
      else none := by
  have searched : (Located.root tree).descendantsOfKind ["ERROR"] =
      tree.descendants.filter fun node => node.kind = "ERROR" :=
    Located.descendantsOfKind_singleton _ _
  rw [firstErrorLine, searched, Tree.firstError?, ← List.head?_filter]
  split
  · cases tree.descendants.filter fun node => node.kind = "ERROR" with
    | nil => rfl
    | cons found rest => rfl
  · rfl

theorem firstErrorLine_eq_none_iff (source : ByteArray) (tree : Tree) :
    firstErrorLine source tree = none ↔
      ∀ node ∈ tree.listing [], node.tree.isFaulty = false := by
  rw [firstErrorLine_eq, tree.hasError_eq_any []]
  simp

theorem firstErrorLine_of_firstError? (source : ByteArray) {tree : Tree}
    {error : Located} (found : tree.firstError? = some error) :
    firstErrorLine source tree = some (error.tree.line source) := by
  have picked := List.find?_some found
  have faulty : tree.hasError = true := by
    rw [tree.hasError_iff, tree.listing_nil]
    exact ⟨error, List.mem_cons_of_mem _ (List.mem_of_find?_eq_some found),
      Tree.isFaulty_of_kind (of_decide_eq_true picked)⟩
  rw [firstErrorLine_eq, if_pos faulty, found, Option.getD_some]

/-- There is a line exactly when some node is at fault, and extraction then
makes one remark, on that line.  It is the line of the first error below the
top, and without such an error that of the top.  So it is the line of the first
fault below the top where that fault is an error, and the line of the top where
the top alone is at fault. -/
theorem firstErrorLine_exact (source : ByteArray) (tree : Tree) :
    (firstErrorLine source tree = none ↔
      ∀ node ∈ tree.listing [], node.tree.isFaulty = false) ∧
    (∀ error, tree.firstError? = some error →
      firstErrorLine source tree = some (error.tree.line source)) ∧
    (tree.firstError? = none →
      (∃ node ∈ tree.listing [], node.tree.isFaulty = true) →
      firstErrorLine source tree = some (tree.line source)) ∧
    (∀ first, tree.firstFault? = some first → first.kind = "ERROR" →
      firstErrorLine source tree = some (first.tree.line source)) ∧
    (tree.firstFault? = none → tree.isFaulty = true →
      firstErrorLine source tree = some (tree.line source)) ∧
    ∀ dialect, (ofTree dialect source tree).remarks =
      (firstErrorLine source tree).toList.map (.syntaxError dialect) := by
  have atTop : tree.firstError? = none →
      (∃ node ∈ tree.listing [], node.tree.isFaulty = true) →
      firstErrorLine source tree = some (tree.line source) := by
    intro none faulty
    rw [firstErrorLine_eq, if_pos (tree.hasError_iff.mpr faulty), none]
    rfl
  refine ⟨firstErrorLine_eq_none_iff source tree, ?_, atTop, ?_, ?_, ?_⟩
  · intro error found
    exact firstErrorLine_of_firstError? source found
  · intro first found error
    exact firstErrorLine_of_firstError? source
      (Tree.firstError?_of_firstFault? found error)
  · intro sound faulty
    refine atTop (Tree.firstError?_eq_none sound) ⟨.root tree, ?_, faulty⟩
    rw [tree.listing_nil]
    exact List.mem_cons_self
  · intro dialect
    rw [ofTree]
    cases firstErrorLine source tree with
    | none => rfl
    | some line => rfl

/-- An error inside a call on the second line, and something missing behind it
on the third. -/
theorem firstErrorLine_exact_before_missing :
    let error : Tree := .node { kind := "ERROR", start := 2, stop := 3 } []
    let missing : Tree :=
      .node { kind := ";", start := 4, stop := 4, isMissing := true } []
    let tree : Tree := .node { kind := "program", start := 0, stop := 4 }
      [.node { kind := "call", start := 2, stop := 3 } [error], missing]
    let source := "a\nb\n".toUTF8
    tree.firstFault? = some ⟨error, ["call", "program"]⟩ ∧
      firstErrorLine source tree = some 2 ∧
      (ofTree .typescript source tree).remarks =
        [.syntaxError .typescript 2] := by
  intro error missing tree source
  have found : tree.firstFault? = some ⟨error, ["call", "program"]⟩ := by rfl
  obtain ⟨_, _, _, named, _, remarked⟩ := firstErrorLine_exact source tree
  have line := named _ found rfl
  have second : error.line source = 2 := by decide +kernel
  rw [second] at line
  exact ⟨found, line, by rw [remarked, line]; rfl⟩

/-- Something missing on the third line is the only fault below the top, and
the line of the top is given. -/
theorem missing_node_unnamed :
    ¬∀ (source : ByteArray) (tree : Tree) (first : Located),
      tree.firstFault? = some first →
        firstErrorLine source tree = some (first.tree.line source) := by
  intro always
  let missing : Tree :=
    .node { kind := ";", start := 2, stop := 2, isMissing := true } []
  let tree : Tree := .node { kind := "program", start := 0, stop := 3 } [missing]
  have third : missing.line "\n\nx".toUTF8 = 3 := by decide +kernel
  have given : firstErrorLine "\n\nx".toUTF8 tree = some 1 := by decide +kernel
  have named := always "\n\nx".toUTF8 tree ⟨missing, ["program"]⟩ rfl
  rw [given, third] at named
  cases named

end Extract

end SymbolDiff
