import SymbolDiff.CommandLine.Segment

/-!
# Words and the segments they belong to

A command line falls apart at its marks: into the words before the first mark
and one block for each mark, in a single way.  Whom a word is meant for depends
on the last mark before it alone, however often the marks are repeated, and so
every word that is no mark ends up with exactly one recipient, in order.
-/

namespace SymbolDiff.CommandLine

inductive Mark where
  | old
  | new
  deriving DecidableEq

namespace Mark

def word : Mark → String
  | .old => oldMark
  | .new => newMark

def recipient : Mark → Recipient
  | .old => .old
  | .new => .new

theorem recipient_ne_program (mark : Mark) : mark.recipient ≠ .program := by
  cases mark with
  | old => decide
  | new => decide

/-- The mark that a word is. -/
def of? (word : String) : Option Mark :=
  if word = oldMark then some .old
  else if word = newMark then some .new
  else none

@[simp] theorem of?_word (mark : Mark) : of? mark.word = some mark := by
  cases mark with
  | old => rfl
  | new => rfl

theorem of?_eq_some_iff {word : String} {mark : Mark} :
    of? word = some mark ↔ word = mark.word := by
  constructor
  · intro isMark
    unfold of? at isMark
    split at isMark
    · rename_i same
      cases isMark
      exact same
    · split at isMark
      · rename_i same
        cases isMark
        exact same
      · cases isMark
  · rintro rfl
    exact of?_word mark

theorem of?_eq_none_iff {word : String} :
    of? word = none ↔ word ≠ oldMark ∧ word ≠ newMark := by
  unfold of?
  split
  · simp [*]
  · split
    · simp [*]
    · simp [*]

end Mark

/-- None of some words is a mark. -/
def Unmarked (words : List String) : Prop :=
  ∀ word ∈ words, Mark.of? word = none

instance (words : List String) : Decidable (Unmarked words) :=
  inferInstanceAs (Decidable (∀ word ∈ words, Mark.of? word = none))

/-- A mark and the words behind it. -/
structure Block where
  mark : Mark
  words : List String

def Block.written (block : Block) : List String :=
  block.mark.word :: block.words

/-- Words fall apart into those before the first mark and one block for each
mark; none of the parts holds another mark, so none can be made longer. -/
structure FallsApart (words front : List String) (blocks : List Block) :
    Prop where
  whole : words = front ++ blocks.flatMap Block.written
  front : Unmarked front
  blocks : ∀ block ∈ blocks, Unmarked block.words

/-- All words of the blocks for a recipient. -/
def wordsFor (recipient : Recipient) (blocks : List Block) : List String :=
  (blocks.filter fun block => block.mark.recipient = recipient).flatMap
    Block.words

/-- The words of a recipient. -/
def Segments.wordsOf (segments : Segments) : Recipient → List String
  | .program => segments.program
  | .old => segments.old
  | .new => segments.new

/-- Whom the next word is meant for: the last mark decides. -/
def recipientAfter (start : Recipient) (before : List String) : Recipient :=
  ((before.filterMap Mark.of?).getLast?.map Mark.recipient).getD start

namespace FallsApart

variable {words front : List String} {blocks : List Block} {word : String}

theorem plain (unmarked : Mark.of? word = none)
    (apart : FallsApart words front blocks) :
    FallsApart (word :: words) (word :: front) blocks where
  whole := congrArg (word :: ·) apart.whole
  front := List.forall_mem_cons.mpr ⟨unmarked, apart.front⟩
  blocks := apart.blocks

theorem marked (mark : Mark) (apart : FallsApart words front blocks) :
    FallsApart (mark.word :: words) [] (⟨mark, front⟩ :: blocks) where
  whole := by simp [Block.written, apart.whole]
  front := by simp [Unmarked]
  blocks := List.forall_mem_cons.mpr ⟨apart.front, apart.blocks⟩

/-- No words fall apart into nothing. -/
theorem of_nil (apart : FallsApart [] front blocks) :
    front = [] ∧ blocks = [] := by
  obtain ⟨empty, rest⟩ := List.append_eq_nil_iff.mp apart.whole.symm
  refine ⟨empty, ?_⟩
  cases blocks with
  | nil => rfl
  | cons block others => cases rest

/-- The first of some words stands before all marks, or opens the first
block. -/
theorem of_cons (apart : FallsApart (word :: words) front blocks) :
    (Mark.of? word = none ∧
      ∃ others, front = word :: others ∧ FallsApart words others blocks) ∨
    ∃ mark others later, word = mark.word ∧ front = [] ∧
      blocks = ⟨mark, others⟩ :: later ∧ FallsApart words others later := by
  obtain ⟨whole, inFront, inBlocks⟩ := apart
  cases front with
  | cons first others =>
      cases whole
      obtain ⟨unmarked, rest⟩ := List.forall_mem_cons.mp inFront
      exact .inl ⟨unmarked, others, rfl, rfl, rest, inBlocks⟩
  | nil =>
      cases blocks with
      | nil => cases whole
      | cons block later =>
          obtain ⟨mark, others⟩ := block
          obtain ⟨first, rest⟩ := List.forall_mem_cons.mp inBlocks
          cases whole
          exact .inr ⟨mark, others, later, rfl, rfl, rfl, rfl, first, rest⟩

theorem unique {other : List String} {others : List Block}
    (apart : FallsApart words front blocks)
    (again : FallsApart words other others) :
    other = front ∧ others = blocks := by
  induction words generalizing front blocks other others with
  | nil =>
      obtain ⟨rfl, rfl⟩ := apart.of_nil
      exact again.of_nil
  | cons word rest induction =>
      rcases apart.of_cons with
        ⟨unmarked, first, rfl, following⟩ |
        ⟨mark, first, later, rfl, rfl, rfl, following⟩
      · rcases again.of_cons with
          ⟨_, second, rfl, repeated⟩ | ⟨other, _, _, rfl, _⟩
        · obtain ⟨rfl, rfl⟩ := induction following repeated
          exact ⟨rfl, rfl⟩
        · rw [Mark.of?_word] at unmarked
          cases unmarked
      · rcases again.of_cons with
          ⟨unmarked, _⟩ | ⟨other, second, more, same, rfl, rfl, repeated⟩
        · rw [Mark.of?_word] at unmarked
          cases unmarked
        · obtain ⟨rfl, rfl⟩ := induction following repeated
          have marks := congrArg Mark.of? same
          rw [Mark.of?_word, Mark.of?_word] at marks
          cases marks
          exact ⟨rfl, rfl⟩

theorem front_eq (apart : FallsApart words front blocks) :
    front = words.takeWhile fun word => Mark.of? word = none := by
  induction words generalizing front blocks with
  | nil => exact apart.of_nil.1
  | cons word rest induction =>
      rcases apart.of_cons with
        ⟨unmarked, others, rfl, following⟩ | ⟨mark, _, _, rfl, rfl, _⟩
      · rw [List.takeWhile_cons_of_pos (by simpa using unmarked),
          ← induction following]
      · rw [List.takeWhile_cons_of_neg (by simp)]

end FallsApart

theorem exists_fallsApart (words : List String) :
    ∃ front blocks, FallsApart words front blocks := by
  induction words with
  | nil => exact ⟨[], [], rfl, by simp [Unmarked], by simp⟩
  | cons word rest induction =>
      obtain ⟨front, blocks, apart⟩ := induction
      cases found : Mark.of? word with
      | none => exact ⟨word :: front, blocks, apart.plain found⟩
      | some mark =>
          rw [Mark.of?_eq_some_iff.mp found]
          exact ⟨[], ⟨mark, front⟩ :: blocks, apart.marked mark⟩

section Walk

variable {start recipient : Recipient} {word : String}

/-- One step of the walk: a word goes to the recipient of the moment, and a mark
changes the recipient and goes to nobody. -/
theorem segmentsFrom_cons (start : Recipient) (word : String)
    (rest : List String) :
    segmentsFrom start (word :: rest) =
      match Mark.of? word with
      | none => (segmentsFrom start rest).prepend word start
      | some mark => segmentsFrom mark.recipient rest := by
  rw [segmentsFrom, Mark.of?]
  split
  · rfl
  · split
    · rfl
    · rfl

theorem wordsOf_prepend (segments : Segments) (word : String)
    (start recipient : Recipient) :
    (segments.prepend word start).wordsOf recipient =
      if recipient = start then word :: segments.wordsOf recipient
      else segments.wordsOf recipient := by
  cases start <;> cases recipient <;> rfl

/-- A walk gives its first recipient the words before the first mark, and each
recipient the words of its blocks. -/
theorem FallsApart.wordsOf_segmentsFrom {words front : List String}
    {blocks : List Block} (apart : FallsApart words front blocks)
    (start recipient : Recipient) :
    (segmentsFrom start words).wordsOf recipient =
      (if recipient = start then front else []) ++ wordsFor recipient blocks := by
  induction words generalizing front blocks start with
  | nil =>
      obtain ⟨rfl, rfl⟩ := apart.of_nil
      cases recipient <;> simp [segmentsFrom, Segments.wordsOf, wordsFor]
  | cons word rest induction =>
      rw [segmentsFrom_cons]
      rcases apart.of_cons with
        ⟨unmarked, others, rfl, following⟩ |
        ⟨mark, others, later, rfl, rfl, rfl, following⟩
      · rw [unmarked]
        dsimp only
        rw [wordsOf_prepend, induction following]
        split
        · rfl
        · rfl
      · rw [Mark.of?_word]
        dsimp only
        rw [induction following, wordsFor, wordsFor, List.filter_cons]
        by_cases same : recipient = mark.recipient
        · simp [same]
        · simp [same, Ne.symm same]

theorem FallsApart.segments_eq {words front : List String} {blocks : List Block}
    (apart : FallsApart words front blocks) :
    segments words =
      { program := front
        old := wordsFor .old blocks
        new := wordsFor .new blocks } := by
  have program := apart.wordsOf_segmentsFrom .program .program
  have old := apart.wordsOf_segmentsFrom .program .old
  have new := apart.wordsOf_segmentsFrom .program .new
  have none : wordsFor .program blocks = [] := by
    simp [wordsFor, Mark.recipient_ne_program]
  rw [none] at program
  simp only [Segments.wordsOf, reduceCtorEq, if_true, if_false, List.nil_append,
    List.append_nil] at program old new
  rw [segments, ← program, ← old, ← new]

@[simp] theorem recipientAfter_nil (start : Recipient) :
    recipientAfter start [] = start :=
  rfl

theorem recipientAfter_cons (start : Recipient) (word : String)
    (before : List String) :
    recipientAfter start (word :: before) =
      match Mark.of? word with
      | none => recipientAfter start before
      | some mark => recipientAfter mark.recipient before := by
  unfold recipientAfter
  cases found : Mark.of? word with
  | none => rw [List.filterMap_cons_none found]
  | some mark =>
      rw [List.filterMap_cons_some found, List.getLast?_cons]
      cases (before.filterMap Mark.of?).getLast? with
      | none => rfl
      | some last => rfl

/-- Word by word: what a recipient gets are the words that are no marks and
whose last mark before them is its own. -/
theorem wordsOf_segmentsFrom_eq_filter (words : List String)
    (start recipient : Recipient) :
    (segmentsFrom start words).wordsOf recipient =
      ((words.zipIdx).filter fun entry =>
        Mark.of? entry.1 = none ∧
          recipientAfter start (words.take entry.2) = recipient).map
            Prod.fst := by
  induction words generalizing start with
  | nil => cases recipient <;> rfl
  | cons word rest induction =>
      have shifted (from' : Recipient)
          (same : ∀ before, recipientAfter start (word :: before) =
            recipientAfter from' before) :
          ((rest.zipIdx 1).filter fun entry =>
            Mark.of? entry.1 = none ∧
              recipientAfter start ((word :: rest).take entry.2) =
                recipient).map Prod.fst =
            (segmentsFrom from' rest).wordsOf recipient := by
        rw [induction, List.zipIdx_succ, List.filter_map, List.map_map]
        simp [Function.comp_def, same]
      rw [segmentsFrom_cons, List.zipIdx_cons, List.filter_cons]
      cases found : Mark.of? word with
      | none =>
          have later := shifted start fun before => by
            rw [recipientAfter_cons, found]
          dsimp only
          rw [wordsOf_prepend, ← later]
          by_cases same : recipient = start
          · rw [if_pos same, if_pos (by simp [same]), List.map_cons]
          · rw [if_neg same, if_neg (by simp [Ne.symm same])]
      | some mark =>
          have later := shifted mark.recipient fun before => by
            rw [recipientAfter_cons, found]
          rw [if_neg (by simp), later]

end Walk

theorem fallsApart_pair {front first second : List String} (mark other : Mark)
    (inFront : Unmarked front) (inFirst : Unmarked first)
    (inSecond : Unmarked second) :
    FallsApart (front ++ [mark.word] ++ first ++ [other.word] ++ second) front
      [⟨mark, first⟩, ⟨other, second⟩] where
  whole := by simp [Block.written]
  front := inFront
  blocks := by simp [inFirst, inSecond]

/-- Every command line falls apart in exactly one way into the words before the
first mark, which are those for the program, and the blocks behind the marks,
which are joined in order for the old and the new generation.  A word that is
no mark goes to the one recipient of the last mark before it.  Words that are
put behind marks come back, whichever of the marks stands first. -/
theorem segments_partition (words : List String) :
    (∃ front blocks, FallsApart words front blocks ∧
      (∀ other others, FallsApart words other others →
        other = front ∧ others = blocks) ∧
      segments words =
        { program := front
          old := wordsFor .old blocks
          new := wordsFor .new blocks }) ∧
    ((segments words).program =
      words.takeWhile fun word => word ≠ oldMark ∧ word ≠ newMark) ∧
    (∀ recipient, (segments words).wordsOf recipient =
      (words.zipIdx.filter fun entry =>
        Mark.of? entry.1 = none ∧
          recipientAfter .program (words.take entry.2) = recipient).map
            Prod.fst) ∧
    ∀ program old new, Unmarked program → Unmarked old → Unmarked new →
      segments (program ++ [oldMark] ++ old ++ [newMark] ++ new) =
          ⟨program, old, new⟩ ∧
        segments (program ++ [newMark] ++ new ++ [oldMark] ++ old) =
          ⟨program, old, new⟩ := by
  obtain ⟨front, blocks, apart⟩ := exists_fallsApart words
  refine ⟨⟨front, blocks, apart, fun _ _ again => apart.unique again,
    apart.segments_eq⟩, ?_, ?_, ?_⟩
  · simp only [apart.segments_eq, apart.front_eq, Mark.of?_eq_none_iff]
  · exact wordsOf_segmentsFrom_eq_filter words .program
  · intro program old new inProgram inOld inNew
    have oldFirst := fallsApart_pair .old .new inProgram inOld inNew
    have newFirst := fallsApart_pair .new .old inProgram inNew inOld
    constructor
    · exact oldFirst.segments_eq.trans (by simp [wordsFor, Mark.recipient])
    · exact newFirst.segments_eq.trans (by simp [wordsFor, Mark.recipient])

/-- Marks that are repeated and mixed, and what was put behind them in one go.
-/
theorem segments_partition_repeated :
    let words :=
      ["compare", "--old-args", "a", "--new-args", "b", "--old-args", "c"]
    Unmarked ["compare"] ∧ Unmarked ["a", "c"] ∧ Unmarked ["b"] ∧
      segments words = ⟨["compare"], ["a", "c"], ["b"]⟩ ∧
      segments (["compare"] ++ [newMark] ++ ["b"] ++ [oldMark] ++ ["a", "c"]) =
        segments words := by
  intro words
  have program : Unmarked ["compare"] := by decide
  have old : Unmarked ["a", "c"] := by decide
  have new : Unmarked ["b"] := by decide
  have repeated : segments words = ⟨["compare"], ["a", "c"], ["b"]⟩ := by decide
  obtain ⟨_, _, _, back⟩ := segments_partition words
  refine ⟨program, old, new, repeated, ?_⟩
  rw [repeated]
  exact (back _ _ _ program old new).2

end SymbolDiff.CommandLine
