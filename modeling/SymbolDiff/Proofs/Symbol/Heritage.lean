import Mathlib.Data.List.Infix
import SymbolDiff.Proofs.Symbol.Agreement

/-!
# Changes of heritage

The names that a class implements or an interface extends are compared as one
text: they are put in order and joined by a separator.  The pieces between the
separators of such a text are those of its names, so two lists of names are
taken for the same exactly when they have the same pieces.  A change can only
go unreported where a name followed by the separator begins another name, or
where an empty list meets a single empty name.
-/

namespace SymbolDiff

namespace Text

/-- What stands between two names of a heritage. -/
def separator : List Char := [',', ' ']

/-- The pieces of a text between its separators. -/
def pieces : List Char → List (List Char)
  | [] => [[]]
  | ',' :: ' ' :: rest => [] :: pieces rest
  | first :: rest => (pieces rest).modifyHead (first :: ·)

theorem pieces_ne_nil (text : List Char) : pieces text ≠ [] := by
  fun_induction pieces text with
  | case1 => simp
  | case2 rest => simp
  | case3 first rest _ induction =>
      cases parts : pieces rest with
      | nil => exact absurd parts induction
      | cons piece others => simp

/-- A separator parts the pieces before it from those behind it: none of its
characters belongs to another separator. -/
theorem pieces_append_separator (before after : List Char) :
    pieces (before ++ separator ++ after) = pieces before ++ pieces after := by
  fun_induction pieces before with
  | case1 => rfl
  | case2 rest induction =>
      rw [List.cons_append, List.cons_append, List.cons_append, List.cons_append,
        pieces, induction, List.cons_append]
  | case3 first rest unseparated induction =>
      -- a comma at the end of the text meets the comma of the separator behind it
      have still : ∀ further, first = ',' →
          rest ++ separator ++ after = ' ' :: further → False := by
        intro further comma blank
        cases rest with
        | nil => cases blank
        | cons second others =>
            injection blank with blank
            exact unseparated others comma (by rw [blank])
      rw [List.cons_append, List.cons_append, pieces.eq_3 _ _ still, induction]
      cases parts : pieces rest with
      | nil => exact absurd parts (pieces_ne_nil rest)
      | cons piece others => rfl

theorem intercalate_pieces (text : List Char) :
    separator.intercalate (pieces text) = text := by
  fun_induction pieces text with
  | case1 => rfl
  | case2 rest induction =>
      rw [List.intercalate_cons_of_ne_nil (pieces_ne_nil rest), induction]
      rfl
  | case3 first rest _ induction =>
      cases parts : pieces rest with
      | nil => exact absurd parts (pieces_ne_nil rest)
      | cons piece others =>
          rw [parts] at induction
          rw [List.modifyHead_cons, List.intercalate_cons_cons_left, induction]

theorem pieces_inj {text other : List Char} :
    pieces text = pieces other ↔ text = other := by
  constructor
  · intro same
    rw [← intercalate_pieces text, same, intercalate_pieces]
  · rintro rfl
    rfl

/-- Joining texts loses nothing but the places where they were joined. -/
theorem pieces_intercalate {texts : List (List Char)} (some : texts ≠ []) :
    pieces (separator.intercalate texts) = texts.flatMap pieces := by
  induction texts with
  | nil => exact absurd rfl some
  | cons text rest induction =>
      cases rest with
      | nil => simp
      | cons next rest =>
          rw [List.intercalate_cons_cons, pieces_append_separator,
            induction (List.cons_ne_nil _ _), ← List.flatMap_cons]

/-- No text followed by the separator begins another. -/
def Separable (texts : List (List Char)) : Prop :=
  ∀ first ∈ texts, ∀ second ∈ texts, ¬first ++ separator <+: second

instance (texts : List (List Char)) : Decidable (Separable texts) :=
  inferInstanceAs (Decidable (∀ first ∈ texts, _))

theorem intercalate_append {firsts seconds : List (List Char)}
    (some : firsts ≠ []) (others : seconds ≠ []) :
    separator.intercalate (firsts ++ seconds) =
      separator.intercalate firsts ++ separator ++
        separator.intercalate seconds := by
  induction firsts with
  | nil => exact absurd rfl some
  | cons first rest induction =>
      cases rest with
      | nil =>
          rw [List.singleton_append, List.intercalate_cons_of_ne_nil others,
            List.intercalate_singleton]
      | cons next rest =>
          rw [List.cons_append, List.intercalate_cons_of_ne_nil (by simp),
            induction (List.cons_ne_nil _ _), List.intercalate_cons_cons]
          simp only [List.append_assoc]

theorem eq_or_prefix_of_pieces {text other : List Char}
    (begins : pieces text <+: pieces other) :
    text = other ∨ text ++ separator <+: other := by
  obtain ⟨further, same⟩ := begins
  cases further with
  | nil =>
      rw [List.append_nil] at same
      exact .inl (pieces_inj.mp same)
  | cons piece further =>
      have joined := intercalate_append (pieces_ne_nil text)
        (List.cons_ne_nil piece further)
      rw [same, intercalate_pieces, intercalate_pieces] at joined
      exact .inr ⟨_, joined.symm⟩

/-- Texts of which none and a separator begin another can be told from their
pieces. -/
theorem Separable.eq_of_flatMap_pieces {texts others : List (List Char)}
    (separable : Separable (texts ++ others))
    (same : texts.flatMap pieces = others.flatMap pieces) : texts = others := by
  induction texts generalizing others with
  | nil =>
      cases others with
      | nil => rfl
      | cons other rest => simp [pieces_ne_nil] at same
  | cons text texts induction =>
      cases others with
      | nil => simp [pieces_ne_nil] at same
      | cons other others =>
          rw [List.flatMap_cons, List.flatMap_cons] at same
          have equal : text = other := by
            have inFirst : text ∈ text :: texts ++ other :: others := by simp
            have inSecond : other ∈ text :: texts ++ other :: others := by simp
            -- the pieces of one of them begin those of the other
            rcases List.prefix_or_prefix_of_prefix
              (same ▸ List.prefix_append (pieces text) _)
              (List.prefix_append (pieces other) _) with begins | begins
            · exact (eq_or_prefix_of_pieces begins).resolve_right
                (separable _ inFirst _ inSecond)
            · exact ((eq_or_prefix_of_pieces begins).resolve_right
                (separable _ inSecond _ inFirst)).symm
          subst equal
          congr
          refine induction ?_ (List.append_cancel_left same)
          intro first firstMember second secondMember
          exact separable first (by grind) second (by grind)

end Text

section Heritage

open Text

/-- The pieces of the names of a heritage, the names in order.  No name at all
counts as one that is empty. -/
def heritagePieces (names : List String) : List (List Char) :=
  match inOrder names with
  | [] => [[]]
  | sorted => sorted.flatMap fun name => pieces name.toList

theorem pieces_heritageText (names : List String) :
    pieces (heritageText names).toList = heritagePieces names := by
  rw [heritageText, heritagePieces, String.toList_intercalate]
  cases inOrder names with
  | nil => rfl
  | cons first rest =>
      have joined := pieces_intercalate
        (List.cons_ne_nil first.toList (rest.map String.toList))
      rw [← List.map_cons, List.flatMap_map] at joined
      exact joined

theorem heritageText_inj (old new : List String) :
    heritageText old = heritageText new ↔
      heritagePieces old = heritagePieces new := by
  rw [← pieces_heritageText, ← pieces_heritageText, pieces_inj,
    String.toList_inj]

theorem perm_inOrder (names : List String) : (inOrder names).Perm names :=
  List.mergeSort_perm names notAfter

theorem heritagePieces_of_ne_nil {names : List String} (some : names ≠ []) :
    heritagePieces names =
      ((inOrder names).map String.toList).flatMap pieces := by
  rw [heritagePieces, List.flatMap_map]
  cases sorted : inOrder names with
  | nil =>
      have empty := perm_inOrder names
      rw [sorted, List.nil_perm] at empty
      exact absurd empty some
  | cons first rest => rfl

theorem heritagePieces_eq_singleton_iff (names : List String) :
    heritagePieces names = [[]] ↔ names = [] ∨ names = [""] := by
  rw [← pieces_heritageText, show [[]] = pieces [] from rfl, pieces_inj]
  constructor
  · intro empty
    have perm := perm_inOrder names
    rw [heritageText, String.toList_intercalate] at empty
    cases sorted : inOrder names with
    | nil =>
        rw [sorted, List.nil_perm] at perm
        exact .inl perm
    | cons first rest =>
        rw [sorted] at empty perm
        cases rest with
        | nil =>
            rw [List.map_singleton, List.intercalate_singleton,
              String.toList_eq_nil_iff] at empty
            rw [empty, List.singleton_perm] at perm
            exact .inr perm.symm
        | cons second rest => simp at empty
  · rintro (rfl | rfl)
    · simp [heritageText, inOrder]
    · simp [heritageText, inOrder]

/-- Where no name followed by the separator begins another, the pieces tell the
names, apart from an empty list and a single empty name. -/
theorem heritagePieces_eq_iff {old new : List String}
    (separable : Separable ((old ++ new).map String.toList)) :
    heritagePieces old = heritagePieces new ↔
      old.Perm new ∨ (old = [] ∧ new = [""]) ∨ (old = [""] ∧ new = []) := by
  have empty : heritagePieces [] = [[]] :=
    (heritagePieces_eq_singleton_iff []).mpr (.inl rfl)
  constructor
  · intro same
    by_cases oldEmpty : old = []
    · subst oldEmpty
      rw [empty, eq_comm, heritagePieces_eq_singleton_iff] at same
      rcases same with rfl | rfl
      · exact .inl .nil
      · exact .inr (.inl ⟨rfl, rfl⟩)
    by_cases newEmpty : new = []
    · subst newEmpty
      rw [empty, heritagePieces_eq_singleton_iff] at same
      exact .inr (.inr ⟨same.resolve_left oldEmpty, rfl⟩)
    rw [heritagePieces_of_ne_nil oldEmpty,
      heritagePieces_of_ne_nil newEmpty] at same
    have sorted : Separable ((inOrder old).map String.toList ++
        (inOrder new).map String.toList) := by
      intro first firstMember second secondMember
      rw [← List.map_append] at firstMember secondMember
      have perm :=
        ((perm_inOrder old).append (perm_inOrder new)).map String.toList
      exact separable first (perm.mem_iff.mp firstMember) second
        (perm.mem_iff.mp secondMember)
    have equal := List.map_injective_iff.mpr (fun _ _ => String.toList_injective)
      (sorted.eq_of_flatMap_pieces same)
    have perm := (perm_inOrder old).symm
    rw [equal] at perm
    exact .inl (perm.trans (perm_inOrder new))
  · rintro (perm | ⟨rfl, rfl⟩ | ⟨rfl, rfl⟩)
    · rw [heritagePieces, inOrder_eq_of_perm perm]
      rfl
    · rw [empty, eq_comm, heritagePieces_eq_singleton_iff]
      exact .inr rfl
    · rw [empty, heritagePieces_eq_singleton_iff]
      exact .inr rfl

end Heritage

section Unreported

theorem map_heritageText_inj (old new : Option (List String)) :
    old.map heritageText = new.map heritageText ↔
      old.map heritagePieces = new.map heritagePieces := by
  cases old with
  | none => cases new <;> simp
  | some old => cases new <;> simp [heritageText_inj]

theorem compareClass_interfaces_eq_none_iff
    (symbol : ClassSymbol) (old new : Option (List String)) :
    (compareClass { symbol with interfaces := old }
        { symbol with interfaces := new }).value = none ↔
      old.map heritagePieces = new.map heritagePieces := by
  rw [compareClass_eq_none_iff, ClassSymbol.agrees_iff, ← map_heritageText_inj]
  simp only [ByName.refl Method.Agrees.refl, ByName.refl Field.Agrees.refl,
    true_and, and_true]

theorem compareInterface_extended_eq_none_iff
    (symbol : InterfaceSymbol) (old new : Option (List String)) :
    (compareInterface { symbol with extended := old }
        { symbol with extended := new }).value = none ↔
      old.map heritagePieces = new.map heritagePieces := by
  rw [compareInterface_eq_none_iff, InterfaceSymbol.agrees_iff,
    ← map_heritageText_inj]
  simp only [ByName.refl Method.Agrees.refl, ByName.refl Field.Agrees.refl,
    true_and, and_true]

/-- A list without names meets a list whose only name is empty. -/
def Nameless (old new : Option (List String)) : Prop :=
  (old = some [] ∧ new = some [""]) ∨ (old = some [""] ∧ new = some [])

theorem map_heritagePieces_eq_iff {old new : Option (List String)}
    (separable : Text.Separable
      ((old.getD [] ++ new.getD []).map String.toList)) :
    old.map heritagePieces = new.map heritagePieces ↔
      Option.Rel List.Perm old new ∨ Nameless old new := by
  cases old with
  | none => cases new <;> simp [Nameless]
  | some old =>
      cases new with
      | none => simp [Nameless]
      | some new =>
          rw [Option.getD_some, Option.getD_some] at separable
          rw [Option.map_some, Option.map_some, Option.some_inj,
            heritagePieces_eq_iff separable]
          simp [Nameless]

/-- A change of heritage alone goes unreported exactly when both lists have the
same pieces.  Where no name followed by the separator begins another, this is
so exactly when both lists are absent, or both are there and one is a
rearrangement of the other, apart from an empty list and a single empty
name. -/
theorem heritage_unreported_iff (old new : Option (List String)) :
    (∀ symbol : ClassSymbol,
      (compareClass { symbol with interfaces := old }
          { symbol with interfaces := new }).value = none ↔
        old.map heritagePieces = new.map heritagePieces) ∧
    (∀ symbol : InterfaceSymbol,
      (compareInterface { symbol with extended := old }
          { symbol with extended := new }).value = none ↔
        old.map heritagePieces = new.map heritagePieces) ∧
    (Text.Separable ((old.getD [] ++ new.getD []).map String.toList) →
      (∀ symbol : ClassSymbol,
        (compareClass { symbol with interfaces := old }
            { symbol with interfaces := new }).value = none ↔
          Option.Rel List.Perm old new ∨ Nameless old new) ∧
      ∀ symbol : InterfaceSymbol,
        (compareInterface { symbol with extended := old }
            { symbol with extended := new }).value = none ↔
          Option.Rel List.Perm old new ∨ Nameless old new) := by
  refine ⟨fun symbol => compareClass_interfaces_eq_none_iff symbol old new,
    fun symbol => compareInterface_extended_eq_none_iff symbol old new, ?_⟩
  intro separable
  have told := map_heritagePieces_eq_iff separable
  constructor
  · intro symbol
    rw [compareClass_interfaces_eq_none_iff, told]
  · intro symbol
    rw [compareInterface_extended_eq_none_iff, told]

/-- Generic names that hold the separator: an argument that changes is
reported, another order is not. -/
theorem heritage_unreported_iff_generic :
    let old := some ["Map<K, V>", "Set<V>"]
    let rearranged := some ["Set<V>", "Map<K, V>"]
    let changed := some ["Map<K, W>", "Set<V>"]
    Text.Separable (((old.getD [] ++ rearranged.getD []) ++
        changed.getD []).map String.toList) ∧
      ∀ symbol : ClassSymbol,
        (compareClass { symbol with interfaces := old }
          { symbol with interfaces := rearranged }).value = none ∧
        (compareClass { symbol with interfaces := old }
          { symbol with interfaces := changed }).value ≠ none := by
  intro old rearranged changed
  refine ⟨by decide, fun symbol => ⟨?_, ?_⟩⟩
  · obtain ⟨_, _, told⟩ := heritage_unreported_iff old rearranged
    rw [(told (by decide)).1]
    exact .inl (Option.Rel.some (by decide))
  · obtain ⟨_, _, told⟩ := heritage_unreported_iff old changed
    rw [Ne, (told (by decide)).1]
    rintro (perm | nameless)
    · exact absurd (Option.rel_some_some.mp perm) (by decide)
    · exact absurd nameless (by simp [Nameless, old])

/-- Two names in place of one that holds the separator: the change goes
unreported. -/
theorem heritage_change_missed :
    ¬∀ (symbol : ClassSymbol) (old new : Option (List String)),
      (compareClass { symbol with interfaces := old }
          { symbol with interfaces := new }).value = none ↔
        Option.Rel List.Perm old new := by
  intro always
  have single : Text.inOrder ["A, B"] = ["A, B"] := List.mergeSort_singleton _
  have both : Text.inOrder ["A", "B"] = ["A", "B"] :=
    List.mergeSort_of_pairwise (by decide)
  have pieces : heritagePieces ["A, B"] = heritagePieces ["A", "B"] := by
    rw [heritagePieces, single, heritagePieces, both]
    decide
  have missed := (compareClass_interfaces_eq_none_iff { name := "C" }
    (some ["A, B"]) (some ["A", "B"])).mpr (congrArg some pieces)
  have perm := (always _ _ _).mp missed
  exact absurd (Option.rel_some_some.mp perm) (by decide)

end Unreported

end SymbolDiff
