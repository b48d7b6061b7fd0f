import SymbolDiff.Proofs.Listing.Order

/-!
# Reading paths

A path is read by taking its text apart at the slashes.  The names that come
out hold no slash, and names that were joined with slashes come out again.
-/

namespace SymbolDiff

namespace Path

theorem splitAt_eq_splitOn (separator : Char) (text : List Char) :
    splitAt separator text = text.splitOn separator := by
  induction text with
  | nil => rfl
  | cons first rest induction =>
      rw [splitAt, List.splitOn_cons_eq_if_modifyHead, induction]
      by_cases here : first = separator
      · simp [here]
      · rw [if_neg here, if_neg (by simpa using here)]
        cases parts : rest.splitOn separator with
        | nil => exact absurd parts (List.splitOn_ne_nil separator rest)
        | cons current following => rfl

theorem separator_notMem_of_mem_splitAt {separator : Char} {text part : List Char}
    (member : part ∈ splitAt separator text) : separator ∉ part := by
  induction text generalizing part with
  | nil =>
      rw [splitAt, List.mem_singleton] at member
      simp [member]
  | cons first rest induction =>
      rw [splitAt] at member
      by_cases here : first = separator
      · rw [if_pos here, List.mem_cons] at member
        rcases member with rfl | later
        · simp
        · exact induction later
      · rw [if_neg here] at member
        split at member
        · rw [List.mem_singleton] at member
          simp [member, Ne.symm here]
        · rename_i current following parts
          rw [parts] at induction
          rcases List.mem_cons.mp member with rfl | later
          · have inner := induction List.mem_cons_self
            simp [inner, Ne.symm here]
          · exact induction (List.mem_cons_of_mem current later)

theorem slash_notMem_names (text : String) {name : String}
    (member : name ∈ (ofString text).names) : '/' ∉ name.toList := by
  obtain ⟨part, kept, rfl⟩ := List.mem_map.mp member
  rw [String.toList_ofList]
  exact separator_notMem_of_mem_splitAt (List.mem_of_mem_filter kept)

theorem slash_notMem_stem (text : String) :
    '/' ∉ (ofString text).stem.toList := by
  rw [stem, String.toList_ofList]
  intro member
  have inName : '/' ∈ (ofString text).name.toList := List.mem_of_mem_take member
  rw [name] at inName
  cases last : (ofString text).names.getLast? with
  | none => simp [last] at inName
  | some name =>
      rw [last] at inName
      exact slash_notMem_names text (List.mem_of_getLast? last) inName

theorem anchorOf_of_head {text : List Char} (start : text.head? ≠ some '/') :
    anchorOf text = .relative := by
  cases text with
  | nil => rfl
  | cons first rest =>
      have other : first ≠ '/' := fun slash => start (congrArg some slash)
      simp [anchorOf, other]

theorem anchor_of_slashless {text : String} (slashless : '/' ∉ text.toList) :
    (ofString text).anchor = .relative := by
  apply anchorOf_of_head
  intro start
  exact slashless (List.mem_of_head? start)

/-- Names that are joined with slashes are read back. -/
theorem ofString_posix {names : List String} (some : names ≠ [])
    (areNames : ∀ name ∈ names, Entry.IsName name) :
    ofString (posix names) = ⟨.relative, names⟩ := by
  have noSlash : ∀ name ∈ names, '/' ∉ name.toList := fun name member =>
    (areNames name member).2.2.2
  have parts : splitAt '/' (posix names).toList = names.map String.toList := by
    rw [splitAt_eq_splitOn, splitOn_posix some noSlash]
  have read : namesOf (posix names).toList = names := by
    have kept : (names.map String.toList).filter
        (fun name => !name.isEmpty && name ≠ ['.']) =
          names.map String.toList := by
      rw [List.filter_eq_self]
      intro part member
      obtain ⟨name, inNames, rfl⟩ := List.mem_map.mp member
      obtain ⟨notEmpty, notDot, _⟩ := areNames name inNames
      have differs : name.toList ≠ ['.'] := fun same =>
        notDot (String.toList_injective same)
      simpa [differs] using notEmpty
    rw [namesOf, parts, kept, List.map_map]
    exact List.map_id'' (fun name => String.ofList_toList) names
  have anchor : anchorOf (posix names).toList = .relative := by
    apply anchorOf_of_head
    intro start
    -- a leading slash would leave an empty name before it
    obtain ⟨rest, text⟩ := List.head?_eq_some_iff.mp start
    rw [text, splitAt, if_pos rfl] at parts
    have empty : [] ∈ names.map String.toList := parts ▸ List.mem_cons_self
    obtain ⟨name, member, blank⟩ := List.mem_map.mp empty
    exact (areNames name member).1 (String.toList_injective blank)
  rw [ofString, read, anchor]

theorem ofString_of_isName {name : String} (isName : Entry.IsName name) :
    ofString name = ⟨.relative, [name]⟩ := by
  have read := ofString_posix (List.cons_ne_nil name []) fun other member => by
    rw [List.mem_singleton.mp member]
    exact isName
  have single : posix [name] = name := by
    simp [posix]
  rwa [single] at read

end Path

end SymbolDiff
