/-!
# Texts in order

Texts are listed by code point, and lists of texts by their first difference.
Sorting is stable, so equal texts keep their places.
-/

namespace SymbolDiff.Text

/-- Whether a text may stand before another. -/
def notAfter (first second : String) : Bool :=
  !decide (second < first)

/-- The texts in code point order. -/
def inOrder (texts : List String) : List String :=
  texts.mergeSort notAfter

theorem notAfter_iff (first second : String) :
    notAfter first second = true ↔ ¬second < first := by
  rw [notAfter, Bool.not_eq_true', decide_eq_false_iff_not]

theorem pairwise_inOrder (texts : List String) :
    (inOrder texts).Pairwise fun first second => notAfter first second =
      true := by
  apply List.pairwise_mergeSort
  · intro first second third firstBefore secondBefore
    rw [notAfter_iff] at firstBefore secondBefore ⊢
    exact String.le_trans firstBefore secondBefore
  · intro first second
    rw [Bool.or_eq_true, notAfter_iff, notAfter_iff]
    exact String.le_total first second

/-- The order in which texts are given does not count. -/
theorem inOrder_eq_of_perm {texts others : List String}
    (perm : texts.Perm others) : inOrder texts = inOrder others := by
  have sorted : (inOrder texts).Perm (inOrder others) :=
    (List.mergeSort_perm texts notAfter).trans
      (perm.trans (List.mergeSort_perm others notAfter).symm)
  apply List.Perm.eq_of_pairwise _ (pairwise_inOrder texts)
    (pairwise_inOrder others) sorted
  intro first second _ _ firstBefore secondBefore
  rw [notAfter_iff] at firstBefore secondBefore
  exact String.le_antisymm firstBefore secondBefore

/-- Whether one list of texts stands before another, element by element. -/
def listBefore : List String → List String → Bool
  | [], [] => false
  | [], _ :: _ => true
  | _ :: _, [] => false
  | first :: rest, other :: others =>
    if first < other then true
    else if other < first then false
    else listBefore rest others

/-- The lists of texts in order. -/
def listsInOrder (lists : List (List String)) : List (List String) :=
  lists.mergeSort fun first second => !listBefore second first

end SymbolDiff.Text
