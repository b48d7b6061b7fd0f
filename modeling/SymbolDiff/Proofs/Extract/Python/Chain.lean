import SymbolDiff.Proofs.Extract.Python.Unseen
import SymbolDiff.Proofs.Extract.Required

/-!
# Chains of assignments

In `a = b = value` the right side of one assignment is the next one.  The
loop that reads such a chain is here taken apart into the list of its
assignments, what each of them binds on its own, and the value at its end.
What is asked of a chain is then asked of each assignment in it.
-/

namespace SymbolDiff.Extract.Python

open Outcome

/-- The assignments of a chain, the outermost first. -/
def chain (assignment : Tree) : List Tree :=
  match _found : assignment.child? "right" with
  | none => [assignment]
  | some right =>
    if right.kind = "assignment" then assignment :: chain right
    else [assignment]
termination_by assignment.size
decreasing_by exact size_lt_of_child? _found

/-- The value that the targets of a chain share: what stands right of the last
assignment. -/
def sharedValue? (assignment : Tree) : Option Tree :=
  (chain assignment).getLast?.bind fun last => last.child? "right"

/-- The name that an assignment binds by itself, if its target is a name. -/
def targetLink (source : ByteArray) (assignment : Tree) :
    Except Fault (List Link) := do
  let left ← requireChild source assignment "left"
  ownLink source left assignment

theorem chain_eq (assignment : Tree) :
    chain assignment =
      match assignment.child? "right" with
      | none => [assignment]
      | some right =>
          if right.kind = "assignment" then assignment :: chain right
          else [assignment] := by
  rw [chain]
  split <;> rename_i found
  · rw [found]
  · rw [found]

theorem chain_of_link {assignment right : Tree}
    (found : assignment.child? "right" = some right)
    (further : right.kind = "assignment") :
    chain assignment = assignment :: chain right := by
  rw [chain_eq, found]
  exact if_pos further

theorem chain_of_value {assignment right : Tree}
    (found : assignment.child? "right" = some right)
    (ends : ¬right.kind = "assignment") :
    chain assignment = [assignment] := by
  rw [chain_eq, found]
  exact if_neg ends

theorem chain_of_none {assignment : Tree}
    (bare : assignment.child? "right" = none) :
    chain assignment = [assignment] := by
  rw [chain_eq, bare]

theorem head?_chain (assignment : Tree) :
    (chain assignment).head? = some assignment := by
  rw [chain_eq]
  split
  · rfl
  · split
    · rfl
    · rfl

theorem sharedValue?_of_link {assignment right : Tree}
    (found : assignment.child? "right" = some right)
    (further : right.kind = "assignment") :
    sharedValue? assignment = sharedValue? right := by
  have some : chain right ≠ [] := by
    intro empty
    have first := head?_chain right
    rw [empty] at first
    cases first
  rw [sharedValue?, chain_of_link found further,
    List.getLast?_cons_of_ne_nil some, sharedValue?]

/-- Reading a chain begins with what its first assignment binds. -/
private theorem assignmentLinks_eq_target (source : ByteArray)
    (assignment : Tree) :
    assignmentLinks source assignment =
      targetLink source assignment >>= fun own =>
        match assignment.child? "right" with
        | none => .ok (own, none)
        | some right =>
            if right.kind = "assignment" then
              (assignmentLinks source right).map
                fun further => (own ++ further.1, further.2)
            else .ok (own, some right) := by
  rw [assignmentLinks_eq, targetLink]
  cases requireChild source assignment "left" with
  | error fault => rfl
  | ok left => rfl

/-- Reading a chain reads its assignments one after the other. -/
theorem assignmentLinks_eq_chain (source : ByteArray) (assignment : Tree) :
    assignmentLinks source assignment =
      ((chain assignment).mapM (targetLink source)).map
        fun links => (links.flatten, sharedValue? assignment) := by
  induction assignment using chain.induct with
  | case1 assignment bare =>
      rw [assignmentLinks_eq_target, sharedValue?, chain_of_none bare,
        List.mapM_cons, List.mapM_nil]
      cases targetLink source assignment with
      | error fault => rfl
      | ok own => simp [bare]
  | case2 assignment right found further induction =>
      rw [assignmentLinks_eq_target, sharedValue?_of_link found further,
        chain_of_link found further, List.mapM_cons]
      simp only [found, if_pos further, induction]
      cases targetLink source assignment with
      | error fault => rfl
      | ok own =>
          cases (chain right).mapM (targetLink source) with
          | error fault => rfl
          | ok links => simp
  | case3 assignment right found ends =>
      rw [assignmentLinks_eq_target, sharedValue?, chain_of_value found ends,
        List.mapM_cons, List.mapM_nil]
      cases targetLink source assignment with
      | error fault => rfl
      | ok own => simp [found, ends]

/-- The assignments of a chain stand where its first one stands. -/
theorem inside_of_mem_chain {file assignment : Tree}
    (inside : assignment.Inside file) :
    ∀ link ∈ chain assignment, link.Inside file := by
  induction assignment using chain.induct with
  | case1 assignment bare =>
      rw [chain_of_none bare]
      exact List.forall_mem_singleton.mpr inside
  | case2 assignment right found further induction =>
      rw [chain_of_link found further]
      have later := induction (inside.child? "right" right found)
      exact List.forall_mem_cons.mpr ⟨inside, later⟩
  | case3 assignment right found ends =>
      rw [chain_of_value found ends]
      exact List.forall_mem_singleton.mpr inside

theorem inside_of_mem_sharedValue? {file assignment : Tree}
    (inside : assignment.Inside file) :
    ∀ value ∈ sharedValue? assignment, value.Inside file := by
  intro value shared
  rw [sharedValue?, Option.mem_def, Option.bind_eq_some_iff] at shared
  obtain ⟨last, ends, right⟩ := shared
  have here := inside_of_mem_chain inside last (List.mem_of_getLast? ends)
  exact here.child? "right" value right

/-- What an assignment of the module adds, once its chain has been read. -/
def recordLinks (source : ByteArray) (assignment : Tree)
    (read : List Link × Option Tree) :
    Except Fault (List TypeAlias × List Variable) := do
  if read.1.isEmpty then return ([], [])
  if ← isAliasAssignment source assignment then
    let type ← extractAliasAssignment source assignment
    return ([type], [])
  else
    let bound ← read.1.mapM (extractVariable source read.2)
    return ([], bound)

theorem extractBinding_of_statement (source : ByteArray) {node : Located}
    (statement : node.kind = "type_alias_statement")
    (atTop : node.parentKind? = some rootKind) :
    extractBinding source node =
      (extractAliasStatement source node.tree).map fun type => ([type], []) := by
  rw [extractBinding, if_pos statement, if_pos atTop]

theorem extractBinding_of_assignment (source : ByteArray) {node : Located}
    (assignment : node.kind ≠ "type_alias_statement")
    (inModule : node.grandparentKind? = some rootKind) :
    extractBinding source node =
      assignmentLinks source node.tree >>= recordLinks source node.tree := by
  have isModule : isModuleAssignment node = true := by
    rw [isModuleAssignment, inModule]
    rfl
  rw [extractBinding, if_neg assignment, if_pos isModule]
  rfl

theorem assignment_of_mem_targetLink {source : ByteArray} {assignment : Tree}
    {own : List Link} (bound : targetLink source assignment = .ok own) :
    ∀ link ∈ own, link.assignment = assignment := by
  intro link member
  obtain ⟨left, _, bound⟩ := bind_eq_ok_iff.mp bound
  rw [ownLink] at bound
  split at bound
  · obtain ⟨name, _, rfl⟩ := map_eq_ok_iff.mp bound
    rw [List.mem_singleton.mp member]
  · cases bound
    cases member

/-- What a chain is read to stands where the chain stands. -/
theorem inside_of_assignmentLinks {source : ByteArray} {file assignment : Tree}
    (inside : assignment.Inside file) {links : List Link}
    {value : Option Tree}
    (read : assignmentLinks source assignment = .ok (links, value)) :
    (∀ link ∈ links, link.assignment.Inside file) ∧
      ∀ shared ∈ value, shared.Inside file := by
  rw [assignmentLinks_eq_chain] at read
  obtain ⟨bound, each, same⟩ := map_eq_ok_iff.mp read
  cases same
  refine ⟨?_, inside_of_mem_sharedValue? inside⟩
  intro link member
  obtain ⟨own, listed, linked⟩ := List.mem_flatten.mp member
  obtain ⟨origin, inChain, target⟩ := exists_item_of_mem each listed
  rw [assignment_of_mem_targetLink target link linked]
  exact inside_of_mem_chain inside origin inChain

end SymbolDiff.Extract.Python
