import SymbolDiff.Proofs.Path.Place

/-!
# The way along a path

Following a path looks at one position after the other.  This file keeps those
positions and the number of links that may still be followed at the end.  Both
depend only on the symbolic links on the way, so that a change of the file
system elsewhere does not lead a path astray.
-/

namespace SymbolDiff

namespace Entry

theorem find?_append (entry : Entry) (first second : List String) :
    entry.find? (first ++ second) =
      (entry.find? first).bind fun found => found.find? second := by
  induction first generalizing entry with
  | nil => rfl
  | cons name rest induction =>
      rw [List.cons_append, find?, find?]
      cases entry.child? name with
      | none => rfl
      | some next => exact induction next

theorem find?_below {top found : Entry} {place : List String}
    (there : top.find? place = some found) (names : List String) :
    top.find? (place ++ names) = found.find? names := by
  rw [find?_append, there]
  rfl

theorem directory_of_find? {top found : Entry} {names place : List String}
    (there : top.find? place = some found) (above : names <+: place)
    (proper : names ≠ place) :
    ∃ entries, top.find? names = some (.directory entries) := by
  obtain ⟨rest, rfl⟩ := above
  rw [find?_append] at there
  obtain ⟨middle, here, below⟩ := Option.bind_eq_some_iff.mp there
  cases rest with
  | nil => exact absurd (List.append_nil names).symm proper
  | cons name rest =>
      cases middle with
      | directory entries => exact ⟨entries, here⟩
      | file content => cases below
      | link target => cases below

/-- The target of the symbolic link at a position, if there is one. -/
def linkAt? (top : Entry) (names : List String) : Option String :=
  match top.find? names with
  | some (.link target) => some target
  | _ => none

theorem linkAt?_eq_some_iff {top : Entry} {names : List String}
    {target : String} :
    top.linkAt? names = some target ↔ top.find? names = some (.link target) := by
  unfold linkAt?
  split
  · rename_i other found
    rw [found, Option.some.injEq, Option.some.injEq, link.injEq]
  · rename_i other
    simp only [reduceCtorEq, false_iff]
    exact other target

/-- What of an entry decides how a path goes on. -/
inductive Kind where
  | file
  | link (target : String)
  | directory

def kind : Entry → Kind
  | .file _ => .file
  | .link target => .link target
  | .directory _ => .directory

theorem linkAt?_of_kind {top : Entry} {names : List String} {target : String}
    (found : (top.find? names).map kind = some (.link target)) :
    top.linkAt? names = some target := by
  rw [linkAt?_eq_some_iff]
  obtain ⟨entry, there, isLink⟩ := Option.map_eq_some_iff.mp found
  cases entry with
  | link other =>
      cases isLink
      exact there
  | file content => cases isLink
  | directory entries => cases isLink

theorem linkAt?_of_directory {top : Entry} {names : List String}
    {entries : List (String × Entry)}
    (found : top.find? names = some (.directory entries)) :
    top.linkAt? names = none := by
  rw [linkAt?, found]

theorem linkAt?_of_none {top : Entry} {names : List String}
    (missing : top.find? names = none) : top.linkAt? names = none := by
  rw [linkAt?, missing]

end Entry

namespace FileSystem

/-- Where names lead to from a directory that was reached, and how many links
may still be followed there.  What does not exist is taken as it is. -/
def arrival (top : Entry) (links : Nat) (reached : List String) :
    List String → Except WalkFault (Nat × List String)
  | [] => .ok (links, reached)
  | name :: rest =>
      if name = ".." then arrival top links reached.tail rest
      else
        match top.linkAt? (name :: reached).reverse with
        | none => arrival top links (name :: reached) rest
        | some target =>
            match links with
            | 0 => .error .tooManyLinks
            | links + 1 =>
                let path := Path.ofString target
                arrival top links (if path.isAbsolute then [] else reached)
                  (path.names ++ rest)
termination_by names => (links, names.length)

/-- The positions that are looked at on the way, the last one included. -/
def trail (top : Entry) (links : Nat) (reached : List String) :
    List String → List (List String)
  | [] => [reached.reverse]
  | name :: rest =>
      if name = ".." then trail top links reached.tail rest
      else
        match top.linkAt? (name :: reached).reverse with
        | none =>
            (name :: reached).reverse :: trail top links (name :: reached) rest
        | some target =>
            match links with
            | 0 => [(name :: reached).reverse]
            | links + 1 =>
                let path := Path.ofString target
                (name :: reached).reverse :: trail top links
                  (if path.isAbsolute then [] else reached) (path.names ++ rest)
termination_by names => (links, names.length)

variable {top other : Entry} {links : Nat} {reached names : List String}

theorem walk_cons {strict : Bool} {name : String} {rest : List String}
    (up : name ≠ "..") :
    walk top strict links reached (name :: rest) =
      match (top.find? (name :: reached).reverse).map Entry.kind with
      | some (.link target) =>
          match links with
          | 0 => .error .tooManyLinks
          | links + 1 =>
              let path := Path.ofString target
              walk top strict links (if path.isAbsolute then [] else reached)
                (path.names ++ rest)
      | some .directory => walk top strict links (name :: reached) rest
      | some .file =>
          if strict && !rest.isEmpty then .error .notDirectory
          else walk top strict links (name :: reached) rest
      | none =>
          if strict then .error .missing
          else walk top strict links (name :: reached) rest := by
  rw [walk, if_neg up]
  cases top.find? (name :: reached).reverse with
  | none => rfl
  | some entry =>
      cases entry with
      | file content => rfl
      | link target => rfl
      | directory entries => rfl

theorem walk_of_link {strict : Bool} {name target : String} {rest : List String}
    (up : name ≠ "..")
    (found : top.linkAt? (name :: reached).reverse = some target) :
    walk top strict links reached (name :: rest) =
      match links with
      | 0 => .error .tooManyLinks
      | links + 1 =>
          let path := Path.ofString target
          walk top strict links (if path.isAbsolute then [] else reached)
            (path.names ++ rest) := by
  rw [walk_cons up, Entry.linkAt?_eq_some_iff.mp found]
  rfl

theorem walk_of_plain {strict : Bool} {name : String} {rest place : List String}
    (up : name ≠ "..")
    (plain : top.linkAt? (name :: reached).reverse = none)
    (leads : walk top strict links reached (name :: rest) = .ok place) :
    walk top strict links (name :: reached) rest = .ok place := by
  rw [walk_cons up] at leads
  split at leads
  · rename_i target found
    rw [Entry.linkAt?_of_kind found] at plain
    cases plain
  · exact leads
  · split at leads
    · cases leads
    · exact leads
  · split at leads
    · cases leads
    · exact leads

theorem walk_eq_arrival :
    walk top false links reached names =
      (arrival top links reached names).map fun last => last.2.reverse := by
  fun_induction arrival top links reached names with
  | case1 links reached => rw [walk]; rfl
  | case2 links reached rest induction => rw [walk, if_pos rfl, induction]
  | case3 links reached name rest up plain induction =>
      rw [walk, if_neg up]
      split
      · rename_i target found
        rw [Entry.linkAt?_eq_some_iff.mpr found] at plain
        cases plain
      · exact induction
      · exact induction
      · exact induction
  | case4 reached name rest up target found =>
      rw [walk_of_link up found]
      rfl
  | case5 reached name rest up target found links path induction =>
      rw [walk_of_link up found]
      exact induction

/-- A way that meets the same links is the same way. -/
theorem way_congr
    (same : ∀ position ∈ trail top links reached names, position ≠ [] →
      other.linkAt? position = top.linkAt? position) :
    arrival other links reached names = arrival top links reached names ∧
      trail other links reached names = trail top links reached names := by
  fun_induction trail top links reached names with
  | case1 links reached => simp [arrival, trail]
  | case2 links reached rest induction =>
      rw [arrival, arrival, trail, if_pos rfl, if_pos rfl, if_pos rfl]
      exact induction same
  | case3 links reached name rest up plain induction =>
      have here := same _ List.mem_cons_self (by simp)
      obtain ⟨arrives, follows⟩ := induction fun position member =>
        same position (List.mem_cons_of_mem _ member)
      rw [plain] at here
      rw [arrival, arrival, trail, if_neg up, if_neg up, if_neg up, here, plain]
      exact ⟨arrives, congrArg _ follows⟩
  | case4 reached name rest up target found =>
      have here := same _ List.mem_cons_self (by simp)
      rw [found] at here
      rw [arrival, arrival, trail, if_neg up, if_neg up, if_neg up, here, found]
      exact ⟨rfl, rfl⟩
  | case5 reached name rest up target found links path induction =>
      have here := same _ List.mem_cons_self (by simp)
      obtain ⟨arrives, follows⟩ := induction fun position member =>
        same position (List.mem_cons_of_mem _ member)
      rw [found] at here
      rw [arrival, arrival, trail, if_neg up, if_neg up, if_neg up, here, found]
      exact ⟨arrives, congrArg _ follows⟩

theorem mem_trail_of_walk {strict : Bool} {place : List String}
    (leads : walk top strict links reached names = .ok place) :
    place ∈ trail top links reached names := by
  fun_induction trail top links reached names with
  | case1 links reached =>
      rw [walk] at leads
      cases leads
      exact List.mem_singleton_self _
  | case2 links reached rest induction =>
      rw [walk, if_pos rfl] at leads
      exact induction leads
  | case3 links reached name rest up plain induction =>
      apply List.mem_cons_of_mem
      exact induction (walk_of_plain up plain leads)
  | case4 reached name rest up target found =>
      rw [walk_of_link up found] at leads
      cases leads
  | case5 reached name rest up target found links path induction =>
      rw [walk_of_link up found] at leads
      exact List.mem_cons_of_mem _ (induction leads)

theorem arrival_of_walk {strict : Bool} {place : List String}
    (leads : walk top strict links reached names = .ok place) :
    ∃ left, arrival top links reached names = .ok (left, place.reverse) := by
  fun_induction arrival top links reached names with
  | case1 links reached =>
      rw [walk] at leads
      cases leads
      exact ⟨links, by rw [List.reverse_reverse]⟩
  | case2 links reached rest induction =>
      rw [walk, if_pos rfl] at leads
      exact induction leads
  | case3 links reached name rest up plain induction =>
      exact induction (walk_of_plain up plain leads)
  | case4 reached name rest up target found =>
      rw [walk_of_link up found] at leads
      cases leads
  | case5 reached name rest up target found links path induction =>
      rw [walk_of_link up found] at leads
      exact induction leads

/-- No symbolic link stands on the names that were reached. -/
def Plain (top : Entry) (reached : List String) : Prop :=
  ∀ position, position ≠ [] → position <+: reached.reverse →
    top.linkAt? position = none

theorem plain_nil : Plain top [] := by
  intro position some within
  exact absurd (List.prefix_nil.mp within) some

theorem Plain.tail (plain : Plain top reached) : Plain top reached.tail := by
  intro position some within
  apply plain position some
  apply within.trans
  cases reached with
  | nil => exact List.prefix_rfl
  | cons name rest =>
      rw [List.tail_cons, List.reverse_cons]
      exact List.prefix_append _ _

theorem Plain.cons {name : String} (plain : Plain top reached)
    (here : top.linkAt? (name :: reached).reverse = none) :
    Plain top (name :: reached) := by
  intro position some within
  rw [List.reverse_cons] at within here
  rcases List.prefix_concat_iff.mp within with rfl | before
  · exact here
  · exact plain position some before

theorem plain_of_arrival {left : Nat} {last : List String}
    (arrives : arrival top links reached names = .ok (left, last))
    (plain : Plain top reached) : Plain top last := by
  fun_induction arrival top links reached names with
  | case1 links reached =>
      cases arrives
      exact plain
  | case2 links reached rest induction => exact induction arrives plain.tail
  | case3 links reached name rest up here induction =>
      exact induction arrives (plain.cons here)
  | case4 reached name rest up target found => cases arrives
  | case5 reached name rest up target found links path induction =>
      apply induction arrives
      split
      · exact plain_nil
      · exact plain

/-- A position at which a path can go on. -/
def Firm (top : Entry) (position : List String) : Prop :=
  (∃ entries, top.find? position = some (.directory entries)) ∨
    ∃ target, top.find? position = some (.link target)

/-- The way to a directory that is there goes over firm positions. -/
theorem firm_of_walk {place : List String} {entries : List (String × Entry)}
    (leads : walk top true links reached names = .ok place)
    (there : top.find? place = some (.directory entries)) :
    ∀ position ∈ trail top links reached names, Firm top position := by
  fun_induction trail top links reached names with
  | case1 links reached =>
      rw [walk] at leads
      cases leads
      rw [List.forall_mem_singleton]
      exact .inl ⟨entries, there⟩
  | case2 links reached rest induction =>
      rw [walk, if_pos rfl] at leads
      exact induction leads
  | case3 links reached name rest up plain induction =>
      rw [List.forall_mem_cons]
      refine ⟨?_, induction (walk_of_plain up plain leads)⟩
      rw [walk_cons up] at leads
      cases found : top.find? (name :: reached).reverse with
      | none =>
          rw [found] at leads
          simp at leads
      | some entry =>
          rw [found] at leads
          cases entry with
          | directory inner => exact .inl ⟨inner, found⟩
          | link target => exact .inr ⟨target, found⟩
          | file content =>
              -- a file ends the way, but the way ends at a directory
              cases rest with
              | nil =>
                  simp only [Option.map_some, Entry.kind, List.isEmpty_nil,
                    Bool.not_true, Bool.and_false, Bool.false_eq_true,
                    if_false, walk] at leads
                  cases leads
                  rw [found] at there
                  cases there
              | cons next rest => simp [Entry.kind] at leads
  | case4 reached name rest up target found =>
      rw [walk_of_link up found] at leads
      cases leads
  | case5 reached name rest up target found links path induction =>
      rw [walk_of_link up found] at leads
      rw [List.forall_mem_cons]
      exact ⟨.inr ⟨target, Entry.linkAt?_eq_some_iff.mp found⟩, induction leads⟩

theorem arrival_append (more : List String) :
    arrival top links reached (names ++ more) =
      match arrival top links reached names with
      | .error fault => .error fault
      | .ok (left, last) => arrival top left last more := by
  fun_induction arrival top links reached names with
  | case1 links reached => rfl
  | case2 links reached rest induction =>
      rw [List.cons_append, arrival, if_pos rfl, induction]
  | case3 links reached name rest up plain induction =>
      rw [List.cons_append, arrival, if_neg up, plain]
      exact induction
  | case4 reached name rest up target found =>
      rw [List.cons_append, arrival, if_neg up, found]
  | case5 reached name rest up target found links path induction =>
      rw [List.append_assoc] at induction
      rw [List.cons_append, arrival, if_neg up, found]
      exact induction

/-- A longer way goes over the positions of a shorter one and then on from
where that arrives. -/
theorem mem_trail_append {more position : List String}
    (onTrail : position ∈ trail top links reached (names ++ more)) :
    position ∈ trail top links reached names ∨
      ∃ left last, arrival top links reached names = .ok (left, last) ∧
        position ∈ trail top left last more := by
  fun_induction trail top links reached names with
  | case1 links reached =>
      right
      exact ⟨links, reached, by rw [arrival], onTrail⟩
  | case2 links reached rest induction =>
      rw [List.cons_append, trail, if_pos rfl] at onTrail
      rw [arrival, if_pos rfl]
      exact induction onTrail
  | case3 links reached name rest up plain induction =>
      rw [List.cons_append, trail, if_neg up, plain, List.mem_cons] at onTrail
      rw [arrival, if_neg up, plain, List.mem_cons, or_assoc]
      exact onTrail.imp_right induction
  | case4 reached name rest up target found =>
      rw [List.cons_append, trail, if_neg up, found] at onTrail
      exact .inl onTrail
  | case5 reached name rest up target found links path induction =>
      rw [List.cons_append, trail, if_neg up, found] at onTrail
      rw [arrival, if_neg up, found, List.mem_cons, or_assoc]
      rcases List.mem_cons.mp onTrail with here | later
      · exact .inl here
      · rw [← List.append_assoc] at later
        exact .inr (induction later)

/-- Over firm positions a walk goes on from where the way arrives. -/
theorem walk_append {left : Nat} {last : List String}
    (arrives : arrival top links reached names = .ok (left, last))
    (firm : ∀ position ∈ trail top links reached names, Firm top position)
    (more : List String) :
    walk top true links reached (names ++ more) =
      walk top true left last more := by
  fun_induction arrival top links reached names with
  | case1 links reached =>
      cases arrives
      rfl
  | case2 links reached rest induction =>
      rw [trail, if_pos rfl] at firm
      rw [List.cons_append, walk, if_pos rfl]
      exact induction arrives firm
  | case3 links reached name rest up plain induction =>
      rw [trail, if_neg up, plain, List.forall_mem_cons] at firm
      obtain ⟨⟨inner, found⟩ | ⟨target, found⟩, later⟩ := firm
      · rw [List.cons_append, walk, if_neg up, found]
        exact induction arrives later
      · rw [Entry.linkAt?_eq_some_iff.mpr found] at plain
        cases plain
  | case4 reached name rest up target found => cases arrives
  | case5 reached name rest up target found links path induction =>
      rw [trail, if_neg up, found, List.forall_mem_cons] at firm
      rw [List.cons_append, walk_of_link up found, ← induction arrives firm.2,
        List.append_assoc]
      rfl

/-- Real directories are followed name by name. -/
theorem walk_of_find? {place : List String} {found : Entry}
    (downward : ".." ∉ names) (there : top.find? (place ++ names) = some found)
    (noLink : top.linkAt? (place ++ names) = none) :
    walk top true links place.reverse names = .ok (place ++ names) := by
  induction names generalizing place with
  | nil => rw [walk, List.reverse_reverse, List.append_nil]
  | cons name rest induction =>
      rw [List.mem_cons, not_or] at downward
      have position : place ++ name :: rest = (place ++ [name]) ++ rest := by simp
      have here : (name :: place.reverse).reverse = place ++ [name] := by simp
      rw [position] at there noLink ⊢
      have onward := induction downward.2 there noLink
      rw [List.reverse_concat] at onward
      rw [walk, if_neg (Ne.symm downward.1), here]
      cases rest with
      | nil =>
          rw [List.append_nil] at there noLink
          rw [there]
          cases found with
          | file content => exact onward
          | directory entries => exact onward
          | link target =>
              rw [Entry.linkAt?_eq_some_iff.mpr there] at noLink
              cases noLink
      | cons next rest =>
          obtain ⟨entries, inner⟩ := Entry.directory_of_find? there
            (List.prefix_append _ _) (by simp)
          rw [inner]
          exact onward

/-- Where two file systems show the same kinds of entries on the way, a walk
ends the same in both. -/
theorem walk_congr {strict : Bool}
    (same : ∀ position ∈ trail top links reached names,
      (other.find? position).map Entry.kind =
        (top.find? position).map Entry.kind) :
    walk other strict links reached names =
      walk top strict links reached names := by
  fun_induction trail top links reached names with
  | case1 links reached => rw [walk, walk]
  | case2 links reached rest induction =>
      rw [walk, walk, if_pos rfl, if_pos rfl, induction same]
  | case3 links reached name rest up plain induction =>
      rw [List.forall_mem_cons] at same
      rw [walk_cons up, walk_cons up, same.1]
      split
      · rename_i target found
        rw [Entry.linkAt?_of_kind found] at plain
        cases plain
      · exact induction same.2
      · rw [induction same.2]
      · rw [induction same.2]
  | case4 reached name rest up target found =>
      rw [List.forall_mem_singleton] at same
      rw [walk_cons up, same, Entry.linkAt?_eq_some_iff.mp found,
        walk_of_link up found]
      rfl
  | case5 reached name rest up target found links path induction =>
      rw [List.forall_mem_cons] at same
      rw [walk_cons up, same.1, Entry.linkAt?_eq_some_iff.mp found,
        walk_of_link up found]
      exact induction same.2

theorem prefix_of_mem_trail {position : List String}
    (plain : ∀ names, top.linkAt? names = none) (downward : ".." ∉ names)
    (onTrail : position ∈ trail top links reached names) :
    position <+: reached.reverse ++ names := by
  induction names generalizing reached with
  | nil =>
      rw [trail, List.mem_singleton] at onTrail
      rw [onTrail, List.append_nil]
  | cons name rest induction =>
      rw [List.mem_cons, not_or] at downward
      have position : reached.reverse ++ name :: rest =
          (name :: reached).reverse ++ rest := by simp
      rw [trail, if_neg (Ne.symm downward.1), plain, List.mem_cons] at onTrail
      rw [position]
      rcases onTrail with rfl | later
      · exact List.prefix_append _ _
      · exact induction downward.2 later

theorem linkAt?_of_linkless {system : FileSystem} (linkless : system.Linkless)
    (names : List String) : system.top.linkAt? names = none := by
  cases found : system.top.linkAt? names with
  | none => rfl
  | some target =>
      exact absurd (Entry.linkAt?_eq_some_iff.mp found) (linkless names target)

/-- The positions that are looked at along a path. -/
def way (system : FileSystem) (path : Path) : List (List String) :=
  trail system.top linkLimit [] (system.absolute path).names

def linksLeft (system : FileSystem) (path : Path) : Nat :=
  match arrival system.top linkLimit [] (system.absolute path).names with
  | .ok last => last.1
  | .error _ => 0

theorem arrival_of_follow {system : FileSystem} {path : Path}
    {place : List String}
    (leads : system.follow path = .ok ⟨.root, place⟩) :
    arrival system.top linkLimit [] (system.absolute path).names =
      .ok (system.linksLeft path, place.reverse) := by
  rw [follow, walk_eq_arrival] at leads
  unfold linksLeft
  cases arrives : arrival system.top linkLimit []
      (system.absolute path).names with
  | error fault =>
      rw [arrives] at leads
      cases leads
  | ok last =>
      rw [arrives] at leads
      cases leads
      rw [List.reverse_reverse]

/-- What a path leads to is also where it is followed to. -/
theorem follow_of_locate {system : FileSystem} {path : Path} {place : List String}
    (located : system.locate path = .ok place) :
    system.follow path = .ok ⟨.root, place⟩ := by
  obtain ⟨left, arrives⟩ := arrival_of_walk located
  rw [follow, walk_eq_arrival, arrives]
  simp [Except.map]

end FileSystem

end SymbolDiff
