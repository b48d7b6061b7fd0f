import Mathlib.Data.Nat.Find
import SymbolDiff.Proofs.FileSystem.Way

/-!
# Resolving paths

Resolving follows links as long as none of them leads back to itself, however
many there are.  It comes to an end exactly when some number of links is enough
to come to the same place.  In particular it finds every place that the system
finds with the links that it is willing to follow.
-/

namespace SymbolDiff

namespace Path

theorem map_fst_steps (names : List String) :
    (steps names).map Prod.fst = names := by
  induction names with
  | nil => rfl
  | cons name rest induction => rw [steps, List.map_cons, induction]

theorem map_fst_stepsOf (parts : List (List Char)) :
    (stepsOf parts).map Prod.fst =
      (parts.filter fun part => !part.isEmpty && part ≠ ['.']).map
        String.ofList := by
  induction parts with
  | nil => rfl
  | cons part rest induction =>
      rw [stepsOf, List.filter_cons]
      split
      · rw [List.map_cons, List.map_cons, induction]
      · exact induction

theorem map_fst_stepsIn (text : String) :
    (stepsIn text).map Prod.fst = (ofString text).names :=
  map_fst_stepsOf _

end Path

namespace FileSystem

variable {top : Entry} {followed : List (List String)} {links left : Nat}
variable {reached last : List String} {steps : List (String × Path)}

theorem realPath_cons {name : String} {behind : Path} (up : name ≠ "..") :
    realPath top followed reached ((name, behind) :: steps) =
      match top.linkAt? (name :: reached).reverse with
      | none => realPath top followed (name :: reached) steps
      | some target =>
          if (name :: reached).reverse ∈ followed then
            .error (Path.join ⟨.root, (name :: reached).reverse⟩ behind)
          else
            match realPath top ((name :: reached).reverse :: followed)
              (if (Path.ofString target).isAbsolute then [] else reached)
              (Path.stepsIn target) with
            | .ok arrived => realPath top followed arrived steps
            | .error stuck => .error (stuck.join behind) := by
  rw [realPath, if_neg up, Entry.linkAt?]
  dsimp only
  cases top.find? (name :: reached).reverse with
  | none => rfl
  | some entry =>
      cases entry with
      | file content => rfl
      | directory entries => rfl
      | link target => rfl

/-- More links than are needed do no harm and are left over. -/
theorem arrival_add {names : List String} (more : Nat)
    (arrives : arrival top links reached names = .ok (left, last)) :
    arrival top (links + more) reached names = .ok (left + more, last) := by
  fun_induction arrival top links reached names with
  | case1 links reached =>
      cases arrives
      rw [arrival]
  | case2 links reached rest induction =>
      rw [arrival, if_pos rfl]
      exact induction arrives
  | case3 links reached name rest up plain induction =>
      rw [arrival, if_neg up, plain]
      exact induction arrives
  | case4 reached name rest up target found => cases arrives
  | case5 reached name rest up target found links path induction =>
      rw [Nat.succ_add, arrival, if_neg up, found]
      exact induction arrives

theorem left_le_of_arrival {names : List String}
    (arrives : arrival top links reached names = .ok (left, last)) :
    left ≤ links := by
  fun_induction arrival top links reached names with
  | case1 links reached =>
      cases arrives
      exact le_rfl
  | case2 links reached rest induction => exact induction arrives
  | case3 links reached name rest up plain induction => exact induction arrives
  | case4 reached name rest up target found => cases arrives
  | case5 reached name rest up target found links path induction =>
      exact Nat.le_succ_of_le (induction arrives)

/-- A place that some number of links leads to is reached with the fewest that
lead anywhere. -/
theorem exists_fewest {names : List String}
    (arrives : arrival top links reached names = .ok (left, last)) :
    ∃ fewest ≤ links,
      (∃ spare, arrival top fewest reached names = .ok (spare, last)) ∧
      ∀ fewer < fewest, ∀ other, arrival top fewer reached names ≠ .ok other := by
  classical
  have some : ∃ links other, arrival top links reached names = .ok other :=
    ⟨links, _, arrives⟩
  have within : Nat.find some ≤ links := Nat.find_min' some ⟨_, arrives⟩
  obtain ⟨⟨spare, place⟩, reaches⟩ := Nat.find_spec some
  refine ⟨Nat.find some, within, ⟨spare, ?_⟩, ?_⟩
  · have same := arrival_add (links - Nat.find some) reaches
    rw [Nat.add_sub_cancel' within, arrives] at same
    cases same
    exact reaches
  · intro fewer before other leads
    exact Nat.find_min some before ⟨other, leads⟩

/-- None of the links at some positions leads anywhere, with up to so many
links. -/
def Barred (top : Entry) (followed : List (List String)) (links : Nat) : Prop :=
  ∀ fewer ≤ links, ∀ name reached, (name :: reached).reverse ∈ followed →
    ∀ last, arrival top fewer reached [name] ≠ .ok last

theorem Barred.mono {fewer : Nat} (barred : Barred top followed links)
    (within : fewer ≤ links) : Barred top followed fewer :=
  fun least below => barred least (below.trans within)

theorem arrival_of_link {name target : String} (up : name ≠ "..")
    (found : top.linkAt? (name :: reached).reverse = some target)
    (names : List String) :
    arrival top (links + 1) reached (name :: names) =
      match arrival top links
        (if (Path.ofString target).isAbsolute then [] else reached)
        (Path.ofString target).names with
      | .error fault => .error fault
      | .ok (left, arrived) => arrival top left arrived names := by
  rw [arrival, if_neg up, found]
  exact arrival_append names

/-- With the fewest links that lead to the end of a link, the link itself does
not lead there. -/
theorem Barred.cons {name target : String} (up : name ≠ "..")
    (found : top.linkAt? (name :: reached).reverse = some target)
    (barred : Barred top followed links)
    (fewest : ∀ fewer < links, ∀ last, arrival top fewer
      (if (Path.ofString target).isAbsolute then [] else reached)
      (Path.ofString target).names ≠ .ok last) :
    Barred top ((name :: reached).reverse :: followed) links := by
  intro fewer within other from_ member last arrives
  rcases List.mem_cons.mp member with same | earlier
  · obtain ⟨rfl, rfl⟩ := List.cons.inj (List.reverse_injective same)
    cases fewer with
    | zero =>
        rw [arrival, if_neg up, found] at arrives
        cases arrives
    | succ fewer =>
        rw [arrival_of_link up found] at arrives
        split at arrives
        · cases arrives
        · rename_i inner
          exact fewest fewer within _ inner
  · exact barred fewer within other from_ earlier last arrives

/-- What is met on the way to a place is not barred. -/
theorem Barred.notMem {name : String} {arrived : Nat × List String}
    (barred : Barred top followed links)
    (arrives : arrival top links reached [name] = .ok arrived) :
    (name :: reached).reverse ∉ followed := fun again =>
  barred links le_rfl name reached again arrived arrives

/-- A link takes one of the links, its target some of the others, and the names
behind it what is left. -/
theorem exists_of_arrival_link {name target : String} {names : List String}
    (up : name ≠ "..")
    (found : top.linkAt? (name :: reached).reverse = some target)
    (arrives : arrival top links reached (name :: names) = .ok (left, last)) :
    ∃ fewer spare middle, links = fewer + 1 ∧
      arrival top fewer
        (if (Path.ofString target).isAbsolute then [] else reached)
        (Path.ofString target).names = .ok (spare, middle) ∧
      arrival top links reached [name] = .ok (spare, middle) ∧
      arrival top spare middle names = .ok (left, last) := by
  cases links with
  | zero =>
      rw [arrival, if_neg up, found] at arrives
      cases arrives
  | succ fewer =>
      rw [arrival_of_link up found] at arrives
      split at arrives
      · cases arrives
      · rename_i spare middle inner
        refine ⟨fewer, spare, middle, rfl, inner, ?_, arrives⟩
        rw [arrival_of_link up found, inner]
        exact arrival.eq_1 ..

/-- Where some number of links is enough, none leads back to itself. -/
theorem realPath_of_arrival (barred : Barred top followed links)
    (arrives : arrival top links reached (steps.map Prod.fst) =
      .ok (left, last)) :
    realPath top followed reached steps = .ok last := by
  induction links using Nat.strong_induction_on
    generalizing followed reached steps left last with
  | h links shorter =>
      induction steps generalizing reached with
      | nil =>
          rw [List.map_nil, arrival] at arrives
          cases arrives
          rw [realPath]
      | cons step rest later =>
          obtain ⟨name, behind⟩ := step
          rw [List.map_cons] at arrives
          by_cases up : name = ".."
          · rw [arrival, if_pos up] at arrives
            rw [realPath, if_pos up]
            exact later arrives
          · rw [realPath_cons up]
            cases found : top.linkAt? (name :: reached).reverse with
            | none =>
                rw [arrival, if_neg up, found] at arrives
                exact later arrives
            | some target =>
                obtain ⟨fewer, spare, middle, rfl, inner, here, following⟩ :=
                  exists_of_arrival_link up found arrives
                -- the target is followed with the fewest links it can do with,
                -- and what follows with those that the target leaves
                obtain ⟨fewest, within, ⟨_, enough⟩, minimal⟩ :=
                  exists_fewest inner
                have spent := left_le_of_arrival inner
                rw [← Path.map_fst_stepsIn] at enough
                have ends := shorter fewest (by omega)
                  ((barred.mono (by omega)).cons up found minimal) enough
                dsimp only
                rw [if_neg (barred.notMem here), ends]
                exact shorter spare (by omega) (barred.mono (by omega)) following

/-- What was followed to its end was followed with some number of links. -/
theorem arrival_of_realPath
    (follows : realPath top followed reached steps = .ok last) :
    ∃ links, arrival top links reached (steps.map Prod.fst) = .ok (0, last) := by
  fun_induction realPath top followed reached steps generalizing last with
  | case1 followed reached =>
      cases follows
      exact ⟨0, by rw [List.map_nil, arrival]⟩
  | case2 followed reached behind rest induction =>
      obtain ⟨links, arrives⟩ := induction follows
      exact ⟨links, by rwa [List.map_cons, arrival, if_pos rfl]⟩
  | case3 followed reached name behind rest up here target found =>
      cases follows
  | case4 followed reached name behind rest up here target found fresh start
      arrived inner nested =>
      rename_i later
      obtain ⟨enough, reaches⟩ := nested inner
      obtain ⟨links, arrives⟩ := later follows
      have isLink : top.linkAt? (name :: reached).reverse = some target :=
        Entry.linkAt?_eq_some_iff.mpr found
      have both : arrival top (enough + links)
          (if (Path.ofString target).isAbsolute then [] else reached)
          (Path.ofString target).names = .ok (0 + links, arrived) := by
        rw [← Path.map_fst_stepsIn]
        exact arrival_add links reaches
      refine ⟨enough + links + 1, ?_⟩
      rw [List.map_cons, arrival_of_link up isLink, both, Nat.zero_add]
      exact arrives
  | case5 followed reached name behind rest up here target found fresh start stuck
      inner =>
      cases follows
  | case6 followed reached name behind rest up here other =>
      rename_i induction
      obtain ⟨links, arrives⟩ := induction follows
      have plain : top.linkAt? (name :: reached).reverse = none := by
        cases found : top.linkAt? (name :: reached).reverse with
        | none => rfl
        | some target =>
            exact (other target (Entry.linkAt?_eq_some_iff.mp found)).elim
      refine ⟨links, ?_⟩
      rw [List.map_cons, arrival, if_neg up, plain]
      exact arrives

/-- A path can be followed to its end exactly when some number of links is
enough for that. -/
theorem realPath_eq_ok_iff (names : List String) :
    realPath top [] [] (Path.steps names) = .ok last ↔
      ∃ links left, arrival top links [] names = .ok (left, last) := by
  have noneFollowed : ∀ links, Barred top [] links :=
    fun _ _ _ _ _ member => nomatch member
  constructor
  · intro follows
    obtain ⟨links, arrives⟩ := arrival_of_realPath follows
    rw [Path.map_fst_steps] at arrives
    exact ⟨links, 0, arrives⟩
  · rintro ⟨links, left, arrives⟩
    rw [← Path.map_fst_steps names] at arrives
    exact realPath_of_arrival (noneFollowed links) arrives

/-- What is left of a path that leads round in a circle is absolute. -/
theorem isAbsolute_of_realPath {stuck : Path}
    (fails : realPath top followed reached steps = .error stuck) :
    stuck.isAbsolute = true := by
  fun_induction realPath top followed reached steps generalizing stuck with
  | case1 followed reached => cases fails
  | case2 followed reached behind rest induction => exact induction fails
  | case3 followed reached name behind rest up here target found =>
      cases fails
      exact Path.isAbsolute_join rfl behind
  | case4 followed reached name behind rest up here target found fresh start
      arrived inner nested =>
      rename_i later
      exact later fails
  | case5 followed reached name behind rest up here target found fresh start
      earlier inner =>
      rename_i nested
      cases fails
      exact Path.isAbsolute_join (nested inner) behind
  | case6 followed reached name behind rest up here other =>
      rename_i induction
      exact induction fails

variable {system : FileSystem} {path : Path} {place : List String}

theorem isAbsolute_of_resolve {found : Path}
    (leads : system.resolve path = .ok found) : found.isAbsolute = true := by
  unfold resolve at leads
  split at leads
  · cases leads
    rfl
  · rename_i stuck fails
    dsimp only at leads
    split at leads
    · cases leads
    · cases leads
      have absolute : stuck.isAbsolute = true := isAbsolute_of_realPath fails
      exact absolute

/-- Where the system follows a path to is where the path is resolved to. -/
theorem resolve_of_follow (leads : system.follow path = .ok ⟨.root, place⟩) :
    system.resolve path = .ok ⟨.root, place⟩ := by
  have arrives := arrival_of_follow leads
  rw [resolve, (realPath_eq_ok_iff _).mpr ⟨_, _, arrives⟩]
  dsimp only
  rw [List.reverse_reverse]

theorem resolve_of_locate (located : system.locate path = .ok place) :
    system.resolve path = .ok ⟨.root, place⟩ :=
  resolve_of_follow (follow_of_locate located)

theorem resolve_of_linkless (linkless : system.Linkless) (path : Path) :
    system.resolve path = .ok ⟨.root, Path.place system.working path⟩ :=
  resolve_of_follow (follow_of_linkless linkless path)

/-- A path cannot be resolved when no number of links is enough to follow it,
and the system gives up on what is left of it. -/
theorem resolve_eq_error_iff {fault : WalkFault} :
    system.resolve path = .error fault ↔
      fault = .tooManyLinks ∧ ∃ stuck,
        realPath system.top [] [] (Path.steps (system.absolute path).names) =
          .error stuck ∧
        system.locate { stuck with names := Path.settle [] stuck.names } =
          .error .tooManyLinks := by
  rw [resolve]
  split
  · rename_i reached ends
    simp [ends]
  · rename_i stuck ends
    rw [ends]
    dsimp only
    split
    · rename_i given
      simp [given, eq_comm]
    · rename_i given
      simpa using fun _ gives => given gives

end FileSystem

end SymbolDiff
