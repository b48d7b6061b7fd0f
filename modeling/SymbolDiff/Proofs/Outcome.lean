import Mathlib.Data.List.Forall2

/-!
# Outcomes of steps that may fail

Extraction and comparison go along lists with steps that may fail, and the
first failure ends them.  The lemmas below say when such a walk has a result,
which failure it ends with, and when two walks have one outcome.  `Decided`
ties the outcome of a computation to a condition: the condition holds exactly
when there is a result, and a failure is one of an expected sort.
-/

namespace SymbolDiff.Outcome

variable {α β γ ε : Type}

@[simp] theorem ok_bind (value : α) (next : α → Except ε β) :
    (Except.ok value >>= next) = next value :=
  rfl

@[simp] theorem error_bind (fault : ε) (next : α → Except ε β) :
    (Except.error fault >>= next) = .error fault :=
  rfl

@[simp] theorem pure_eq_ok (value : α) : (pure value : Except ε α) = .ok value :=
  rfl

@[simp] theorem map_ok (change : α → β) (value : α) :
    (Except.ok value : Except ε α).map change = .ok (change value) :=
  rfl

@[simp] theorem map_error (change : α → β) (fault : ε) :
    (Except.error fault : Except ε α).map change = .error fault :=
  rfl

theorem bind_pure_eq_map (outcome : Except ε α) (change : α → β) :
    (do let value ← outcome; pure (change value)) = outcome.map change := by
  cases outcome with
  | error fault => rfl
  | ok value => rfl

theorem bind_eq_ok_iff {outcome : Except ε α} {next : α → Except ε β}
    {result : β} :
    (outcome >>= next) = .ok result ↔
      ∃ value, outcome = .ok value ∧ next value = .ok result := by
  cases outcome with
  | error fault => simp
  | ok value => simp

theorem map_eq_ok_iff {outcome : Except ε α} {change : α → β} {result : β} :
    outcome.map change = .ok result ↔
      ∃ value, outcome = .ok value ∧ change value = result := by
  cases outcome with
  | error fault => simp
  | ok value => simp

/-- Two outcomes are the same failure, or results that are related. -/
inductive Rel (related : α → β → Prop) : Except ε α → Except ε β → Prop where
  | ok {first : α} {second : β} (same : related first second) :
      Rel related (.ok first) (.ok second)
  | error (fault : ε) : Rel related (.error fault) (.error fault)

namespace Rel

variable {related : α → β → Prop} {first : Except ε α} {second : Except ε β}

/-- What is made of related results decides whether the outcomes are one. -/
theorem bind_eq (rel : Rel related first second)
    {next : α → Except ε γ} {further : β → Except ε γ}
    (each : ∀ value other, related value other →
      next value = further other) :
    (first >>= next) = (second >>= further) := by
  cases rel with
  | ok same => exact each _ _ same
  | error fault => rfl

theorem bind {δ : Type} {continued : γ → δ → Prop}
    (rel : Rel related first second)
    {next : α → Except ε γ} {further : β → Except ε δ}
    (each : ∀ value other, related value other →
      Rel continued (next value) (further other)) :
    Rel continued (first >>= next) (second >>= further) := by
  cases rel with
  | ok same => exact each _ _ same
  | error fault => exact .error fault

theorem map {δ : Type} {continued : γ → δ → Prop}
    (rel : Rel related first second) {change : α → γ} {exchange : β → δ}
    (each : ∀ value other, related value other →
      continued (change value) (exchange other)) :
    Rel continued (first.map change) (second.map exchange) := by
  cases rel with
  | ok same => exact .ok (each _ _ same)
  | error fault => exact .error fault

end Rel

section Walks

theorem mapM_eq_ok
    {step : α → Except ε β} {result : α → β} {items : List α}
    (each : ∀ item ∈ items, step item = .ok (result item)) :
    items.mapM step = .ok (items.map result) := by
  induction items with
  | nil => rfl
  | cons item rest induction =>
      have first := each item List.mem_cons_self
      have others := induction fun other member =>
        each other (List.mem_cons_of_mem item member)
      rw [List.mapM_cons, first, others]
      rfl

theorem forM_eq_ok {check : α → Except ε Unit} {items : List α}
    (each : ∀ item ∈ items, check item = .ok ()) : items.forM check = .ok () := by
  induction items with
  | nil => rfl
  | cons item rest induction =>
      have first := each item List.mem_cons_self
      have others := induction fun other member =>
        each other (List.mem_cons_of_mem item member)
      have walk : (item :: rest).forM check =
          (check item >>= fun _ => rest.forM check) := rfl
      rw [walk, first]
      exact others

/-- A walk ends well when each of its items has a result. -/
theorem mapM_eq_ok_iff
    {step : α → Except ε β} {items : List α} {results : List β} :
    items.mapM step = .ok results ↔
      List.Forall₂ (fun item result => step item = .ok result)
        items results := by
  induction items generalizing results with
  | nil =>
      rw [List.mapM_nil, pure_eq_ok, List.forall₂_nil_left_iff]
      constructor
      · intro done
        cases done
        rfl
      · intro empty
        rw [empty]
  | cons item rest induction =>
      rw [List.mapM_cons, List.forall₂_cons_left_iff, bind_eq_ok_iff]
      constructor
      · rintro ⟨result, first, done⟩
        obtain ⟨following, others, done⟩ := bind_eq_ok_iff.mp done
        cases done
        exact ⟨result, following, first, induction.mp others, rfl⟩
      · rintro ⟨result, following, first, others, rfl⟩
        refine ⟨result, first, ?_⟩
        rw [induction.mpr others]
        rfl

/-- Two lists have the same images when their elements do, one by one. -/
theorem map_eq_map_iff_forall₂ {first : α → γ} {second : β → γ}
    {items : List α} {results : List β} :
    items.map first = results.map second ↔
      List.Forall₂ (fun item result => first item = second result) items
        results := by
  rw [← List.forall₂_eq_eq_eq, List.forall₂_map_left_iff,
    List.forall₂_map_right_iff]

theorem exists_of_mem_of_forall₂ {related : α → β → Prop} {items : List α}
    {results : List β} (each : List.Forall₂ related items results) {result : β}
    (member : result ∈ results) : ∃ item ∈ items, related item result := by
  induction each with
  | nil => cases member
  | cons first _ induction =>
      rcases List.mem_cons.mp member with rfl | later
      · exact ⟨_, List.mem_cons_self, first⟩
      · obtain ⟨item, listed, stepped⟩ := induction later
        exact ⟨item, List.mem_cons_of_mem _ listed, stepped⟩

theorem exists_item_of_mem
    {step : α → Except ε β} {items : List α} {results : List β}
    (done : items.mapM step = .ok results) {result : β}
    (member : result ∈ results) :
    ∃ item ∈ items, step item = .ok result :=
  exists_of_mem_of_forall₂ (mapM_eq_ok_iff.mp done) member

/-- The first failure is the outcome of the whole walk. -/
theorem mapM_eq_error
    {step : α → Except ε β} {before : List α} {item : α} {fault : ε}
    (earlier : ∀ other ∈ before, ∃ result, step other = .ok result)
    (failed : step item = .error fault) (after : List α) :
    (before ++ item :: after).mapM step = .error fault := by
  induction before with
  | nil =>
      rw [List.nil_append, List.mapM_cons, failed]
      rfl
  | cons other rest induction =>
      obtain ⟨result, done⟩ := earlier other List.mem_cons_self
      have others := induction fun next member =>
        earlier next (List.mem_cons_of_mem other member)
      rw [List.cons_append, List.mapM_cons, done, ok_bind, others]
      rfl

theorem mapM_append_eq_ok_iff
    {step : α → Except ε β} {first second : List α} {results : List β} :
    (first ++ second).mapM step = .ok results ↔
      ∃ front back, first.mapM step = .ok front ∧
        second.mapM step = .ok back ∧ results = front ++ back := by
  rw [List.mapM_append, bind_eq_ok_iff]
  constructor
  · rintro ⟨front, ahead, done⟩
    obtain ⟨back, behind, done⟩ := bind_eq_ok_iff.mp done
    cases done
    exact ⟨front, back, ahead, behind, rfl⟩
  · rintro ⟨front, back, ahead, behind, rfl⟩
    refine ⟨front, ahead, ?_⟩
    rw [behind]
    rfl

theorem mapM_eq_of_rel
    {related : α → β → Prop} {step : α → Except ε γ} {other : β → Except ε γ}
    (same : ∀ first second, related first second → step first = other second)
    {items : List α} {others : List β}
    (each : List.Forall₂ related items others) :
    items.mapM step = others.mapM other := by
  induction each with
  | nil => rfl
  | cons first _ induction =>
      rw [List.mapM_cons, List.mapM_cons, same _ _ first, induction]

theorem mapM_eq_of_forall₂
    {related : α → α → Prop} (step : α → Except ε β)
    (same : ∀ first second, related first second → step first = step second)
    {items others : List α} (each : List.Forall₂ related items others) :
    items.mapM step = others.mapM step :=
  mapM_eq_of_rel same each

private theorem map_bind_cons
    (collect : List β → γ) (first : β) (others : Except ε (List β)) :
    (do let rest ← others; pure (first :: rest)).map collect =
      others.map fun rest => collect (first :: rest) := by
  cases others with
  | error fault => rfl
  | ok rest => rfl

/-- Items whose result does not show in what is collected may be left out. -/
theorem map_mapM_filter
    {step : α → Except ε β} {keep : α → Bool} {empty : β} {items : List α}
    (skipped : ∀ item ∈ items, keep item = false → step item = .ok empty)
    {collect : List β → γ}
    (unseen : ∀ before after,
      collect (before ++ empty :: after) = collect (before ++ after)) :
    (items.mapM step).map collect =
      ((items.filter keep).mapM step).map collect := by
  induction items generalizing collect with
  | nil => rfl
  | cons item rest induction =>
      have restSkipped : ∀ other ∈ rest, keep other = false →
          step other = .ok empty := fun other member =>
        skipped other (List.mem_cons_of_mem item member)
      cases kept : keep item with
      | false =>
          have dropped := skipped item List.mem_cons_self kept
          rw [List.filter_cons_of_neg (by simp [kept]), List.mapM_cons,
            dropped, ok_bind, map_bind_cons, ← induction restSkipped unseen]
          congr 1
          funext results
          exact unseen [] results
      | true =>
          rw [List.filter_cons_of_pos kept, List.mapM_cons, List.mapM_cons]
          cases step item with
          | error fault => rfl
          | ok result =>
              rw [ok_bind, ok_bind, map_bind_cons, map_bind_cons]
              exact induction restSkipped
                fun before after => unseen (result :: before) after

end Walks

/-- A condition decides an outcome when it holds for a result and fails for a
failure, which then is of the expected sort. -/
def Decided (condition : Prop) (expected : ε → Prop) : Except ε α → Prop
  | .ok _ => condition
  | .error fault => ¬condition ∧ expected fault

namespace Decided

variable {condition further : Prop} {expected : ε → Prop}

theorem exists_ok_iff {outcome : Except ε α}
    (decided : Decided condition expected outcome) :
    (∃ result, outcome = .ok result) ↔ condition := by
  cases outcome with
  | ok result => exact ⟨fun _ => decided, fun _ => ⟨result, rfl⟩⟩
  | error fault =>
      constructor
      · rintro ⟨result, impossible⟩
        cases impossible
      · intro holds
        exact absurd holds decided.1

theorem exists_error {outcome : Except ε α}
    (decided : Decided condition expected outcome) (fails : ¬condition) :
    ∃ fault, outcome = .error fault ∧ expected fault := by
  cases outcome with
  | ok result => exact absurd decided fails
  | error fault => exact ⟨fault, rfl, decided.2⟩

theorem congr {outcome : Except ε α}
    (decided : Decided condition expected outcome)
    (same : condition ↔ further) : Decided further expected outcome := by
  cases outcome with
  | ok result => exact same.mp decided
  | error fault => exact ⟨fun holds => decided.1 (same.mpr holds), decided.2⟩

/-- Faults of one sort are also faults of a wider sort. -/
theorem widen {wider : ε → Prop} {outcome : Except ε α}
    (decided : Decided condition expected outcome)
    (includes : ∀ fault, expected fault → wider fault) :
    Decided condition wider outcome := by
  cases outcome with
  | ok result => exact decided
  | error fault => exact ⟨decided.1, includes fault decided.2⟩

theorem map {outcome : Except ε α}
    (decided : Decided condition expected outcome) (change : α → β) :
    Decided condition expected (outcome.map change) := by
  cases outcome with
  | ok result => exact decided
  | error fault => exact decided

/-- A step after another one adds its own condition. -/
theorem bind {outcome : Except ε α} {next : α → Except ε β}
    (decided : Decided condition expected outcome)
    (following : ∀ result, outcome = .ok result →
      Decided further expected (next result)) :
    Decided (condition ∧ further) expected (outcome >>= next) := by
  cases outcome with
  | error fault => exact ⟨fun both => decided.1 both.1, decided.2⟩
  | ok result =>
      have rest := following result rfl
      rw [ok_bind]
      cases last : next result with
      | ok value =>
          rw [last] at rest
          exact ⟨decided, rest⟩
      | error fault =>
          rw [last] at rest
          exact ⟨fun both => rest.1 both.2, rest.2⟩

/-- A step that always has a result adds no condition. -/
theorem andThen {outcome : Except ε α} {next : α → Except ε β}
    (decided : Decided True expected outcome)
    (following : ∀ result, outcome = .ok result →
      Decided further expected (next result)) :
    Decided further expected (outcome >>= next) :=
  (decided.bind following).congr (by rw [true_and])

/-- A walk has a result when each of its steps has one. -/
theorem mapM {step : α → Except ε β} {holds : α → Prop} {items : List α}
    (each : ∀ item ∈ items, Decided (holds item) expected (step item)) :
    Decided (∀ item ∈ items, holds item) expected (items.mapM step) := by
  induction items with
  | nil => simp [Decided]
  | cons item rest induction =>
      have first := each item List.mem_cons_self
      have others := induction fun other member =>
        each other (List.mem_cons_of_mem item member)
      rw [List.mapM_cons, List.forall_mem_cons]
      refine first.bind fun result _ => ?_
      exact others.map (result :: ·)

end Decided

end SymbolDiff.Outcome
