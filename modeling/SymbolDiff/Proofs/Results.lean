import Mathlib.Data.List.Forall2
import Mathlib.Tactic.Choose
import SymbolDiff.Trace

/-!
# What computations give

A property of all results that a computation can have, in any monad.  It is
carried from the steps of a computation to the whole, so that one statement
serves computations that make remarks, that fail and that change a state.
-/

namespace SymbolDiff

/-- Every result of a computation has a property. -/
def Gives {m : Type → Type} [Functor m] {α : Type} (holds : α → Prop)
    (part : m α) : Prop :=
  ∃ inner : m { value : α // holds value }, Subtype.val <$> inner = part

namespace Gives

variable {m : Type → Type} [Monad m] [LawfulMonad m] {α β : Type}
variable {holds : α → Prop} {further : β → Prop}

theorem of_pure {value : α} (here : holds value) :
    Gives holds (pure value : m α) := by
  refine ⟨pure ⟨value, here⟩, ?_⟩
  rw [map_pure]

theorem bind {part : m α} {next : α → m β} (first : Gives holds part)
    (later : ∀ value, holds value → Gives further (next value)) :
    Gives further (part >>= next) := by
  obtain ⟨inner, rfl⟩ := first
  choose following same using later
  refine ⟨inner >>= fun value => following value.1 value.2, ?_⟩
  rw [map_bind, bind_map_left]
  congr 1
  funext value
  exact same value.1 value.2

/-- Only the results that a computation can have count for what follows. -/
theorem bind_congr {part : m α} {next other : α → m β}
    (gives : Gives holds part)
    (each : ∀ value, holds value → next value = other value) :
    part >>= next = part >>= other := by
  obtain ⟨inner, rfl⟩ := gives
  rw [bind_map_left, bind_map_left]
  congr 1
  funext value
  exact each value.1 value.2

theorem mono {weaker : α → Prop} {part : m α} (gives : Gives holds part)
    (implies : ∀ value, holds value → weaker value) : Gives weaker part := by
  rw [← bind_pure part]
  apply gives.bind
  intro value here
  exact of_pure (implies value here)

theorem anything (part : m α) : Gives (fun _ => True) part := by
  refine ⟨(fun value => ⟨value, trivial⟩) <$> part, ?_⟩
  rw [Functor.map_map, id_map']

theorem andThen {part : m α} {next : α → m β}
    (later : ∀ value, Gives further (next value)) :
    Gives further (part >>= next) :=
  (anything part).bind fun value _ => later value

theorem mapM {related : α → β → Prop} {step : α → m β} {items : List α}
    (each : ∀ item ∈ items, Gives (related item) (step item)) :
    Gives (List.Forall₂ related items) (items.mapM step) := by
  induction items with
  | nil =>
      rw [List.mapM_nil]
      exact of_pure .nil
  | cons item rest induction =>
      rw [List.forall_mem_cons] at each
      rw [List.mapM_cons]
      apply each.1.bind
      intro result first
      apply (induction each.2).bind
      intro results others
      exact of_pure (.cons first others)

theorem mapM_all {step : α → m β} {items : List α}
    (each : ∀ item ∈ items, Gives further (step item)) :
    Gives (fun results => ∀ result ∈ results, further result)
      (items.mapM step) := by
  apply (mapM each).mono
  intro results related
  clear each
  induction related with
  | nil => simp
  | cons first _ induction => simpa using ⟨first, induction⟩

end Gives

theorem gives_iff_value {α : Type} {holds : α → Prop} {part : Traced α} :
    Gives holds part ↔ holds part.value := by
  constructor
  · rintro ⟨inner, rfl⟩
    exact inner.value.2
  · intro here
    exact ⟨⟨⟨part.value, here⟩, part.remarks⟩, by simp [Functor.map]⟩

end SymbolDiff
