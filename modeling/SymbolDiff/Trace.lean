/-!
# Remarks made along the way

A computation may leave remarks for whoever watches it.  `Traced` pairs a
result with the remarks made before it, in order; it is a monad whose results
do not depend on the remarks.
-/

namespace SymbolDiff

/-- The grammars in which source files are written. -/
inductive Dialect where
  | typescript
  | tsx
  | python
  deriving DecidableEq, Repr

def Dialect.name : Dialect → String
  | .typescript => "typescript"
  | .tsx => "tsx"
  | .python => "python"

/-- Something worth noting that is not a result. -/
inductive Remark where
  /-- Names that occur more than once in one sequence, in order. -/
  | repeatedNames (names : List String)
  /-- Two sets of output files are about to be compared. -/
  | comparing (old new : Nat)
  /-- A file of a kind that nothing can compare. -/
  | noComparer (name : String)
  /-- The source is not well formed from about this line on. -/
  | syntaxError (dialect : Dialect) (line : Nat)
  deriving DecidableEq, Repr

/-- A remark as it is written, after its level. -/
def Remark.message : Remark → String
  | .repeatedNames names =>
    "DEBUG: Pairing repeated names by occurrence: " ++ ", ".intercalate names
  | .comparing old new =>
    "INFO: Comparing " ++ toString old ++ " old and " ++ toString new ++
      " new output files"
  | .noComparer name =>
    "DEBUG: No comparer registered for " ++ name ++ ", skipping"
  | .syntaxError dialect line =>
    "WARNING: " ++ dialect.name ++
      " parser reported a syntax error near line " ++ toString line ++
      "; extracting what the tree contains"

/-- A result together with the remarks made on the way to it. -/
structure Traced (α : Type) where
  value : α
  remarks : List Remark

namespace Traced

variable {α β : Type}

instance : Monad Traced where
  pure value := ⟨value, []⟩
  bind first next :=
    let second := next first.value
    ⟨second.value, first.remarks ++ second.remarks⟩

/-- Makes one remark. -/
def remark (remark : Remark) : Traced Unit :=
  ⟨(), [remark]⟩

@[simp] theorem value_pure (value : α) :
    (pure value : Traced α).value = value :=
  rfl

@[simp] theorem value_bind (first : Traced α) (next : α → Traced β) :
    (first >>= next).value = (next first.value).value :=
  rfl

@[simp] theorem value_map (change : α → β) (first : Traced α) :
    (change <$> first).value = change first.value :=
  rfl

instance : LawfulMonad Traced :=
  LawfulMonad.mk' Traced
    (fun first => by simp [Functor.map])
    (fun value next => by simp [bind, pure])
    (fun first next last => by simp [bind, List.append_assoc])

@[simp] theorem value_mapM (step : α → Traced β) (items : List α) :
    (items.mapM step).value = items.map fun item => (step item).value := by
  induction items with
  | nil => simp
  | cons item rest induction => simp [List.mapM_cons, induction]

end Traced

end SymbolDiff
