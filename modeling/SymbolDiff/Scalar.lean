import SymbolDiff.Report.Node

/-!
# Scalar values

The values that are compared directly.  Equality is strict: values of different
types always differ, even where they are written alike.
-/

namespace SymbolDiff

/-- A value without parts. -/
inductive Scalar where
  | absent
  | flag (value : Bool)
  | integer (value : Int)
  | text (value : String)
  deriving DecidableEq, Repr

/-- The report text of a value, the same for every source language. -/
def Scalar.format : Scalar → String
  | .absent => "none"
  | .flag value => if value then "true" else "false"
  | .integer value => toString value
  | .text value => value

/-- The value of text that may be missing. -/
def Scalar.ofText? : Option String → Scalar
  | none => .absent
  | some value => .text value

/-- Nothing for equal values, else an entry with both. -/
def compareScalar (label : String) (old new : Scalar) : Option Node :=
  if old = new then none else some (.replaced label old.format new.format)

end SymbolDiff
