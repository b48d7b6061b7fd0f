import SymbolDiff.Reconcile

/-!
# Symbols of a source file

`Source` is the view of one source file that does not depend on its language:
its classes, interfaces, type aliases and module-level variables in declaration
order.  Types and values are kept as the text they are written as.
-/

namespace SymbolDiff

/-- The type of what is written without one. -/
def unspecified : String := "unspecified"

/-- A parameter in a method signature. -/
structure Parameter where
  name : String
  type : String := unspecified
  /-- Declared position, counted from zero. -/
  ordinal : Nat
  isOptional : Bool := false
  deriving DecidableEq, Repr

/-- A method of a class or interface. -/
structure Method where
  name : String
  returnType : String := unspecified
  parameters : List Parameter := []
  deriving DecidableEq, Repr

/-- From where a field can be used. -/
inductive Visibility where
  | publicly
  | privately
  | protectedly
  deriving DecidableEq, Repr

def Visibility.word : Visibility → String
  | .publicly => "public"
  | .privately => "private"
  | .protectedly => "protected"

/-- A field of a class or interface. -/
structure Field where
  name : String
  type : String := unspecified
  /-- Text of the initial value. -/
  value : Option String := none
  visibility : Visibility := .publicly
  isReadOnly : Bool := false
  deriving DecidableEq, Repr

/-- A class declaration. -/
structure ClassSymbol where
  name : String
  isExported : Bool := false
  methods : List Method := []
  fields : List Field := []
  baseClass : Option String := none
  interfaces : Option (List String) := none
  deriving DecidableEq, Repr

/-- An interface or protocol declaration. -/
structure InterfaceSymbol where
  name : String
  isExported : Bool := false
  methods : List Method := []
  fields : List Field := []
  extended : Option (List String) := none
  deriving DecidableEq, Repr

/-- A named type and the text of its definition. -/
structure TypeAlias where
  name : String
  isExported : Bool := false
  type : String
  deriving DecidableEq, Repr

/-- A module-level variable. -/
structure Variable where
  name : String
  isExported : Bool := false
  type : String := unspecified
  value : Option String := none
  deriving DecidableEq, Repr

/-- All symbols of one source file. -/
structure Source where
  classes : List ClassSymbol := []
  interfaces : List InterfaceSymbol := []
  types : List TypeAlias := []
  bindings : List Variable := []
  deriving DecidableEq, Repr

instance : Named Parameter := ⟨Parameter.name⟩
instance : Named Method := ⟨Method.name⟩
instance : Named Field := ⟨Field.name⟩
instance : Named ClassSymbol := ⟨ClassSymbol.name⟩
instance : Named InterfaceSymbol := ⟨InterfaceSymbol.name⟩
instance : Named TypeAlias := ⟨TypeAlias.name⟩
instance : Named Variable := ⟨Variable.name⟩

end SymbolDiff
