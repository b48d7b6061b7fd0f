/-!
# Loosely typed data

Settings files and stored reports arrive as values whose shape is not known in
advance.  `Data` is that value: scalars, lists and keyed tables, with calendar
dates kept apart because a settings file can hold them.  A real number is kept
as an exact binary fraction, so that whether it is a whole number can be
decided without rounding.
-/

namespace SymbolDiff

/-- A real number as it is stored: `mantissa * 2 ^ exponent`, or one of the
values beyond every number. -/
inductive Real where
  | finite (mantissa : Int) (exponent : Int)
  | infinite
  | undefined
  deriving DecidableEq, Repr, Inhabited

/-- The whole number that a stored real is, when it is one. -/
def Real.whole? : Real → Option Int
  | .finite mantissa exponent =>
    if 0 ≤ exponent then
      some (mantissa * (Nat.pow 2 exponent.toNat : Nat))
    else
      let unit : Int := (Nat.pow 2 (-exponent).toNat : Nat)
      if mantissa % unit = 0 then some (mantissa / unit) else none
  | .infinite => none
  | .undefined => none

/-- A value read from a settings file or from a stored report. -/
inductive Data where
  | null
  | bool (value : Bool)
  | integer (value : Int)
  | real (value : Real)
  | text (value : String)
  | date
  | list (items : List Data)
  | table (entries : List (String × Data))
  deriving Inhabited

/-- The value that a table holds under a key: the first one that is entered. -/
def Data.lookup (key : String) : List (String × Data) → Option Data
  | [] => none
  | (name, value) :: rest =>
    if name = key then some value else Data.lookup key rest

end SymbolDiff
