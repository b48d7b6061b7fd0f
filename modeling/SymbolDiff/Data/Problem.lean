import SymbolDiff.Text.Order

/-!
# Problems of loosely typed data

A value that does not have the shape a reader expects has one problem for each
place that is wrong.  A problem says where it lies, from the outside in, and
what is wrong there.
-/

namespace SymbolDiff

/-- One step from a value to a part of it. -/
inductive Place where
  | key (name : String)
  | index (position : Nat)
  deriving DecidableEq, Repr

/-- The text by which steps are ordered. -/
def Place.text : Place → String
  | .key name => name
  | .index position => toString position

/-- What can be wrong with a part of a value. -/
inductive Defect where
  | missing
  | unknownKey
  | notText
  | notFlag
  | unreadableFlag
  | notInteger
  | unreadableInteger
  | fractionalInteger
  | boundlessInteger
  | oversizedInteger
  | negative
  | notList
  | notSequence
  | notOneOf (choices : List String)
  | notRecord (model : String)
  | notPath
  | badShape (reason : String)
  deriving DecidableEq, Repr

/-- A value is wrong at one place. -/
structure Problem where
  location : List Place
  defect : Defect
  deriving DecidableEq, Repr

/-- Choices as they are offered to a reader: quoted, with `or` before the last.
-/
def offerChoices : List String → String
  | [] => ""
  | [only] => "'" ++ only ++ "'"
  | [first, second] => "'" ++ first ++ "' or '" ++ second ++ "'"
  | first :: rest => "'" ++ first ++ "', " ++ offerChoices rest

/-- The short name of a defect. -/
def Defect.code : Defect → String
  | .missing => "missing"
  | .unknownKey => "extra_forbidden"
  | .notText => "string_type"
  | .notFlag => "bool_type"
  | .unreadableFlag => "bool_parsing"
  | .notInteger => "int_type"
  | .unreadableInteger => "int_parsing"
  | .fractionalInteger => "int_from_float"
  | .boundlessInteger => "finite_number"
  | .oversizedInteger => "int_parsing_size"
  | .negative => "greater_than_equal"
  | .notList => "list_type"
  | .notSequence => "tuple_type"
  | .notOneOf _ => "literal_error"
  | .notRecord _ => "model_type"
  | .notPath => "path_type"
  | .badShape _ => "value_error"

/-- The sentence that explains a defect. -/
def Defect.message : Defect → String
  | .missing => "Field required"
  | .unknownKey => "Extra inputs are not permitted"
  | .notText => "Input should be a valid string"
  | .notFlag => "Input should be a valid boolean"
  | .unreadableFlag =>
    "Input should be a valid boolean, unable to interpret input"
  | .notInteger => "Input should be a valid integer"
  | .unreadableInteger =>
    "Input should be a valid integer, unable to parse string as an integer"
  | .fractionalInteger =>
    "Input should be a valid integer, got a number with a fractional part"
  | .boundlessInteger => "Input should be a finite number"
  | .oversizedInteger =>
    "Unable to parse input string as an integer, exceeded maximum size"
  | .negative => "Input should be greater than or equal to 0"
  | .notList => "Input should be a valid list"
  | .notSequence => "Input should be a valid tuple"
  | .notOneOf choices => "Input should be " ++ offerChoices choices
  | .notRecord model =>
    "Input should be a valid dictionary or instance of " ++ model
  | .notPath => "Input is not a valid path for <class 'pathlib.Path'>"
  | .badShape reason => "Value error, " ++ reason

/-- The problem seen from one step further out. -/
def Problem.under (place : Place) (problem : Problem) : Problem :=
  { problem with location := place :: problem.location }

/-- Problems are listed by where they lie, and those at one place by the name
of the defect. -/
def Problem.notAfter (first second : Problem) : Bool :=
  let left := first.location.map Place.text
  let right := second.location.map Place.text
  if Text.listBefore left right then true
  else if Text.listBefore right left then false
  else !decide (second.defect.code < first.defect.code)

/-- The problems in the order in which they are shown. -/
def Problem.inOrder (problems : List Problem) : List Problem :=
  problems.mergeSort Problem.notAfter

end SymbolDiff
