/-!
# Report trees

A comparison is reported as a tree.  Added and removed entries are leaves;
outline and changed entries hold at least one further entry.  `Node.check` is
the only door for data of unknown shape, and `Node.Shaped` is the condition
that every tree that passes it satisfies.  A comparison that finds nothing has
no tree at all, so `gather` drops a heading over nothing.
-/

namespace SymbolDiff

/-- What an entry of a report says about its label. -/
inductive Kind where
  | outline
  | added
  | removed
  | changed
  deriving DecidableEq, Repr

/-- The four kinds, in the order in which they are offered. -/
def Kind.all : List Kind :=
  [.outline, .added, .removed, .changed]

def Kind.word : Kind → String
  | .outline => "outline"
  | .added => "added"
  | .removed => "removed"
  | .changed => "changed"

/-- Additions and removals hold nothing further. -/
def Kind.isLeaf : Kind → Bool
  | .outline => false
  | .added => true
  | .removed => true
  | .changed => false

/-- An entry of a report with the entries below it. -/
inductive Node where
  | mk (label : String) (kind : Kind) (children : List Node)
  deriving Repr

namespace Node

def label : Node → String
  | .mk label _ _ => label

def kind : Node → Kind
  | .mk _ kind _ => kind

def children : Node → List Node
  | .mk _ _ children => children

/-- An entry for something that only the new side has. -/
def added (label : String) : Node :=
  .mk label .added []

/-- An entry for something that only the old side has. -/
def removed (label : String) : Node :=
  .mk label .removed []

/-- An entry for a value that differs, with the old value before the new one. -/
def replaced (label old new : String) : Node :=
  .mk label .changed [removed old, added new]

/-- A node whose kind does not go with what stands below it. -/
inductive ShapeFault where
  | childrenOnLeaf (kind : Kind) (label : String)
  | emptySection (kind : Kind) (label : String)
  deriving DecidableEq, Repr

def ShapeFault.message : ShapeFault → String
  | .childrenOnLeaf kind label =>
    kind.word ++ " node '" ++ label ++ "' cannot have children"
  | .emptySection kind label =>
    kind.word ++ " node '" ++ label ++ "' requires at least one child"

/-- Builds a node from parts of unknown shape.  Even an empty list counts as
children of a leaf. -/
def check (label : String) (kind : Kind) (children : Option (List Node)) :
    Except ShapeFault Node :=
  match children with
  | none =>
    if kind.isLeaf then .ok (.mk label kind [])
    else .error (.emptySection kind label)
  | some present =>
    if kind.isLeaf then .error (.childrenOnLeaf kind label)
    else if present.isEmpty then .error (.emptySection kind label)
    else .ok (.mk label kind present)

/-- The entries that are present, under one heading; nothing when none is. -/
def gather (label : String) (kind : Kind) (results : List (Option Node)) :
    Option Node :=
  match results.filterMap id with
  | [] => none
  | first :: rest => some (.mk label kind (first :: rest))

/-- As `gather`, for a kind that may turn out not to admit entries below it. -/
def prepare (label : String) (kind : Kind) (results : List (Option Node)) :
    Except ShapeFault (Option Node) :=
  match results.filterMap id with
  | [] => .ok none
  | first :: rest => (check label kind (some (first :: rest))).map some

/-- A heading that admits entries is always accepted. -/
theorem prepare_eq_gather {kind : Kind} (inner : kind.isLeaf = false)
    (label : String) (results : List (Option Node)) :
    prepare label kind results = .ok (gather label kind results) := by
  unfold prepare gather
  split
  · rfl
  · simp [check, inner, Except.map]

mutual

/-- Leaves have no entries below them, the other kinds have at least one, all
the way down. -/
def Shaped : Node → Prop
  | .mk _ kind children =>
    (kind.isLeaf = true ↔ children = []) ∧ ShapedList children

def ShapedList : List Node → Prop
  | [] => True
  | node :: rest => Shaped node ∧ ShapedList rest

end

mutual

/-- How many entries of a kind there are in a tree. -/
def count (wanted : Kind) : Node → Nat
  | .mk _ kind children =>
    (if kind = wanted then 1 else 0) + countList wanted children

def countList (wanted : Kind) : List Node → Nat
  | [] => 0
  | node :: rest => count wanted node + countList wanted rest

end

end Node

end SymbolDiff
