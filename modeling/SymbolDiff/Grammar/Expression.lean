import Std.Data.HashMap
import SymbolDiff.Tree

/-!
# Parsing expressions

A grammar is a parsing expression for each of its rules.  Choice is ordered and
repetition is greedy, so that a grammar describes at most one way to read an
input.  `Expression.run` reads a tape of items: it is total because every call
spends one unit of fuel, and it takes time linear in the tape because the
outcome of a rule at a position is kept.

Items that do not count, such as blanks and comments, are passed over only
where an expression says so, always in front of what is to be read, so that a
node ends with the last item it holds.
-/

namespace SymbolDiff.Grammar

/-- The items of an input with what is known about their places. -/
structure Tape (item : Type) where
  items : Array item
  /-- For each position, the position of the next item that counts. -/
  next : Array Nat
  /-- For each position, whether a line ends before the next item that counts.
  -/
  breaks : Array Bool
  /-- The byte at which the item at a position starts. -/
  start : Nat → Nat
  /-- The byte before which the items up to a position end. -/
  stop : Nat → Nat

/-- A parsing expression over items, with rules named by `rule`. -/
inductive Expression (item rule : Type) where
  /-- Reads nothing. -/
  | nothing
  /-- One item that satisfies a test. -/
  | one (accept : item → Bool)
  /-- As many items as satisfy a test. -/
  | span (accept : item → Bool)
  /-- Exactly these items. -/
  | exactly (items : List item)
  /-- Passes over what does not count. -/
  | skip
  /-- Holds where a line ends before the next item that counts. -/
  | lineBreak
  /-- Holds where no item that counts is left. -/
  | finish
  /-- One after the other. -/
  | both (first second : Expression item rule)
  /-- The second only where the first fails. -/
  | either (first second : Expression item rule)
  /-- Again and again, as long as something is read. -/
  | many (body : Expression item rule)
  /-- Holds where the body could be read, and reads nothing. -/
  | ahead (body : Expression item rule)
  /-- Holds where the body could not be read, and reads nothing. -/
  | unless (body : Expression item rule)
  /-- What a rule stands for. -/
  | rule (name : rule)
  /-- Gathers the nodes that the body makes below one node. -/
  | node (kind : String) (role : Option String) (isNamed : Bool)
    (body : Expression item rule)

/-- How far reading has come, with the nodes made so far, the latest first. -/
structure Progress where
  position : Nat
  trees : List Tree

/-- Outcomes of rules by position. -/
abbrev Outcomes (rule : Type) [BEq rule] [Hashable rule] :=
  Std.HashMap (rule × Nat) (Option Progress)

variable {item rule : Type} [BEq item] [BEq rule] [Hashable rule]

/-- The position after the items that satisfy a test, looking at no more than
`fuel` of them. -/
def spanFrom (items : Array item) (accept : item → Bool) : Nat → Nat → Nat
  | 0, position => position
  | fuel + 1, position =>
    match items[position]? with
    | some item =>
      if accept item then spanFrom items accept fuel (position + 1)
      else position
    | none => position

/-- The position after exactly the given items. -/
def exactlyFrom? (items : Array item) : List item → Nat → Option Nat
  | [], position => some position
  | wanted :: rest, position =>
    match items[position]? with
    | some item =>
      if item == wanted then exactlyFrom? items rest (position + 1) else none
    | none => none

mutual

/-- Reads an expression from where reading has come to. -/
def Expression.run (grammar : rule → Expression item rule) (tape : Tape item) :
    Nat → Expression item rule → Progress → Outcomes rule →
      Option Progress × Outcomes rule
  | 0, _, _, known => (none, known)
  | fuel + 1, expression, progress, known =>
    match expression with
    | .nothing => (some progress, known)
    | .one accept =>
      match tape.items[progress.position]? with
      | some item =>
        if accept item then
          (some { progress with position := progress.position + 1 }, known)
        else (none, known)
      | none => (none, known)
    | .span accept =>
      let position :=
        spanFrom tape.items accept tape.items.size progress.position
      (some { progress with position }, known)
    | .exactly items =>
      match exactlyFrom? tape.items items progress.position with
      | some position => (some { progress with position }, known)
      | none => (none, known)
    | .skip =>
      (some { progress with
        position := tape.next.getD progress.position progress.position }, known)
    | .lineBreak =>
      if tape.breaks.getD progress.position false then (some progress, known)
      else (none, known)
    | .finish =>
      if tape.items.size ≤
        tape.next.getD progress.position progress.position then
        (some progress, known)
      else (none, known)
    | .both first second =>
      match first.run grammar tape fuel progress known with
      | (some further, known) => second.run grammar tape fuel further known
      | (none, known) => (none, known)
    | .either first second =>
      match first.run grammar tape fuel progress known with
      | (some further, known) => (some further, known)
      | (none, known) => second.run grammar tape fuel progress known
    | .many body => body.repeat grammar tape fuel progress known
    | .ahead body =>
      match body.run grammar tape fuel progress known with
      | (some _, known) => (some progress, known)
      | (none, known) => (none, known)
    | .unless body =>
      match body.run grammar tape fuel progress known with
      | (some _, known) => (none, known)
      | (none, known) => (some progress, known)
    | .rule name =>
      match known[(name, progress.position)]? with
      | some (some outcome) =>
        (some { outcome with trees := outcome.trees ++ progress.trees }, known)
      | some none => (none, known)
      | none =>
        match (grammar name).run grammar tape fuel
          ⟨progress.position, []⟩ known with
        | (some outcome, known) =>
          (some { outcome with trees := outcome.trees ++ progress.trees },
            known.insert (name, progress.position) (some outcome))
        | (none, known) => (none, known.insert (name, progress.position) none)
    | .node kind role isNamed body =>
      let position := tape.next.getD progress.position progress.position
      match body.run grammar tape fuel ⟨position, []⟩ known with
      | (some inner, known) =>
        let head : Head :=
          { kind, role, isNamed, start := tape.start position,
            stop := tape.stop inner.position }
        (some ⟨inner.position,
          .node head inner.trees.reverse :: progress.trees⟩, known)
      | (none, known) => (none, known)

/-- Reads an expression as often as it can be read and moves on. -/
def Expression.repeat (grammar : rule → Expression item rule)
    (tape : Tape item) :
    Nat → Expression item rule → Progress → Outcomes rule →
      Option Progress × Outcomes rule
  | 0, _, progress, known => (some progress, known)
  | fuel + 1, body, progress, known =>
    match body.run grammar tape fuel progress known with
    | (some further, known) =>
      if progress.position < further.position then
        body.repeat grammar tape fuel further known
      else (some progress, known)
    | (none, known) => (some progress, known)

end

/-- Fuel that no reading of a tape uses up: rules do not call themselves
without reading an item, so that there is a bound on the calls between two
items. -/
def fuelFor (tape : Tape item) : Nat :=
  4096 * (tape.items.size + 1)

/-- The nodes that a rule makes of the start of a tape; none when it cannot be
read. -/
def parse (grammar : rule → Expression item rule) (start : rule)
    (tape : Tape item) : List Tree :=
  match ((Expression.rule start).run grammar tape (fuelFor tape)
    ⟨0, []⟩ ∅).1 with
  | some progress => progress.trees.reverse
  | none => []

namespace Expression

/-- All of some expressions, in order. -/
def all : List (Expression item rule) → Expression item rule
  | [] => .nothing
  | [only] => only
  | first :: rest => .both first (all rest)

/-- The first of some expressions that can be read. -/
def any : List (Expression item rule) → Expression item rule
  | [] => .unless .nothing
  | [only] => only
  | first :: rest => .either first (any rest)

/-- Read if possible. -/
def optional (body : Expression item rule) : Expression item rule :=
  .either body .nothing

/-- At least once. -/
def some (body : Expression item rule) : Expression item rule :=
  .both body (.many body)

/-- Members with separators between them, of which the last may have one after
it too. -/
def separated (separator body : Expression item rule) : Expression item rule :=
  optional (all [body, .many (.both separator body), optional separator])

/-- A node that plays no role. -/
def tree (kind : String) (body : Expression item rule) : Expression item rule :=
  .node kind none true body

/-- A node in a role. -/
def inRole (role kind : String) (body : Expression item rule) :
    Expression item rule :=
  .node kind (Option.some role) true body

end Expression

end SymbolDiff.Grammar
