import SymbolDiff.Path
import SymbolDiff.Tree

/-!
# Faults of extraction

A tree may lack something that a declaration has to have, or hold bytes that
are no text.  Such a fault names what is wrong, the node at which it was found
and, once the file is known, its path.
-/

namespace SymbolDiff.Extract

/-- What a tree can fall short of. -/
inductive Shortfall where
  | noText (kind : String)
  | notUtf8 (kind : String)
  | missingRole (kind role : String)
  | namelessParameter
  | namelessAlias
  deriving DecidableEq, Repr

def Shortfall.message : Shortfall → String
  | .noText kind => kind ++ " node has no source text"
  | .notUtf8 kind => kind ++ " node text is not valid UTF-8"
  | .missingRole kind role => kind ++ " node is missing its '" ++ role ++ "'"
  | .namelessParameter => "typed_parameter node has no name"
  | .namelessAlias => "type alias target has no name"

/-- A reason why a source file could not be reduced to its symbols. -/
structure Fault where
  message : String
  path : Option Path := none
  kind : Option String := none
  line : Option Int := none
  deriving DecidableEq, Repr

namespace Fault

/-- A shortfall found at a node. -/
def found (source : ByteArray) (tree : Tree) (shortfall : Shortfall) : Fault :=
  { message := shortfall.message, kind := some tree.kind,
    line := some (tree.line source) }

/-- The fault in a file that is now known. -/
def inFile (fault : Fault) (path : Path) : Fault :=
  { fault with path := some path }

/-- File and line, as far as they are known. -/
def location (fault : Fault) : String :=
  let file := match fault.path with
    | some path => path.toText
    | none => "<source>"
  match fault.line with
  | some line => file ++ ":" ++ toString line
  | none => file

/-- The fault as it is shown. -/
def text (fault : Fault) : String :=
  fault.location ++ ": " ++ fault.message

end Fault

end SymbolDiff.Extract
