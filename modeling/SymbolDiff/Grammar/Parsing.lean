import SymbolDiff.Grammar.Python.Statement
import SymbolDiff.Grammar.TypeScript.Statement
import SymbolDiff.Trace

/-!
# Parsing source files

The tree of a source file in each dialect.
-/

namespace SymbolDiff.Grammar

/-- A way to get the tree of a source file in each dialect. -/
abbrev Parser := Dialect → ByteArray → Tree

/-- The tree of a source file. -/
def treeOf : Parser
  | .typescript => TypeScript.treeOf false
  | .tsx => TypeScript.treeOf true
  | .python => Python.treeOf

end SymbolDiff.Grammar
