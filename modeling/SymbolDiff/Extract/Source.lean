import SymbolDiff.Extract.Python
import SymbolDiff.Extract.TypeScript
import SymbolDiff.Grammar.Parsing

/-!
# Symbols of a tree in any dialect

A tree with errors is remarked upon and then reduced as far as it goes.
-/

namespace SymbolDiff.Extract

/-- The symbols of a tree, by the rules of its dialect. -/
def ofRoot : Dialect → ByteArray → Tree → Except Fault Source
  | .typescript => TypeScript.extractRoot
  | .tsx => TypeScript.extractRoot
  | .python => Python.extractRoot

/-- The symbols of a tree that may hold errors. -/
def ofTree (dialect : Dialect) (source : ByteArray) (tree : Tree) :
    Traced (Except Fault Source) := do
  if let some line := firstErrorLine source tree then
    Traced.remark (.syntaxError dialect line)
  return ofRoot dialect source tree

/-- The symbols of a source file. -/
def ofSource (dialect : Dialect) (source : ByteArray)
    (parse : Grammar.Parser := Grammar.treeOf) : Traced (Except Fault Source) :=
  ofTree dialect source (parse dialect source)

end SymbolDiff.Extract
