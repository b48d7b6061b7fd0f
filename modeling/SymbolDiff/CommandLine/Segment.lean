/-!
# Arguments for the generators

Two words of a command line open a segment of words that are meant for a
generator: all words up to the next such word belong to the old or to the new
generation.  The words before the first of them are meant for this program.
-/

namespace SymbolDiff.CommandLine

/-- The word that opens a segment for the old generation. -/
def oldMark : String := "--old-args"

/-- The word that opens a segment for the new generation. -/
def newMark : String := "--new-args"

/-- Whom a word is meant for. -/
inductive Recipient where
  | program
  | old
  | new
  deriving DecidableEq, Repr

/-- A command line by whom its words are meant for. -/
structure Segments where
  program : List String := []
  old : List String := []
  new : List String := []
  deriving DecidableEq, Repr

/-- Puts a word before those of its recipient. -/
def Segments.prepend (word : String) (segments : Segments) :
    Recipient → Segments
  | .program => { segments with program := word :: segments.program }
  | .old => { segments with old := word :: segments.old }
  | .new => { segments with new := word :: segments.new }

/-- The segments of words of which the first are meant for the given recipient.
-/
def segmentsFrom (recipient : Recipient) : List String → Segments
  | [] => {}
  | word :: rest =>
    if word = oldMark then segmentsFrom .old rest
    else if word = newMark then segmentsFrom .new rest
    else (segmentsFrom recipient rest).prepend word recipient

/-- The segments of a command line. -/
def segments (words : List String) : Segments :=
  segmentsFrom .program words

end SymbolDiff.CommandLine
