import Midrange.Word
import Midrange.Fault

/-!
# Assembled programs

A program is what one pass over a source leaves behind: the words that were placed and the errors
that were met, each list in source order.
-/

namespace Midrange

/-- A word at its address. -/
structure Placed where
  /-- Where the word stands. -/
  address : Word
  /-- The word. -/
  value : Word
  deriving DecidableEq, Repr

/-- A fault at its line. -/
structure Diagnostic where
  /-- The number of the line, counted from 1. -/
  line : Nat
  /-- What is wrong with it. -/
  fault : Fault
  deriving DecidableEq, Repr

/-- The text shown for a diagnostic: the number of the line and the fault. -/
def Diagnostic.message (diagnostic : Diagnostic) : String :=
  "Línea " ++ toString diagnostic.line ++ ": " ++ diagnostic.fault.message

/-- The words and errors of one pass. -/
structure Program where
  /-- The words, in the order in which they were emitted. -/
  words : List Placed := []
  /-- The errors, by line. -/
  errors : List Diagnostic := []
  deriving DecidableEq, Repr

end Midrange
