/-!
# Strictness

Two switches say what the assembler refuses instead of reading it leniently. Everything is lenient
unless a switch is on.
-/

namespace Midrange

/-- What the assembler refuses to read leniently. -/
structure Strictness where
  /-- Refuse literals with characters that are no digits of their base. -/
  literals : Bool := false
  /-- Refuse destinations other than `F`, `W`, `0` and `1`. -/
  destination : Bool := false
  deriving DecidableEq, Repr

/-- Both switches on. -/
def Strictness.full : Strictness where
  literals := true
  destination := true

end Midrange
