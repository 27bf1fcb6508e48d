/-!
# Runs of shifted code points

Most case mappings move a whole block of letters by one distance, either every letter of the block
or every second one. A `Run` is such a block; a mapping is a list of runs, and a code point outside
all of them maps to itself (`shifted`).
-/

namespace Midrange.Text

/-- The code points `first`, `first + step`, …, `last`; each maps to itself plus `shift`. -/
structure Run where
  /-- The least code point of the run. -/
  first : Nat
  /-- The greatest code point of the run. -/
  last : Nat
  /-- The distance between neighbours: 1 or 2. -/
  step : Nat
  /-- What the mapping adds. -/
  shift : Int
  deriving DecidableEq, Repr

/-- Whether a code point belongs to the run. -/
def Run.holds (run : Run) (code : Nat) : Bool :=
  run.first ≤ code && code ≤ run.last && (code - run.first) % run.step == 0

/-- The image of a character under the first run that holds it, or the character itself. -/
def shifted (runs : List Run) (c : Char) : Char :=
  match runs.find? (·.holds c.toNat) with
  | some run => Char.ofNat ((c.toNat : Int) + run.shift).toNat
  | none => c

end Midrange.Text
