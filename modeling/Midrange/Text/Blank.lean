/-!
# Character ranges and blank characters

A character property is a list of inclusive ranges of code points. The one that the assembler
consults on every line is `White_Space`; the ranges of the other properties stand with the case
mappings that need them.

* `inRanges ranges c` asks whether `c` lies in one of the ranges.
* `isBlank c` is the property `White_Space`. It holds neither of the byte-order mark nor of the
  information separators U+001C to U+001F.
* `trim` takes blanks off both ends of a text.
* `fields sep` cuts a text into its maximal non-empty runs of characters outside `sep`.
-/

namespace Midrange.Text

/-- Whether a character lies in one of the given inclusive ranges of code points. -/
def inRanges (ranges : List (Nat × Nat)) (c : Char) : Bool :=
  ranges.any fun r => r.1 ≤ c.toNat && c.toNat ≤ r.2

/-- The code points with the property `White_Space`. -/
def blankRanges : List (Nat × Nat) :=
  [(0x0009, 0x000D), (0x0020, 0x0020), (0x0085, 0x0085), (0x00A0, 0x00A0), (0x1680, 0x1680),
   (0x2000, 0x200A), (0x2028, 0x2029), (0x202F, 0x202F), (0x205F, 0x205F), (0x3000, 0x3000)]

/-- Whether a character has the property `White_Space`. -/
def isBlank (c : Char) : Bool :=
  inRanges blankRanges c

/-- The text without the blanks at its two ends. -/
def trim (text : List Char) : List Char :=
  ((text.dropWhile isBlank).reverse.dropWhile isBlank).reverse

/-- The maximal non-empty runs of characters that are no separators, in order. -/
def fields (sep : Char → Bool) (text : List Char) : List (List Char) :=
  (text.splitOnP sep).filter fun run => !run.isEmpty

end Midrange.Text
