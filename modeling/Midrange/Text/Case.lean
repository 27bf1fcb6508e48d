import Midrange.Text.Case.Context
import Midrange.Text.Case.Lower
import Midrange.Text.Case.Upper

/-!
# Full case mappings of texts

Upper-casing maps each character by itself, to one, two or three characters. Lower-casing does too,
the capital sigma apart: at the end of a word it becomes `ς`, elsewhere `σ`.

* `upper text`: the full upper-case form, `upperChar` of every character in turn.
* `lower text`: the full lower-case form.

ASCII characters take the first branch of `upperChar` and `lowerChar`, so a mapping of an ASCII
text never reaches the tables.
-/

namespace Midrange.Text

/-- The full upper-case form of one character. -/
def upperChar (c : Char) : List Char :=
  if c.toNat < 128 then [c.toUpper]
  else match upperExpansions.lookup c.toNat with
    | some codes => codes.map Char.ofNat
    | none => [shifted upperRuns c]

/-- The full upper-case form of a text. -/
def upper (text : List Char) : List Char :=
  text.flatMap upperChar

/-- The full lower-case form of one character, whatever stands around it. -/
def lowerChar (c : Char) : List Char :=
  if c.toNat < 128 then [c.toLower]
  else match lowerExpansions.lookup c.toNat with
    | some codes => codes.map Char.ofNat
    | none => [shifted lowerRuns c]

/-- Whether the first character that is not case-ignorable is a cased one. -/
def meetsCased (text : List Char) : Bool :=
  match text.dropWhile isCaseIgnorable with
  | c :: _ => isCased c
  | [] => false

/-- The lower-case form of `c` between the text `before` it, nearest character first, and the text
`after` it: a capital sigma that follows a letter and precedes none is a final one. -/
def lowerBetween (before : List Char) (c : Char) (after : List Char) : List Char :=
  if c = 'Σ' then [if meetsCased before && !meetsCased after then 'ς' else 'σ']
  else lowerChar c

/-- The lower-case form of a text that follows `before`, whose nearest character comes first. -/
def lowerAfter (before : List Char) : List Char → List Char
  | [] => []
  | c :: rest => lowerBetween before c rest ++ lowerAfter (c :: before) rest

/-- The full lower-case form of a text. -/
def lower (text : List Char) : List Char :=
  lowerAfter [] text

end Midrange.Text
