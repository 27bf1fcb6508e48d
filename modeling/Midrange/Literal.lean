import Midrange.Fault
import Midrange.Text.Blank
import Midrange.Text.Digit
import Midrange.Word

/-!
# Numeric literals

A literal is read in two steps: its token is cleaned and its base selected, and then the longest
run of digits of that base is read. Values are 64 bits wide and wrap.

* `clean token` trims the token and deletes its commas.
* `scan radix text` reads an optionally signed run of digits. The reading says whether anything
  stood after the run; no run at all is not a number.
* `read token` selects the base: `0x…`, `0b…`, `…h`, and decimal otherwise. An empty token reads as
  zero.
* `value? token` keeps the value of a reading, `exact token` insists on a complete one.
* `field mask value` is what a value contributes to an instruction word.
-/

namespace Midrange.Literal

/-- The value of a literal, in 64-bit two's complement. -/
abbrev Value := BitVec 64

/-- What reading a run of digits found. -/
structure Reading where
  /-- The value of the run, negated after a minus sign. -/
  value : Value
  /-- Whether the run reached the end of the text. -/
  complete : Bool
  deriving DecidableEq, Repr

/-- The trimmed token without its commas. -/
def clean (token : List Char) : List Char :=
  (Text.trim token).filter (· != ',')

/-! ## Runs of digits -/

/-- The positional value of a run of digits, modulo 2^64. -/
def accumulate (radix : Nat) (digits : List Char) : Value :=
  digits.foldl (fun acc c => acc * BitVec.ofNat 64 radix + BitVec.ofNat 64 (Text.digitValue c)) 0

/-- Takes one leading sign off a text, and says whether it was a minus. -/
def splitSign : List Char → Bool × List Char
  | '-' :: rest => (true, rest)
  | '+' :: rest => (false, rest)
  | text => (false, text)

/-- Takes a leading `0x` or `0X` off a text. -/
def dropHexMark : List Char → List Char
  | '0' :: 'x' :: rest => rest
  | '0' :: 'X' :: rest => rest
  | text => text

/-- What follows the sign, and in base 16 the second mark that may stand after it. -/
def body (radix : Nat) (text : List Char) : List Char :=
  if radix = 16 then dropHexMark (splitSign text).2 else (splitSign text).2

/-- Reads the longest run of digits after an optional sign. -/
def scan (radix : Nat) (text : List Char) : Option Reading :=
  let rest := body radix text
  let run := rest.takeWhile (Text.isDigit radix)
  if run.isEmpty then none
  else
    let magnitude := accumulate radix run
    some
      { value := if (splitSign text).1 then -magnitude else magnitude
        complete := run.length == rest.length }

/-! ## Tokens -/

/-- Whether a text ends in the mark `h` or `H` of a hexadecimal literal. -/
def endsInHexMark (text : List Char) : Bool :=
  text.getLast? == some 'h' || text.getLast? == some 'H'

/-- The radix that a cleaned token announces, and the text to be scanned in it. -/
def selectBase : List Char → Nat × List Char
  | '0' :: 'x' :: rest => (16, rest)
  | '0' :: 'X' :: rest => (16, rest)
  | '0' :: 'b' :: rest => (2, rest)
  | '0' :: 'B' :: rest => (2, rest)
  | text => if endsInHexMark text then (16, text.dropLast) else (10, text)

/-- Reads a token as a literal; `none` if it is not a number. -/
def read (token : List Char) : Option Reading :=
  let text := clean token
  if text.isEmpty then some ⟨0, true⟩
  else scan (selectBase text).1 (selectBase text).2

/-- The value of a token, whatever stands after its digits. -/
def value? (token : List Char) : Option Value :=
  (read token).map (·.value)

/-- The value of a token that is a literal from end to end. -/
def exact (token : List Char) : Except Fault Value :=
  match read token with
  | some ⟨value, true⟩ => .ok value
  | _ => .error (.invalidLiteral (clean token))

/-- The bits of a value under a mask. What is not a number contributes none. -/
def field (mask : Word) : Option Value → Word
  | some value => value.setWidth 16 &&& mask
  | none => 0

end Midrange.Literal
