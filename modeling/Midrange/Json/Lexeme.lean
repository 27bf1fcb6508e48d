import Midrange.Text.Digit

/-!
# Reading the pieces of a JSON text

A JSON text is read from the front, and the first problem met ends the reading. Each reader takes
the text that is left and returns the text after what it read.

* `readWord`: the rest of `null`, `true` or `false`.
* `readString`: a string whose characters matter; its escapes are decoded, and escaped surrogates
  have to come in pairs.
* `skipString`: a string whose characters do not matter.
* `skipNumber`: a number whose value does not matter.

An escape of four hexadecimal digits is looked at as a whole: while fewer than four bytes are left
the text counts as truncated, whatever these bytes are.
-/

namespace Midrange.Json

/-- Why a text is not accepted. -/
inductive Problem where
  /-- A value of another kind than the one that is expected, or a repeated name. -/
  | mismatched
  /-- The text ends where more is needed. -/
  | truncated
  /-- A character that cannot stand where it stands. -/
  | malformed
  deriving DecidableEq, Repr

/-- The blanks between the pieces of a text. -/
def isSpace (c : Char) : Bool :=
  c == ' ' || c == '\t' || c == '\n' || c == '\r'

/-- The text after its leading blanks. -/
def skipSpace (text : List Char) : List Char :=
  text.dropWhile isSpace

/-- Reads the given characters. -/
def readWord : List Char → List Char → Except Problem (List Char)
  | [], text => .ok text
  | _ :: _, [] => .error .truncated
  | w :: word, c :: text => if c = w then readWord word text else .error .malformed

/-! ## Strings -/

/-- The character that a letter after a backslash stands for. -/
def unescape? (c : Char) : Option Char :=
  match c with
  | '"' => some '"'
  | '\\' => some '\\'
  | '/' => some '/'
  | 'b' => some '\x08'
  | 'f' => some '\x0c'
  | 'n' => some '\n'
  | 'r' => some '\r'
  | 't' => some '\t'
  | _ => none

/-- Whether four characters are hexadecimal digits. -/
def areHex (a b c d : Char) : Bool :=
  [a, b, c, d].all (Text.isDigit 16)

/-- The value of four hexadecimal digits. -/
def hexValue (a b c d : Char) : Nat :=
  [a, b, c, d].foldl (fun value digit => value * 16 + Text.digitValue digit) 0

/-- What is wrong with a text that does not start with four hexadecimal digits. -/
def hexProblem (text : List Char) : Problem :=
  if (text.take 4).foldl (fun size c => size + c.utf8Size) 0 < 4 then .truncated else .malformed

/-- Whether a code unit is the first of a surrogate pair. -/
def isLeading (unit : Nat) : Bool :=
  0xD800 ≤ unit && unit ≤ 0xDBFF

/-- Whether a code unit is the second of a surrogate pair. -/
def isTrailing (unit : Nat) : Bool :=
  0xDC00 ≤ unit && unit ≤ 0xDFFF

/-- The character of a surrogate pair. -/
def pairedChar (leading trailing : Nat) : Char :=
  Char.ofNat (0x10000 + (leading - 0xD800) * 0x400 + (trailing - 0xDC00))

/-- Skips a string after its opening quote. -/
def skipString : List Char → Except Problem (List Char)
  | [] => .error .truncated
  | '"' :: rest => .ok rest
  | ['\\'] => .error .truncated
  | '\\' :: 'u' :: rest =>
    match rest with
    | a :: b :: c :: d :: after =>
      if areHex a b c d then skipString after else .error (hexProblem rest)
    | _ => .error (hexProblem rest)
  | '\\' :: letter :: rest =>
    if (unescape? letter).isSome then skipString rest else .error .malformed
  | c :: rest => if c.toNat < 0x20 then .error .malformed else skipString rest

/-- Puts a character in front of a string that was read. -/
def consRead (c : Char) (read : Except Problem (List Char × List Char)) :
    Except Problem (List Char × List Char) :=
  read.map fun (characters, rest) => (c :: characters, rest)

/-- Reads a string after its opening quote, and returns its characters and what follows it. -/
def readString : List Char → Except Problem (List Char × List Char)
  | [] => .error .truncated
  | '"' :: rest => .ok ([], rest)
  | ['\\'] => .error .truncated
  | '\\' :: 'u' :: rest =>
    match rest with
    | a :: b :: c :: d :: after =>
      if !areHex a b c d then .error (hexProblem rest)
      else if isTrailing (hexValue a b c d) then .error .malformed
      else if !isLeading (hexValue a b c d) then
        consRead (Char.ofNat (hexValue a b c d)) (readString after)
      else
        match after with
        | [] => .error .truncated
        | ['\\'] => .error .truncated
        | '\\' :: 'u' :: second =>
          match second with
          | e :: f :: g :: h :: last =>
            if !areHex e f g h then .error (hexProblem second)
            else if !isTrailing (hexValue e f g h) then .error .malformed
            else consRead (pairedChar (hexValue a b c d) (hexValue e f g h)) (readString last)
          | _ => .error (hexProblem second)
        | _ => .error .malformed
    | _ => .error (hexProblem rest)
  | '\\' :: letter :: rest =>
    match unescape? letter with
    | some c => consRead c (readString rest)
    | none => .error .malformed
  | c :: rest => if c.toNat < 0x20 then .error .malformed else consRead c (readString rest)

/-! ## Numbers -/

/-- Whether a character is a decimal digit. -/
def isDecimal (c : Char) : Bool :=
  Text.isDigit 10 c

/-- Whether a text starts with a decimal digit. -/
def startsWithDigit (text : List Char) : Bool :=
  text.head?.any isDecimal

/-- Skips one or more digits. -/
def skipDigits (text : List Char) : Except Problem (List Char) :=
  if startsWithDigit text then .ok (text.dropWhile isDecimal) else .error .malformed

/-- The text after an optional sign. -/
def skipSign : List Char → List Char
  | '+' :: rest => rest
  | '-' :: rest => rest
  | text => text

/-- Skips an exponent, if there is one. -/
def skipExponent : List Char → Except Problem (List Char)
  | 'e' :: rest => skipDigits (skipSign rest)
  | 'E' :: rest => skipDigits (skipSign rest)
  | text => .ok text

/-- Skips a fraction and an exponent, if there are any. -/
def skipFraction : List Char → Except Problem (List Char)
  | '.' :: rest => skipDigits rest >>= skipExponent
  | text => skipExponent text

/-- Skips a number after its sign. A leading zero stands alone before the point. -/
def skipNumber : List Char → Except Problem (List Char)
  | '0' :: rest => if startsWithDigit rest then .error .malformed else skipFraction rest
  | text => skipDigits text >>= skipFraction

end Midrange.Json
