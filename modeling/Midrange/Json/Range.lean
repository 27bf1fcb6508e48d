import Midrange.Json.Lexeme

/-!
# Values where others are expected

A number that stands where something else is expected is a value of the wrong kind, but only once
it is a number: it may end too early, be spelled wrongly, or lie beyond the range of a double.
`numberProblem` says which of these it is, and `mismatch` says it of a value of any kind.

A number is weighed as `significand · 10^exponent`. The significand gathers digits while it fits in
64 bits; further digits before the point raise the exponent and further digits after it are dropped.
-/

namespace Midrange.Json

/-- A decimal number as far as its digits are kept. -/
structure Decimal where
  /-- The digits that are kept. -/
  significand : Nat
  /-- The power of ten that goes with them. -/
  exponent : Int
  /-- Whether a digit of the current part did not fit. -/
  full : Bool := false
  deriving DecidableEq, Repr

namespace Decimal

/-- Whether one more digit fits. -/
def fits (d : Decimal) (digit : Nat) : Bool :=
  !d.full && d.significand * 10 + digit < 1 <<< 64

/-- Takes in a digit before the point. -/
def pushWhole (d : Decimal) (c : Char) : Decimal :=
  if d.fits (Text.digitValue c) then
    { d with significand := d.significand * 10 + Text.digitValue c }
  else { d with exponent := d.exponent + 1, full := true }

/-- Takes in a digit after the point. -/
def pushFraction (d : Decimal) (c : Char) : Decimal :=
  if d.fits (Text.digitValue c) then
    { d with
      significand := d.significand * 10 + Text.digitValue c
      exponent := d.exponent - 1 }
  else { d with full := true }

end Decimal

/-- A natural number rounded to 53 significant bits, a half going to the even neighbour. -/
def round53 (n : Nat) : Nat :=
  let drop := n.log2 - 52
  let quotient := n >>> drop
  let twice := 2 * (n - quotient <<< drop)
  let up := decide (1 <<< drop < twice) || (twice == 1 <<< drop && quotient % 2 == 1)
  (if up then quotient + 1 else quotient) <<< drop

/-- The least number that rounds to infinity: halfway between the greatest double and 2^1024. -/
def overflowBound : Nat :=
  1 <<< 1024 - 1 <<< 970

/-- Whether the number lies beyond the range of a double, its significand and its power of ten being
rounded before they are multiplied. -/
def Decimal.overflows (d : Decimal) : Bool :=
  d.significand != 0 && (308 < d.exponent ||
    (0 ≤ d.exponent &&
      overflowBound ≤ round53 d.significand * round53 (Nat.pow 10 d.exponent.toNat)))

/-- What is wrong with a number that has been read to its end. -/
def wholeProblem (d : Decimal) : Problem :=
  if d.overflows then .malformed else .mismatched

/-- What is wrong with a number whose exponent digits follow. -/
def exponentDigitsProblem (d : Decimal) (negative : Bool) (text : List Char) : Problem :=
  if text.isEmpty then .truncated
  else if !startsWithDigit text then .malformed
  else
    let digits := text.takeWhile isDecimal
    let value := digits.foldl (fun value c => value * 10 + Text.digitValue c) 0
    wholeProblem
      { d with exponent := if negative then d.exponent - value else d.exponent + value }

/-- What is wrong with a number whose exponent, if any, follows. -/
def exponentProblem (d : Decimal) (text : List Char) : Problem :=
  match text with
  | c :: rest =>
    if c = 'e' ∨ c = 'E' then exponentDigitsProblem d (rest.head? == some '-') (skipSign rest)
    else wholeProblem d
  | [] => wholeProblem d

/-- What is wrong with a number whose fraction, if any, follows. -/
def fractionProblem (d : Decimal) (text : List Char) : Problem :=
  match text with
  | '.' :: rest =>
    if rest.isEmpty then .truncated
    else if !startsWithDigit rest then .malformed
    else
      let digits := rest.takeWhile isDecimal
      exponentProblem (digits.foldl Decimal.pushFraction { d with full := false })
        (rest.dropWhile isDecimal)
  | _ => exponentProblem d text

/-- What is wrong with a number, after its sign, that stands where none is expected. -/
def numberProblem (text : List Char) : Problem :=
  match text with
  | [] => .truncated
  | '0' :: rest => if startsWithDigit rest then .malformed else fractionProblem ⟨0, 0, false⟩ rest
  | _ =>
    if startsWithDigit text then
      fractionProblem ((text.takeWhile isDecimal).foldl Decimal.pushWhole ⟨0, 0, false⟩)
        (text.dropWhile isDecimal)
    else .malformed

/-- What is wrong with a value that stands where one of another kind is expected. -/
def mismatch (text : List Char) : Problem :=
  let word (result : Except Problem (List Char)) : Problem :=
    match result with
    | .ok _ => .mismatched
    | .error problem => problem
  match text with
  | [] => .truncated
  | 'n' :: rest => word (readWord ['u', 'l', 'l'] rest)
  | 't' :: rest => word (readWord ['r', 'u', 'e'] rest)
  | 'f' :: rest => word (readWord ['a', 'l', 's', 'e'] rest)
  | '"' :: rest => word ((readString rest).map (·.2))
  | '-' :: rest => numberProblem rest
  | '[' :: _ => .mismatched
  | '\x7b' :: _ => .mismatched
  | c :: _ => if isDecimal c then numberProblem text else .malformed

end Midrange.Json
