/-!
# Digits

The characters `0` to `9` and the letters, in either case, are digits of a radix up to 36. No
character beyond ASCII is a digit.
-/

namespace Midrange.Text

/-- The value of a character as a digit, up to 35 for `z`; 36 for a character that is no digit in
any radix. -/
def digitValue (c : Char) : Nat :=
  if '0' ≤ c ∧ c ≤ '9' then c.toNat - '0'.toNat
  else if 'a' ≤ c ∧ c ≤ 'z' then c.toNat - 'a'.toNat + 10
  else if 'A' ≤ c ∧ c ≤ 'Z' then c.toNat - 'A'.toNat + 10
  else 36

/-- Whether a character is a digit in a radix of at most 36. -/
def isDigit (radix : Nat) (c : Char) : Bool :=
  digitValue c < radix

end Midrange.Text
