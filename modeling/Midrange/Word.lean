/-!
# Machine words

Addresses and instruction words are 16 bits wide. Addresses count modulo 2^16; an instruction of
the mid-range core fills the low 14 bits of its word.

`Word.hex` and `Word.upperHex` write a word as exactly four hexadecimal digits.
-/

namespace Midrange

/-- A 16-bit word: a program address or the code of an instruction. -/
abbrev Word := BitVec 16

namespace Word

/-- The four base-16 digits of a word, the most significant first. -/
def nibbles (w : Word) : List Nat :=
  [w.toNat / 0x1000 % 16, w.toNat / 0x100 % 16, w.toNat / 0x10 % 16, w.toNat % 16]

/-- Four hexadecimal digits with lower-case letters. -/
def hex (w : Word) : List Char :=
  w.nibbles.map Nat.digitChar

/-- Four hexadecimal digits with upper-case letters. -/
def upperHex (w : Word) : List Char :=
  w.hex.map Char.toUpper

end Word

end Midrange
