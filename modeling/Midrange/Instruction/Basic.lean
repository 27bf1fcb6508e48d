import Midrange.Word

/-!
# Instructions

An instruction is an encoding `Format` together with the mnemonic that selects it and a line of
description. The format alone decides how operands are packed into a word.
-/

namespace Midrange

/-- How the operands of an instruction are laid out in its word. -/
inductive Category where
  /-- A file register in bits 0 to 6 and, with two operands, the destination from bit 7 on. -/
  | byteOriented
  /-- A file register in bits 0 to 6 and a bit number in bits 7 to 9. -/
  | bitOriented
  /-- An immediate value in bits 0 to 7. -/
  | literal
  /-- A program address in bits 0 to 10. -/
  | target
  /-- No operand. -/
  | inherent
  deriving DecidableEq, Repr

/-- What the encoder has to know about an instruction. -/
structure Format where
  /-- The word with every operand field cleared. -/
  opcode : Word
  /-- How many operands the instruction has. -/
  operands : Nat
  /-- Where they go. -/
  category : Category
  deriving DecidableEq, Repr

/-- An instruction of the set. -/
structure Instruction extends Format where
  /-- The name in upper case. -/
  mnemonic : String
  /-- One line that says what the instruction does. -/
  description : String
  deriving DecidableEq, Repr

end Midrange
