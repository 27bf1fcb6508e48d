import Midrange.Instruction.Basic
import Midrange.Literal
import Midrange.Strictness
import Midrange.Text.Case

/-!
# Encoding one instruction

`encode strictness format operands` packs the operand tokens of an instruction into its word.
Register, bit, literal and address operands are masked to the width of their field. A destination is
not: the value of an odd destination spills over the bits of the opcode, and the result says so.

Operands are looked at from left to right and the first fault wins. Tokens that the format has no
use for are not looked at.
-/

namespace Midrange

/-- A destination that is neither 0 nor 1 and was packed unmasked. -/
structure Spill where
  /-- The cleaned and upper-cased token. -/
  destination : List Char
  /-- Its value. -/
  value : Literal.Value
  deriving DecidableEq, Repr

/-- An encoded instruction. -/
structure Encoded where
  /-- The word. -/
  word : Word
  /-- The destination that went beyond its field, if one did. -/
  spill : Option Spill := none
  deriving DecidableEq, Repr

namespace Encoding

/-! ## Fields -/

/-- A file register: bits 0 to 6. -/
def registerMask : Word := 0x7F

/-- A bit number, before it is moved to bit 7. -/
def bitMask : Word := 0x07

/-- An immediate value: bits 0 to 7. -/
def literalMask : Word := 0xFF

/-- A program address: bits 0 to 10. -/
def targetMask : Word := 0x7FF

/-- Where the bit number and the destination start. -/
def fieldShift : Nat := 7

/-! ## Operands -/

/-- The value of a token under a literal policy: exact, or whatever its digits say. -/
def literal (strictness : Strictness) (token : List Char) : Except Fault (Option Literal.Value) :=
  if strictness.literals then (Literal.exact token).map some
  else .ok (Literal.value? token)

/-- The value of a required operand. -/
def operand (strictness : Strictness) : Option (List Char) → Except Fault (Option Literal.Value)
  | some token => literal strictness token
  | none => .error .missingOperand

/-- The bits of a destination value: moved to its field and cut at the word, not at the field. -/
def destinationBits (value : Literal.Value) : Word :=
  (value <<< fieldShift).setWidth 16

/-- The bits that a destination token selects, and the spill if its value is odd. Without a token
the result stays in the working register. -/
def destination (strictness : Strictness) : Option (List Char) → Except Fault (Word × Option Spill)
  | none => .ok (0, none)
  | some token =>
    let name := Text.upper (Literal.clean token)
    if name = ['F'] ∨ name = ['1'] then .ok (destinationBits 1, none)
    else if name = ['W'] ∨ name = ['0'] then .ok (destinationBits 0, none)
    else if strictness.destination then .error (.invalidDestination name)
    else match Literal.scan 10 name with
      | none => .ok (0, none)
      | some reading =>
        .ok (destinationBits reading.value,
          if reading.value = 0 ∨ reading.value = 1 then none else some ⟨name, reading.value⟩)

end Encoding

open Encoding in
/-- The word of an instruction with the given operand tokens. -/
def encode (strictness : Strictness) (format : Format) (operands : List (List Char)) :
    Except Fault Encoded :=
  match format.category with
  | .inherent => .ok { word := format.opcode }
  | .target => do
    let address ← operand strictness operands[0]?
    return { word := format.opcode ||| Literal.field targetMask address }
  | .literal => do
    let value ← operand strictness operands[0]?
    return { word := format.opcode ||| Literal.field literalMask value }
  | .bitOriented => do
    let register ← operand strictness operands[0]?
    let bit ← operand strictness operands[1]?
    return { word := format.opcode ||| (Literal.field bitMask bit <<< fieldShift |||
      Literal.field registerMask register) }
  | .byteOriented => do
    let register ← operand strictness operands[0]?
    let word := format.opcode ||| Literal.field registerMask register
    if format.operands = 2 then
      let (bits, spill) ← destination strictness operands[1]?
      return { word := word ||| bits, spill }
    else
      return { word }

end Midrange
