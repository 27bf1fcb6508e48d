import Midrange.Instruction.Basic

/-!
# The instruction set

The 35 instructions of the mid-range core, in the order in which they are listed: operations on a
file register, on one bit of a file register, and those with a literal or without operands.
-/

namespace Midrange.Instruction

/-- The instruction set. -/
def table : List Instruction :=
  [⟨⟨0x0700, 2, .byteOriented⟩, "ADDWF", "Sumar W y f"⟩,
   ⟨⟨0x0500, 2, .byteOriented⟩, "ANDWF", "AND lógico entre W y f"⟩,
   ⟨⟨0x0180, 1, .byteOriented⟩, "CLRF", "Limpiar registro f (poner en 0)"⟩,
   ⟨⟨0x0100, 0, .inherent⟩, "CLRW", "Limpiar registro W (poner en 0)"⟩,
   ⟨⟨0x0900, 2, .byteOriented⟩, "COMF", "Complementar f (invertir bits)"⟩,
   ⟨⟨0x0300, 2, .byteOriented⟩, "DECF", "Decrementar f (restar 1)"⟩,
   ⟨⟨0x0B00, 2, .byteOriented⟩, "DECFSZ", "Decrementar f, saltar si es 0"⟩,
   ⟨⟨0x0A00, 2, .byteOriented⟩, "INCF", "Incrementar f (sumar 1)"⟩,
   ⟨⟨0x0F00, 2, .byteOriented⟩, "INCFSZ", "Incrementar f, saltar si es 0"⟩,
   ⟨⟨0x0400, 2, .byteOriented⟩, "IORWF", "OR inclusivo entre W y f"⟩,
   ⟨⟨0x0800, 2, .byteOriented⟩, "MOVF", "Mover f a destino"⟩,
   ⟨⟨0x0080, 1, .byteOriented⟩, "MOVWF", "Mover W al registro f"⟩,
   ⟨⟨0x0000, 0, .inherent⟩, "NOP", "No operación (no hace nada)"⟩,
   ⟨⟨0x0D00, 2, .byteOriented⟩, "RLF", "Rotar f a la izquierda a través del carry"⟩,
   ⟨⟨0x0C00, 2, .byteOriented⟩, "RRF", "Rotar f a la derecha a través del carry"⟩,
   ⟨⟨0x0200, 2, .byteOriented⟩, "SUBWF", "Restar W de f"⟩,
   ⟨⟨0x0E00, 2, .byteOriented⟩, "SWAPF", "Intercambiar nibbles en f"⟩,
   ⟨⟨0x0600, 2, .byteOriented⟩, "XORWF", "XOR exclusivo entre W y f"⟩,
   ⟨⟨0x1000, 2, .bitOriented⟩, "BCF", "Limpiar bit en f (poner en 0)"⟩,
   ⟨⟨0x1400, 2, .bitOriented⟩, "BSF", "Establecer bit en f (poner en 1)"⟩,
   ⟨⟨0x1800, 2, .bitOriented⟩, "BTFSC", "Probar bit en f, saltar si está en 0"⟩,
   ⟨⟨0x1C00, 2, .bitOriented⟩, "BTFSS", "Probar bit en f, saltar si está en 1"⟩,
   ⟨⟨0x3E00, 1, .literal⟩, "ADDLW", "Sumar literal a W"⟩,
   ⟨⟨0x3900, 1, .literal⟩, "ANDLW", "AND lógico entre literal y W"⟩,
   ⟨⟨0x2000, 1, .target⟩, "CALL", "Llamar subrutina"⟩,
   ⟨⟨0x0064, 0, .inherent⟩, "CLRWDT", "Limpiar temporizador watchdog"⟩,
   ⟨⟨0x2800, 1, .target⟩, "GOTO", "Saltar a dirección"⟩,
   ⟨⟨0x3800, 1, .literal⟩, "IORLW", "OR inclusivo entre literal y W"⟩,
   ⟨⟨0x3000, 1, .literal⟩, "MOVLW", "Mover literal a W"⟩,
   ⟨⟨0x0009, 0, .inherent⟩, "RETFIE", "Retornar de interrupción"⟩,
   ⟨⟨0x3400, 1, .literal⟩, "RETLW", "Retornar con literal en W"⟩,
   ⟨⟨0x0008, 0, .inherent⟩, "RETURN", "Retornar de subrutina"⟩,
   ⟨⟨0x0063, 0, .inherent⟩, "SLEEP", "Entrar en modo de bajo consumo"⟩,
   ⟨⟨0x3C00, 1, .literal⟩, "SUBLW", "Restar W del literal"⟩,
   ⟨⟨0x3A00, 1, .literal⟩, "XORLW", "XOR exclusivo entre literal y W"⟩]

/-- The instruction with a given mnemonic, written in upper case. -/
def lookup (name : List Char) : Option Instruction :=
  table.find? fun instruction => instruction.mnemonic.toList == name

end Midrange.Instruction
