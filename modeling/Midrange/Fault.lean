/-!
# What can be wrong with one line

A `Fault` is the reason why a line yields no word. `Fault.message` words it; the number of the line
is added where the fault is reported.
-/

namespace Midrange

/-- Why a source line could not be assembled. -/
inductive Fault where
  /-- The upper-cased first token names neither a directive nor an instruction. -/
  | unknownMnemonic (name : List Char)
  /-- A required operand is absent. -/
  | missingOperand
  /-- The cleaned token is no literal of its base. -/
  | invalidLiteral (token : List Char)
  /-- The cleaned and upper-cased token selects no destination. -/
  | invalidDestination (token : List Char)
  deriving DecidableEq, Repr

/-- A word of explanation followed by the offending text in quotes. -/
def Fault.quoting (what : String) (token : List Char) : String :=
  what ++ " \"" ++ String.ofList token ++ "\""

/-- The text shown for a fault. -/
def Fault.message : Fault → String
  | .unknownMnemonic name => quoting "Instrucción desconocida" name
  | .missingOperand => "Falta operando"
  | .invalidLiteral token => quoting "Literal inválido" token
  | .invalidDestination token => quoting "Destino inválido" token

end Midrange
