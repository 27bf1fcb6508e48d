import Midrange.Line
import Midrange.Program

/-!
# The event log

Every line that is not blank leaves an event, after the warning that goes with it. The command line
adds the options it runs with and the file it wrote. `Event.record` words an event for a reader of
the log: a level, a message and named fields.
-/

namespace Midrange

/-- Something that happened while a program was assembled. -/
inductive Event where
  /-- A run starts with these switches. -/
  | options (strictness : Strictness)
  /-- A line is accepted with a warning. -/
  | warned (line : Nat) (warning : Warning)
  /-- `ORG` moved the address counter. -/
  | origin (line : Nat) (address : Word)
  /-- `END` stopped the pass. -/
  | halted (line : Nat)
  /-- A word was placed. -/
  | emitted (line : Nat) (placed : Placed)
  /-- A line was refused. -/
  | failed (diagnostic : Diagnostic)
  /-- The output went to a file. -/
  | wrote (path : String) (words : Nat)
  deriving DecidableEq, Repr

namespace Event

/-- How much an event matters. -/
inductive Level where
  | debug
  | info
  | warn
  deriving DecidableEq, Repr

/-- The name of a level in the log. -/
def Level.name : Level → String
  | .debug => "DEBUG"
  | .info => "INFO"
  | .warn => "WARN"

/-- An event in words. -/
structure Record where
  /-- How much it matters. -/
  level : Level
  /-- What happened. -/
  message : String
  /-- The details by name. -/
  fields : List (String × String) := []
  deriving DecidableEq, Repr

/-- A word in the messages of the log. -/
def hexWord (w : Word) : String :=
  "0x" ++ String.ofList w.hex

/-- The record of a warning on a line. -/
def warningRecord (line : Nat) : Warning → Record
  | .originNotNumber argument =>
    { level := .warn
      message := "ORG argument is not a number, using 0"
      fields := [("line", toString line), ("arg", String.ofList argument)] }
  | .destinationSpill spill =>
    { level := .warn
      message := "destination outside 0/1 is not masked"
      fields := [("dest", String.ofList spill.destination), ("value", toString spill.value.toInt)] }

/-- The record of an event about a line. -/
def lineRecord (line : Nat) (message : String) : Record :=
  { level := .debug, message, fields := [("line", toString line)] }

/-- The switches as the log shows them. -/
def optionsText (strictness : Strictness) : String :=
  "AsmConfig \x7b strict_literals: " ++ toString strictness.literals ++
    ", strict_destination: " ++ toString strictness.destination ++ " \x7d"

/-- An event in words. -/
def record : Event → Record
  | .options strictness =>
    { level := .debug, message := "assembler options", fields := [("cfg", optionsText strictness)] }
  | .warned line warning => warningRecord line warning
  | .origin line address => lineRecord line ("ORG " ++ hexWord address)
  | .halted line => lineRecord line "END"
  | .emitted line placed => lineRecord line (hexWord placed.address ++ ": " ++ hexWord placed.value)
  | .failed diagnostic => lineRecord diagnostic.line diagnostic.message
  | .wrote path words =>
    { level := .info, message := "wrote " ++ path, fields := [("words", toString words)] }

end Event

end Midrange
