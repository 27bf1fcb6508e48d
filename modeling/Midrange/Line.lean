import Midrange.Encoding
import Midrange.Instruction.Table

/-!
# One source line

A line is cut at its comment, split into tokens, and assembled on its own: the address at which its
word will stand and the number of the line play no part.

* `Line.tokens line`: the tokens of the code part.
* `Head.classify name`: what the upper-cased first token stands for.
* `Line.assemble strictness line`: the outcome, with the warning that goes with it, if any.
-/

namespace Midrange

/-! ## Tokens -/

namespace Line

/-- Whether a character separates tokens. A byte-order mark does, so that a source saved with one
still has its first line read. -/
def isSeparator (c : Char) : Bool :=
  Text.isBlank c || c == '\uFEFF'

/-- The part of a line before its comment. -/
def code (line : List Char) : List Char :=
  line.takeWhile (· != ';')

/-- The tokens of a line. -/
def tokens (line : List Char) : List (List Char) :=
  Text.fields isSeparator (code line)

end Line

/-- What the first token of a line stands for. -/
inductive Head where
  /-- `ORG`. -/
  | origin
  /-- `END`. -/
  | halt
  /-- The mnemonic of an instruction. -/
  | instruction (instruction : Instruction)
  /-- Anything else. -/
  | unknown (name : List Char)
  deriving DecidableEq, Repr

/-- Classifies a first token, which is upper-cased already. -/
def Head.classify (name : List Char) : Head :=
  if name = ['O', 'R', 'G'] then .origin
  else if name = ['E', 'N', 'D'] then .halt
  else match Instruction.lookup name with
    | some found => .instruction found
    | none => .unknown name

/-! ## Outcomes -/

/-- The effect of a line on the pass. -/
inductive Outcome where
  /-- Nothing but blanks and a comment. -/
  | skipped
  /-- The address counter becomes this address. -/
  | origin (address : Word)
  /-- The pass ends. -/
  | halt
  /-- One word at the current address. -/
  | emitted (word : Word)
  /-- No word, for this reason. -/
  | failed (fault : Fault)
  deriving DecidableEq, Repr

/-- What a line that was accepted may still be warned about. -/
inductive Warning where
  /-- The argument of `ORG` is not a number and was taken for 0. -/
  | originNotNumber (argument : List Char)
  /-- A destination went beyond its field. -/
  | destinationSpill (spill : Spill)
  deriving DecidableEq, Repr

/-- An assembled line. -/
structure Assembled where
  /-- Its effect. -/
  outcome : Outcome
  /-- The warning that precedes it. -/
  warning : Option Warning := none
  deriving DecidableEq, Repr

namespace Line

/-- An `ORG` line with the given argument. -/
def origin (strictness : Strictness) (argument : List Char) : Assembled :=
  if strictness.literals then
    match Literal.exact argument with
    | .ok value => { outcome := .origin (value.setWidth 16) }
    | .error fault => { outcome := .failed fault }
  else
    match Literal.value? argument with
    | some value => { outcome := .origin (value.setWidth 16) }
    | none => { outcome := .origin 0, warning := some (.originNotNumber argument) }

/-- A line with an instruction and its operand tokens. -/
def instruction (strictness : Strictness) (format : Format) (operands : List (List Char)) :
    Assembled :=
  match encode strictness format operands with
  | .ok encoded =>
    { outcome := .emitted encoded.word, warning := encoded.spill.map .destinationSpill }
  | .error fault => { outcome := .failed fault }

/-- Assembles the tokens of a line. An absent `ORG` argument counts as empty. -/
def assembleTokens (strictness : Strictness) : List (List Char) → Assembled
  | [] => { outcome := .skipped }
  | first :: rest =>
    match Head.classify (Text.upper first) with
    | .origin => origin strictness (rest.head?.getD [])
    | .halt => { outcome := .halt }
    | .instruction i => instruction strictness i.toFormat rest
    | .unknown name => { outcome := .failed (.unknownMnemonic name) }

/-- Assembles one line. -/
def assemble (strictness : Strictness) (line : List Char) : Assembled :=
  assembleTokens strictness (tokens line)

end Line

end Midrange
