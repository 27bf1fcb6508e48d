import Midrange.Event

/-!
# The pass over a source

A source is assembled in one pass over its lines. The pass carries the address counter and the
number of the next line, and gathers words, errors and events; after `END` nothing moves it.

* `sourceLines source`: the lines of a source. Only a line feed ends one.
* `Pass.step`: one line.
* `Pass.run`: the whole source, from address 0 and line 1.
* `assemble`: the program that a run leaves behind.
-/

namespace Midrange

/-- The lines of a source text. -/
def sourceLines (source : String) : List (List Char) :=
  source.toList.splitOn '\n'

/-- The state of a pass between two lines. -/
structure Pass where
  /-- Where the next word goes. -/
  address : Word := 0
  /-- The number of the next line. -/
  line : Nat := 1
  /-- Whether `END` was met. -/
  halted : Bool := false
  /-- The words placed so far. -/
  words : Array Placed := #[]
  /-- The errors met so far. -/
  errors : Array Diagnostic := #[]
  /-- The events so far. -/
  events : Array Event := #[]
  deriving DecidableEq, Repr

namespace Pass

/-- Logs the warning of a line, if it has one. -/
def warn (pass : Pass) : Option Warning → Pass
  | some warning => { pass with events := pass.events.push (.warned pass.line warning) }
  | none => pass

/-- The effect of a line, its number still the current one. -/
def apply (pass : Pass) : Outcome → Pass
  | .skipped => pass
  | .origin address =>
    { pass with
      address
      events := pass.events.push (.origin pass.line address) }
  | .halt =>
    { pass with
      halted := true
      events := pass.events.push (.halted pass.line) }
  | .emitted value =>
    { pass with
      address := pass.address + 1
      words := pass.words.push ⟨pass.address, value⟩
      events := pass.events.push (.emitted pass.line ⟨pass.address, value⟩) }
  | .failed fault =>
    { pass with
      errors := pass.errors.push ⟨pass.line, fault⟩
      events := pass.events.push (.failed ⟨pass.line, fault⟩) }

/-- Assembles the next line, unless the pass has ended. -/
def step (strictness : Strictness) (pass : Pass) (line : List Char) : Pass :=
  if pass.halted then pass
  else
    let assembled := Line.assemble strictness line
    let next := (pass.warn assembled.warning).apply assembled.outcome
    { next with line := pass.line + 1 }

/-- The pass over a whole source. -/
def run (strictness : Strictness) (source : String) : Pass :=
  (sourceLines source).foldl (step strictness) {}

/-- The program gathered so far. -/
def program (pass : Pass) : Program where
  words := pass.words.toList
  errors := pass.errors.toList

end Pass

/-- The program that a source assembles to. -/
def assemble (strictness : Strictness) (source : String) : Program :=
  (Pass.run strictness source).program

end Midrange
