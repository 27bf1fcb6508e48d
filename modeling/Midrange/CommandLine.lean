/-!
# Command lines

Arguments are options, which start with a dash, and operands, which do not. A `Grammar` lists the
options and operands of a command; reading arguments under it gathers the values given to each of
them, or stops at the first problem.

* A long option is `--name`, `--name VALUE` or `--name=VALUE`; a short one `-n`, `-n VALUE`,
  `-nVALUE` or `-n=VALUE`. Names are not abbreviated. A lone `-` is an operand.
* After `--` every argument is an operand.
* A value is held back until the next argument that is no value of it: until then a misspelled
  option or a surplus operand further right is the problem that is reported.
* An option may be given once.

`Grammar.read` reads arguments up to their end or to a subcommand, `Grammar.finish` takes the value
still held back and checks that no operand is missing.
-/

namespace Midrange.CommandLine

/-- Why arguments do not make up a request. -/
inductive Stop where
  /-- An operand is missing. -/
  | missingOperand
  /-- An option of this name does not exist, or an operand is one too many. -/
  | unknownArgument
  /-- An option has no value, or not one of the kind it takes. -/
  | invalidValue
  /-- An option is given twice. -/
  | repeatedOption
  /-- A value is attached to an option that takes none. -/
  | unexpectedValue
  /-- A subcommand of this name does not exist. -/
  | unknownSubcommand
  /-- Options are given, but no subcommand. -/
  | missingSubcommand
  /-- Nothing is given at all where a subcommand is needed. -/
  | nothingGiven
  /-- Help is asked for. -/
  | helpAsked
  /-- The version is asked for. -/
  | versionAsked
  deriving DecidableEq, Repr

/-- What an option does. -/
inductive Action (κ : Type) where
  /-- It is given or not. -/
  | flag (key : κ)
  /-- It takes a value. -/
  | value (key : κ)
  /-- It asks for help. -/
  | help
  /-- It asks for the version. -/
  | version

/-- An option: its long name, its letter, if it has one, and what it does. -/
structure Switch (κ : Type) where
  long : String
  short : Option Char := none
  action : Action κ

/-- The arguments that a command takes, its options and operands being told apart by keys. -/
structure Grammar (κ : Type) where
  /-- The options. -/
  switches : List (Switch κ)
  /-- The operands, all required, in order. -/
  operands : List κ
  /-- Whether a value is one that the key takes. -/
  accepts : κ → String → Bool
  /-- The subcommands. A command with subcommands has no operands. -/
  subcommands : List String := []

/-- How far the reading of arguments has come. -/
structure State (κ : Type) where
  /-- The values taken so far. -/
  given : List (κ × String) := []
  /-- An option or operand whose value is held back, or still to come. -/
  pending : Option (κ × Option String) := none
  /-- The operands not reached yet. -/
  remaining : List κ
  /-- Whether `--` was met. -/
  operandsOnly : Bool := false

namespace Grammar

variable {κ : Type} [DecidableEq κ]

/-- Takes a value for a key. That the key has one already is noticed before the value is looked
at. -/
def take (grammar : Grammar κ) (state : State κ) (key : κ) (value : String) :
    Except Stop (State κ) :=
  if (state.given.lookup key).isSome then .error .repeatedOption
  else if grammar.accepts key value then .ok { state with given := state.given ++ [(key, value)] }
  else .error .invalidValue

/-- Takes the value that is held back, if any. -/
def settle (grammar : Grammar κ) (state : State κ) : Except Stop (State κ) :=
  match state.pending with
  | none => .ok state
  | some (_, none) => .error .invalidValue
  | some (key, some value) => grammar.take { state with pending := none } key value

/-- An option without an attached value. -/
def bare (grammar : Grammar κ) (state : State κ) (action : Action κ) : Except Stop (State κ) := do
  let state ← grammar.settle state
  match action with
  | .flag key => grammar.take state key ""
  | .value key => return { state with pending := some (key, none) }
  | .help => throw .helpAsked
  | .version => throw .versionAsked

/-- An option with an attached value. -/
def attached (grammar : Grammar κ) (state : State κ) (action : Action κ) (value : String) :
    Except Stop (State κ) := do
  match action with
  | .value key => grammar.take (← grammar.settle state) key value
  | _ => throw .unexpectedValue

/-- A long option, without its two dashes. -/
def long (grammar : Grammar κ) (state : State κ) (text : List Char) : Except Stop (State κ) :=
  let name := text.takeWhile (· != '=')
  match grammar.switches.find? (·.long.toList == name) with
  | none => .error .unknownArgument
  | some switch =>
    match text.dropWhile (· != '=') with
    | [] => grammar.bare state switch.action
    | _ :: value => grammar.attached state switch.action (String.ofList value)

/-- A cluster of short options, without its dash. The first option that takes a value takes the rest
of the cluster, less a leading equals sign. -/
def short (grammar : Grammar κ) (state : State κ) : List Char → Except Stop (State κ)
  | [] => .ok state
  | letter :: rest =>
    match grammar.switches.find? (·.short == some letter) with
    | none => .error .unknownArgument
    | some switch =>
      match switch.action, rest with
      | .value key, _ :: _ =>
        grammar.attached state (.value key)
          (String.ofList (if rest.head? = some '=' then rest.drop 1 else rest))
      | action, rest => do grammar.short (← grammar.bare state action) rest

/-- An operand. -/
def operand (grammar : Grammar κ) (state : State κ) (value : String) : Except Stop (State κ) :=
  match state.remaining with
  | [] => .error .unknownArgument
  | key :: remaining => do
    let state ← grammar.settle state
    return { state with pending := some (key, some value), remaining }

/-- The argument after an option that takes a value, or an operand. -/
def plain (grammar : Grammar κ) (state : State κ) (value : String) : Except Stop (State κ) :=
  match state.pending with
  | some (key, none) => .ok { state with pending := some (key, some value) }
  | _ => grammar.operand state value

/-- Whether an option still waits for its value. -/
def awaits (state : State κ) : Bool :=
  match state.pending with
  | some (_, none) => true
  | _ => false

/-- Reads arguments. A subcommand ends the reading; it is returned with the arguments after it. -/
def read (grammar : Grammar κ) (state : State κ) :
    List String → Except Stop (State κ × Option (String × List String))
  | [] => .ok (state, none)
  | argument :: rest =>
    let command := grammar.subcommands.contains argument
    if state.operandsOnly then
      if grammar.subcommands.isEmpty then do
        grammar.read (← grammar.operand state argument) rest
      else .error (if command then .unknownArgument else .unknownSubcommand)
    else if command && !awaits state then .ok (state, some (argument, rest))
    else
      match argument.toList with
      | ['-', '-'] => grammar.read { state with operandsOnly := true } rest
      | '-' :: '-' :: text => do grammar.read (← grammar.long state text) rest
      | '-' :: letter :: text => do grammar.read (← grammar.short state (letter :: text)) rest
      | _ =>
        if awaits state || grammar.subcommands.isEmpty then do
          grammar.read (← grammar.plain state argument) rest
        else .error .unknownSubcommand

/-- Takes the last value and checks that every operand was given. -/
def finish (grammar : Grammar κ) (state : State κ) : Except Stop (State κ) := do
  let state ← grammar.settle state
  if state.remaining.isEmpty then return state else throw .missingOperand

/-- The values that the arguments of a command without subcommands give. -/
def parse (grammar : Grammar κ) (arguments : List String) : Except Stop (List (κ × String)) := do
  let (state, _) ← grammar.read { remaining := grammar.operands } arguments
  return (← grammar.finish state).given

end Grammar

end Midrange.CommandLine
