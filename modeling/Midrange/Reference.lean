import Midrange.Catalog
import Midrange.CommandLine
import Midrange.Fault
import Midrange.Rendering

/-!
# The instruction reference

The command that prints the catalogue: all of it by group, the instructions that match a filter, or
the card of one instruction, as text or as JSON.

* `Reference.parse`: the request that the arguments make.
* `Reference.run`: its answer.
-/

namespace Midrange.Reference

open CommandLine

/-- What is asked of the catalogue. -/
inductive Query where
  /-- Every instruction, by group. -/
  | list
  /-- The instructions whose mnemonic contains a text. -/
  | search (filter : String)
  /-- One instruction. -/
  | card (mnemonic : String)
  deriving DecidableEq, Repr

/-- A query and the format of its answer. -/
structure Request where
  query : Query
  format : OutputFormat := .text
  deriving DecidableEq, Repr

/-! ## Answers -/

/-- Shown when a search finds nothing. -/
def noMatches : String :=
  "No se encontraron instrucciones"

/-- The text of the cards that a search found. -/
def matchesText (cards : List Catalog.Card) : String :=
  if cards.isEmpty then noMatches else Catalog.renderCards cards

/-- Answers a request. An instruction that does not exist is named as it was given, in upper
case. -/
def run (request : Request) : Except Fault String :=
  match request.query with
  | .list =>
    match request.format with
    | .text => .ok ("\n\n".intercalate (Catalog.groups.map Catalog.Group.render))
    | .json => .ok (Json.array (Catalog.groups.map Catalog.Group.toJson)).pretty
  | .search filter =>
    let cards := (Catalog.search filter.toList).map Catalog.card
    match request.format with
    | .text => .ok (matchesText cards)
    | .json => .ok (Json.array (cards.map Catalog.Card.toJson)).pretty
  | .card mnemonic =>
    match Catalog.find mnemonic.toList with
    | none => .error (.unknownMnemonic (Text.upper mnemonic.toList))
    | some instruction =>
      match request.format with
      | .text => .ok (Catalog.card instruction).render
      | .json => .ok (Catalog.card instruction).toJson.pretty

/-- What a run of the command leaves behind. -/
structure Result where
  /-- What went to the standard output. -/
  stdout : String := ""
  /-- What went to the standard error. -/
  stderr : String := ""
  /-- The exit code. -/
  exitCode : Nat := 0
  deriving DecidableEq, Repr

/-- Runs the command: the answer is printed with a new line after it. -/
def execute (request : Request) : Result :=
  match run request with
  | .ok answer => { stdout := answer ++ "\n" }
  | .error fault => { stderr := "Error: " ++ fault.message ++ "\n", exitCode := 1 }

/-! ## Arguments -/

/-- What the arguments give values to. -/
inductive Key where
  | format
  | subject
  deriving DecidableEq, Repr

/-- The option that selects the format. -/
def formatSwitch : Switch Key where
  long := "format"
  action := .value .format

/-- The option that asks for help. -/
def helpSwitch : Switch Key where
  long := "help"
  short := some 'h'
  action := .help

/-- A format has to be one of the two; anything can be looked for. -/
def accepts : Key → String → Bool
  | .format, value => (OutputFormat.ofName? value).isSome
  | .subject, _ => true

/-- The arguments before the subcommand. -/
def rootGrammar : Grammar Key where
  switches := [formatSwitch, helpSwitch, ⟨"version", some 'V', .version⟩]
  operands := []
  accepts
  subcommands := ["list", "search", "show", "help"]

/-- The arguments of a subcommand with the given operands. -/
def subGrammar (operands : List Key) : Grammar Key where
  switches := [formatSwitch, helpSwitch]
  operands
  accepts

/-- What `help` stops with: the names after it have to lead to a subcommand, and no subcommand has
any of its own. -/
def helpStop : List String → Stop
  | [] => .helpAsked
  | [name] => if rootGrammar.subcommands.contains name then .helpAsked else .unknownSubcommand
  | _ => .unknownSubcommand

/-- The query of a subcommand and the values that its arguments give. -/
def parseSubcommand (name : String) (arguments : List String) :
    Except Stop (Query × List (Key × String)) := do
  if name = "list" then
    return (.list, ← (subGrammar []).parse arguments)
  else
    let given ← (subGrammar [.subject]).parse arguments
    let subject := (given.lookup .subject).getD ""
    return (if name = "search" then .search subject else .card subject, given)

/-- The format that the values of the two levels select, that of the subcommand first. -/
def selectFormat (inner outer : List (Key × String)) : OutputFormat :=
  (((inner.lookup .format).or (outer.lookup .format)).bind OutputFormat.ofName?).getD .text

/-- The request that the arguments make. A problem in the arguments of the subcommand is reported
before one in a value given ahead of it. -/
def parse (arguments : List String) : Except Stop Request := do
  let (state, subcommand) ← rootGrammar.read { remaining := [] } arguments
  match subcommand with
  | some ("help", names) => throw (helpStop names)
  | some (name, rest) =>
    let (query, inner) ← parseSubcommand name rest
    let outer ← rootGrammar.settle state
    return { query, format := selectFormat inner outer.given }
  | none =>
    let state ← rootGrammar.settle state
    throw (if state.given.isEmpty then .nothingGiven else .missingSubcommand)

end Midrange.Reference
