import Midrange.Instruction.Table
import Midrange.Json.Basic
import Midrange.Text.Blank
import Midrange.Text.Case
import Midrange.Text.Occurs

/-!
# The instruction catalogue

The instruction set as something to browse. Every instruction has a `Card`; the cards are arranged
in groups that follow how the instructions are usually taught, not how they are encoded.

* `Catalog.groups`: all cards, by group.
* `Catalog.search filter`: the instructions whose mnemonic contains the filter, in any case.
* `Catalog.find mnemonic`: the instruction of that name, in any case and with blanks around it.
-/

namespace Midrange.Catalog

/-! ## Cards -/

/-- What a reader is shown about an instruction. -/
structure Card where
  /-- The mnemonic. -/
  name : String
  /-- The word with every operand field cleared, in hexadecimal. -/
  opcode : String
  /-- What the instruction does. -/
  description : String
  /-- How many operands it has. -/
  operands : Nat
  deriving DecidableEq, Repr

/-- The card of an instruction. -/
def card (instruction : Instruction) : Card where
  name := instruction.mnemonic
  opcode := "0x" ++ String.ofList instruction.opcode.upperHex
  description := instruction.description
  operands := instruction.operands

/-- A name padded with spaces to eight characters. A longer name is not cut. -/
def padded (name : List Char) : List Char :=
  name ++ List.replicate (8 - name.length) ' '

/-- A card as three lines of text. -/
def Card.render (card : Card) : String :=
  String.ofList (padded card.name.toList) ++ card.opcode ++ "\n  " ++ card.description ++
    "\n  Operandos: " ++ toString card.operands

/-- A card as JSON. -/
def Card.toJson (card : Card) : Json :=
  .object [("name".toList, .string card.name.toList), ("opcode".toList, .string card.opcode.toList),
    ("description".toList, .string card.description.toList),
    ("operands".toList, .number card.operands)]

/-- Cards as text, a blank line between two of them. -/
def renderCards (cards : List Card) : String :=
  "\n\n".intercalate (cards.map Card.render)

/-! ## Groups -/

/-- Cards under a title. -/
structure Group where
  /-- The title. -/
  title : String
  /-- The cards. -/
  cards : List Card
  deriving DecidableEq, Repr

/-- The titles of the groups and the mnemonics in them. -/
def arrangement : List (String × List String) :=
  [("Operaciones con archivos",
    ["ADDWF", "ANDWF", "CLRF", "CLRW", "COMF", "DECF", "DECFSZ", "INCF", "INCFSZ", "IORWF", "MOVF",
     "MOVWF", "RLF", "RRF", "SUBWF", "SWAPF", "XORWF"]),
   ("Operaciones con bits", ["BCF", "BSF", "BTFSC", "BTFSS"]),
   ("Literales y control",
    ["ADDLW", "ANDLW", "CALL", "CLRWDT", "GOTO", "IORLW", "MOVLW", "RETFIE", "RETLW", "RETURN",
     "SLEEP", "SUBLW", "XORLW"]),
   ("Otras", ["NOP"])]

/-- All cards, by group. -/
def groups : List Group :=
  arrangement.map fun (title, names) =>
    { title, cards := (names.filterMap fun name => Instruction.lookup name.toList).map card }

/-- A group as text. -/
def Group.render (group : Group) : String :=
  "== " ++ group.title ++ "\n\n" ++ renderCards group.cards

/-- A group as JSON. -/
def Group.toJson (group : Group) : Json :=
  .object [("title".toList, .string group.title.toList),
    ("cards".toList, .array (group.cards.map Card.toJson))]

/-! ## Queries -/

/-- The instructions whose mnemonic contains the filter, letter case aside, in table order. -/
def search (filter : List Char) : List Instruction :=
  let needle := Text.lower filter
  Instruction.table.filter fun instruction =>
    Text.occursIn needle (Text.lower instruction.mnemonic.toList)

/-- The instruction of the given name, letter case and surrounding blanks aside. -/
def find (mnemonic : List Char) : Option Instruction :=
  Instruction.lookup (Text.upper (Text.trim mnemonic))

end Midrange.Catalog
