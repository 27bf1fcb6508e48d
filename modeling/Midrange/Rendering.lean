import Midrange.Json.Basic
import Midrange.Listing

/-!
# The two output formats

A program is written either as a listing of its words or as JSON with its words and its errors.
-/

namespace Midrange

/-- How results are written. -/
inductive OutputFormat where
  /-- For a reader. -/
  | text
  /-- For a program. -/
  | json
  deriving DecidableEq, Repr

/-- The format of a given name. -/
def OutputFormat.ofName? (name : String) : Option OutputFormat :=
  if name = "text" then some .text
  else if name = "json" then some .json
  else none

/-- A placed word as JSON. -/
def Placed.toJson (placed : Placed) : Json :=
  .object [("address".toList, .number placed.address.toNat),
    ("value".toList, .number placed.value.toNat)]

/-- A diagnostic as JSON: its line, and its message as it is shown. -/
def Diagnostic.toJson (diagnostic : Diagnostic) : Json :=
  .object [("line".toList, .number diagnostic.line),
    ("message".toList, .string diagnostic.message.toList)]

/-- A program as JSON. -/
def Program.toJson (program : Program) : Json :=
  .object [("words".toList, .array (program.words.map Placed.toJson)),
    ("errors".toList, .array (program.errors.map Diagnostic.toJson))]

/-- A program in an output format. -/
def Program.render (program : Program) : OutputFormat → String
  | .text => Listing.render program.words
  | .json => program.toJson.pretty

end Midrange
