import Midrange.Json.Range
import Midrange.Json.Skip
import Midrange.Strictness

/-!
# Reading the switches from JSON

The switches are given as an object with the members `strict_literals` and `strict_destination`, in
any order and among any others, or as an array of up to two booleans in that order. A switch that is
not given is off. `Strictness.ofJson` reads such a text.
-/

namespace Midrange.Strictness

open Json

/-- The switches found so far. -/
structure Given where
  literals : Option Bool := none
  destination : Option Bool := none
  deriving DecidableEq, Repr

/-- What the given switches amount to. -/
def Given.strictness (given : Given) : Strictness where
  literals := given.literals.getD false
  destination := given.destination.getD false

/-- The name of the switch for literals. -/
def literalsName : List Char :=
  "strict_literals".toList

/-- The name of the switch for destinations. -/
def destinationName : List Char :=
  "strict_destination".toList

/-- Reads a boolean. -/
def readSwitch (text : List Char) : Except Problem (Bool × List Char) :=
  match skipSpace text with
  | 't' :: rest => (readWord ['r', 'u', 'e'] rest).map (true, ·)
  | 'f' :: rest => (readWord ['a', 'l', 's', 'e'] rest).map (false, ·)
  | other => .error (mismatch other)

/-! ## Objects -/

/-- Reads what follows the name of a member. A switch may be given once, and its second name is
refused at once; the value of any other member is skipped. -/
def readMember (given : Given) (name text : List Char) : Except Problem (Given × List Char) := do
  if name = literalsName then
    if given.literals.isSome then throw .mismatched
    let (on, rest) ← readSwitch (← skipColon text)
    return ({ given with literals := some on }, rest)
  else if name = destinationName then
    if given.destination.isSome then throw .mismatched
    let (on, rest) ← readSwitch (← skipColon text)
    return ({ given with destination := some on }, rest)
  else
    let rest ← Json.skip (← skipColon text)
    return (given, rest)

/-- Reads the members of an object, the next of which starts here. The first argument bounds their
number. -/
def readMembers : Nat → Given → List Char → Except Problem (Given × List Char)
  | 0, _, _ => .error .truncated
  | fuel + 1, given, text =>
    match skipSpace text with
    | '"' :: named => do
      let (name, afterName) ← readString named
      let (given, afterValue) ← readMember given name afterName
      match skipSpace afterValue with
      | ',' :: rest => readMembers fuel given rest
      | '\x7d' :: rest => .ok (given, rest)
      | [] => .error .truncated
      | _ => .error .malformed
    | [] => .error .truncated
    | _ => .error .malformed

/-- Reads an object after its opening brace. -/
def readObject (text : List Char) : Except Problem (Given × List Char) :=
  match skipSpace text with
  | '\x7d' :: rest => .ok ({}, rest)
  | _ => readMembers (text.length + 1) {} text

/-! ## Arrays -/

/-- Reads the end of an array that holds both switches. -/
def readArrayEnd (given : Given) (text : List Char) : Except Problem (Given × List Char) :=
  match skipSpace text with
  | ']' :: rest => .ok (given, rest)
  | [] => .error .truncated
  | _ => .error .malformed

/-- Reads what follows the first item of an array. -/
def readSecondItem (literals : Bool) (text : List Char) : Except Problem (Given × List Char) :=
  match skipSpace text with
  | ']' :: rest => .ok ({ literals := some literals }, rest)
  | ',' :: rest =>
    match skipSpace rest with
    | ']' :: _ => .error .malformed
    | _ => do
      let (destination, rest) ← readSwitch rest
      readArrayEnd { literals := some literals, destination := some destination } rest
  | [] => .error .truncated
  | _ => .error .malformed

/-- Reads an array after its opening bracket. -/
def readArray (text : List Char) : Except Problem (Given × List Char) :=
  match skipSpace text with
  | ']' :: rest => .ok ({}, rest)
  | _ => do
    let (literals, rest) ← readSwitch text
    readSecondItem literals rest

/-! ## Texts -/

/-- Reads the switches from the start of a text. -/
def readGiven (text : List Char) : Except Problem (Given × List Char) :=
  match skipSpace text with
  | '\x7b' :: rest => readObject rest
  | '[' :: rest => readArray rest
  | other => .error (mismatch other)

/-- The switches that a JSON text gives. Nothing but blanks may follow them. -/
def ofJson (text : List Char) : Except Problem Strictness := do
  let (given, rest) ← readGiven text
  if (skipSpace rest).isEmpty then return given.strictness else throw .malformed

end Midrange.Strictness
