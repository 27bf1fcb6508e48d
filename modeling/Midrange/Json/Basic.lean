/-!
# JSON values and their indented text

The values that the tools print: natural numbers, strings, arrays and objects with their members in
a fixed order. `Json.pretty` writes one item a line, two spaces deeper than what encloses it.
-/

namespace Midrange

/-- A JSON value of the kinds that are printed. -/
inductive Json where
  | number (value : Nat)
  | string (text : List Char)
  | array (items : List Json)
  | object (members : List (List Char × Json))
  deriving Repr

namespace Json

/-! ## Strings -/

/-- A control character as an escape of four hexadecimal digits. -/
def controlEscape (c : Char) : List Char :=
  ['\\', 'u', '0', '0', Nat.digitChar (c.toNat / 16), Nat.digitChar (c.toNat % 16)]

/-- A character inside a string: quotes, backslashes and control characters are escaped, everything
else stands for itself. -/
def escape (c : Char) : List Char :=
  if c = '"' then ['\\', '"']
  else if c = '\\' then ['\\', '\\']
  else if c = '\x08' then ['\\', 'b']
  else if c = '\t' then ['\\', 't']
  else if c = '\n' then ['\\', 'n']
  else if c = '\x0c' then ['\\', 'f']
  else if c = '\r' then ['\\', 'r']
  else if c.toNat < 0x20 then controlEscape c
  else [c]

/-- A string in quotes. -/
def quoted (text : List Char) : List Char :=
  '"' :: text.flatMap escape ++ ['"']

/-! ## Layout -/

/-- A new line, indented two spaces per level. -/
def newline (depth : Nat) : List Char :=
  '\n' :: List.replicate (2 * depth) ' '

/-- The parts of an array or object between its brackets, one a line. -/
def block (opening closing : Char) (depth : Nat) (parts : List (List Char)) : List Char :=
  if parts.isEmpty then [opening, closing]
  else opening :: newline (depth + 1) ++ List.intercalate (',' :: newline (depth + 1)) parts ++
    newline depth ++ [closing]

mutual

/-- The text of a value that starts at the given depth. -/
def layout (depth : Nat) : Json → List Char
  | .number value => Nat.toDigits 10 value
  | .string text => quoted text
  | .array items => block '[' ']' depth (layoutItems (depth + 1) items)
  | .object members => block '\x7b' '\x7d' depth (layoutMembers (depth + 1) members)

/-- The texts of the items of an array. -/
def layoutItems (depth : Nat) : List Json → List (List Char)
  | [] => []
  | item :: rest => layout depth item :: layoutItems depth rest

/-- The texts of the members of an object. -/
def layoutMembers (depth : Nat) : List (List Char × Json) → List (List Char)
  | [] => []
  | (key, value) :: rest =>
    (quoted key ++ [':', ' '] ++ layout depth value) :: layoutMembers depth rest

end

/-- The indented text of a value. -/
def pretty (value : Json) : String :=
  String.ofList (layout 0 value)

end Json

end Midrange
