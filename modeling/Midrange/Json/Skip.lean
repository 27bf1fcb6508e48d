import Midrange.Json.Lexeme

/-!
# Skipping a JSON value

A value that nobody asked for still has to be well-formed. `skip` reads past one value of any kind
and any nesting depth.
-/

namespace Midrange.Json

/-- Skips the colon after the name of a member. -/
def skipColon (text : List Char) : Except Problem (List Char) :=
  match skipSpace text with
  | ':' :: rest => .ok rest
  | [] => .error .truncated
  | _ => .error .malformed

mutual

/-- Skips a value. The first argument bounds the number of steps. -/
def skipValue : Nat → List Char → Except Problem (List Char)
  | 0, _ => .error .truncated
  | fuel + 1, text =>
    match skipSpace text with
    | [] => .error .truncated
    | 'n' :: rest => readWord ['u', 'l', 'l'] rest
    | 't' :: rest => readWord ['r', 'u', 'e'] rest
    | 'f' :: rest => readWord ['a', 'l', 's', 'e'] rest
    | '"' :: rest => skipString rest
    | '-' :: rest => skipNumber rest
    | '[' :: rest =>
      match skipSpace rest with
      | ']' :: after => .ok after
      | _ => skipItems fuel rest
    | '\x7b' :: rest =>
      match skipSpace rest with
      | '\x7d' :: after => .ok after
      | _ => skipMembers fuel rest
    | c :: rest => if isDecimal c then skipNumber (c :: rest) else .error .malformed

/-- Skips the items of an array and its closing bracket. -/
def skipItems : Nat → List Char → Except Problem (List Char)
  | 0, _ => .error .truncated
  | fuel + 1, text => do
    match skipSpace (← skipValue fuel text) with
    | ',' :: rest => skipItems fuel rest
    | ']' :: rest => .ok rest
    | [] => .error .truncated
    | _ => .error .malformed

/-- Skips the members of an object and its closing brace. -/
def skipMembers : Nat → List Char → Except Problem (List Char)
  | 0, _ => .error .truncated
  | fuel + 1, text =>
    match skipSpace text with
    | '"' :: rest => do
      let afterName ← skipString rest
      let afterColon ← skipColon afterName
      match skipSpace (← skipValue fuel afterColon) with
      | ',' :: rest => skipMembers fuel rest
      | '\x7d' :: rest => .ok rest
      | [] => .error .truncated
      | _ => .error .malformed
    | [] => .error .truncated
    | _ => .error .malformed

end

/-- Skips one value. Two steps per character are enough: an item and the value in it start at the
same character. -/
def skip (text : List Char) : Except Problem (List Char) :=
  skipValue (2 * text.length + 1) text

end Midrange.Json
