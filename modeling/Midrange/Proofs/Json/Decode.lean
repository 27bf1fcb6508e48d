import Midrange.Json.Skip
import Midrange.Proofs.Json.Grammar

/-!
# Decoding JSON texts

A JSON text is a text of one value only. The value is found by a decoder, which reads every text of
the grammar; about other texts nothing is said of it.

* `decodeString`, `decodeNumber`: the pieces of a text, and what is left after them.
* `decodeValue`, `decodeItems`, `decodeMembers`: values, and what stands between brackets.
* `Writes.decodes`: the decoder finds what a text was written for, by induction over the grammar.
* `IsText.unique`: the value of a text.
-/

namespace Midrange.Json

/-! ## The decoder -/

/-- Reads a string after its opening quote. -/
def decodeString : List Char → Option (List Nat × List Char)
  | [] => none
  | '"' :: rest => some ([], rest)
  | '\\' :: 'u' :: a :: b :: c :: d :: rest =>
    (decodeString rest).map fun (us, rest) => (Literal.positional 16 [a, b, c, d] :: us, rest)
  | '\\' :: letter :: rest => do
    let c ← escapes.lookup letter
    let (us, rest) ← decodeString rest
    return (c.toNat :: us, rest)
  | c :: rest => (decodeString rest).map fun (us, rest) => (utf16 c ++ us, rest)

/-- Reads the digits of a fraction, if there is one. -/
def decodeFraction : List Char → List Char × List Char
  | '.' :: rest => (rest.takeWhile isDecimal, rest.dropWhile isDecimal)
  | text => ([], text)

/-- Reads an exponent, if there is one. -/
def decodeExponent (text : List Char) : Int × List Char :=
  match text with
  | [] => (0, text)
  | mark :: rest =>
    if mark = 'e' ∨ mark = 'E' then
      let (negative, digits) := Literal.splitSign rest
      let n := Literal.positional 10 (digits.takeWhile isDecimal)
      (if negative then -n else n, digits.dropWhile isDecimal)
    else (0, text)

/-- Reads a number. -/
def decodeNumber (text : List Char) : ℚ × List Char :=
  let (negative, rest) := Literal.splitSign text
  let whole := rest.takeWhile isDecimal
  let (fraction, rest) := decodeFraction (rest.dropWhile isDecimal)
  let (exponent, rest) := decodeExponent rest
  let magnitude : Int := Literal.positional 10 (whole ++ fraction)
  ((if negative then -magnitude else magnitude) * 10 ^ (exponent - fraction.length), rest)

mutual

/-- Reads a value. The first argument bounds the number of steps. -/
def decodeValue : Nat → List Char → Option (Value × List Char)
  | 0, _ => none
  | fuel + 1, text =>
    match text with
    | 'n' :: rest => some (.null, rest.drop 3)
    | 't' :: rest => some (.boolean true, rest.drop 3)
    | 'f' :: rest => some (.boolean false, rest.drop 4)
    | '"' :: rest => (decodeString rest).map fun (us, rest) => (.string us, rest)
    | '[' :: rest =>
      match skipSpace rest with
      | ']' :: after => some (.array [], after)
      | _ => (decodeItems fuel rest).map fun (items, rest) => (.array items, rest)
    | '\x7b' :: rest =>
      match skipSpace rest with
      | '\x7d' :: after => some (.object [], after)
      | _ => (decodeMembers fuel rest).map fun (members, rest) => (.object members, rest)
    | text => some (.number (decodeNumber text).1, (decodeNumber text).2)

/-- Reads the items of an array and its closing bracket. -/
def decodeItems : Nat → List Char → Option (List Value × List Char)
  | 0, _ => none
  | fuel + 1, text => do
    let (value, rest) ← decodeValue fuel (skipSpace text)
    match skipSpace rest with
    | ',' :: rest =>
      let (items, rest) ← decodeItems fuel rest
      return (value :: items, rest)
    | rest => return ([value], rest.tail)

/-- Reads the members of an object and its closing brace. -/
def decodeMembers : Nat → List Char → Option (List (List Nat × Value) × List Char)
  | 0, _ => none
  | fuel + 1, text => do
    let (us, rest) ← decodeString (skipSpace text).tail
    let (value, rest) ← decodeValue fuel (skipSpace (skipSpace rest).tail)
    match skipSpace rest with
    | ',' :: rest =>
      let (members, rest) ← decodeMembers fuel rest
      return ((us, value) :: members, rest)
    | rest => return ([(us, value)], rest.tail)

end

/-! ## Strings -/

/-- **A string is decoded to its code units.** -/
theorem Characters.decodeString_eq {us : List Nat} {text : List Char} (h : Characters us text)
    (rest : List Char) : decodeString (text ++ '"' :: rest) = some (us, rest) := by
  induction h with
  | nil => simp [decodeString]
  | @plain c us text hcontrol hquote hbackslash h ih =>
    simp [decodeString, hbackslash, ih]
  | @escape letter c us text hescape h ih =>
    have hall : ∀ entry ∈ escapes, entry.1 ≠ 'u' ∧ escapes.lookup entry.1 = some entry.2 := by
      decide
    obtain ⟨hu, hlookup⟩ := hall _ hescape
    simp [decodeString, hu, hlookup, ih]
  | @hex a b c d n us text hdigits h ih =>
    simp [decodeString, ih, hdigits.value]

/-! ## Numbers -/

/-- What may follow a number: nothing that would make it longer. -/
def Ends (rest : List Char) : Prop :=
  ∀ c ∈ rest.head?, isDecimal c = false ∧ c ≠ '.' ∧ c ≠ 'e' ∧ c ≠ 'E'

theorem Ends.startsWithDigit {rest : List Char} (h : Ends rest) : startsWithDigit rest = false := by
  cases rest with
  | nil => rfl
  | cons c rest => exact (h c rfl).1

/-- A run of digits ends where no digit follows. -/
theorem split_digits {digits rest : List Char} (h : ∀ c ∈ digits, isDecimal c = true)
    (hrest : startsWithDigit rest = false) :
    (digits ++ rest).takeWhile isDecimal = digits ∧
      (digits ++ rest).dropWhile isDecimal = rest := by
  rw [List.takeWhile_append_of_pos h, List.dropWhile_append_of_pos h]
  cases rest with
  | nil => simp
  | cons c rest =>
    have hc : isDecimal c = false := hrest
    simp [hc]

/-- A sign is split off in front of digits. -/
theorem splitSign_append_digits (sign : Literal.Sign) {digits : List Char} (hne : digits ≠ [])
    (h : ∀ c ∈ digits, isDecimal c = true) (rest : List Char) :
    Literal.splitSign (sign.text ++ (digits ++ rest)) = (sign.negates, digits ++ rest) := by
  cases sign with
  | plus | minus => rfl
  | none =>
    obtain ⟨c, digits, rfl⟩ := List.exists_cons_of_ne_nil hne
    have hminus : c ≠ '-' := by
      rintro rfl
      exact absurd (h '-' List.mem_cons_self) (by decide)
    have hplus : c ≠ '+' := by
      rintro rfl
      exact absurd (h '+' List.mem_cons_self) (by decide)
    simp [Literal.Sign.text, Literal.Sign.negates, Literal.splitSign, hminus, hplus]

theorem Exponent.decodeExponent_eq {e : Int} {text rest : List Char} (h : Exponent e text)
    (hrest : Ends rest) : decodeExponent (text ++ rest) = (e, rest) := by
  cases h with
  | absent =>
    cases rest with
    | nil => rfl
    | cons c rest =>
      obtain ⟨-, -, hlower, hupper⟩ := hrest c rfl
      simp [decodeExponent, hlower, hupper]
  | @present mark sign n digits hmark h =>
    have hsplit := splitSign_append_digits sign h.ne_nil h.isDigit rest
    obtain ⟨htake, hdrop⟩ := split_digits h.isDigit hrest.startsWithDigit
    simp only [List.cons_append, List.append_assoc, decodeExponent, if_pos hmark, hsplit, htake,
      hdrop, h.value]
    cases sign <;> rfl

/-- What follows the digits of a number does not make them more. -/
theorem Exponent.head {e : Int} {text rest : List Char} (h : Exponent e text) (hrest : Ends rest) :
    startsWithDigit (text ++ rest) = false ∧ (text ++ rest).head? ≠ some '.' := by
  cases h with
  | absent =>
    refine ⟨hrest.startsWithDigit, fun hpoint => ?_⟩
    exact (hrest '.' hpoint).2.1 rfl
  | present hmark h => rcases hmark with rfl | rfl <;> exact ⟨rfl, by simp⟩

theorem Fraction.decodeFraction_eq {digits text rest : List Char} (h : Fraction digits text)
    (hdigit : startsWithDigit rest = false) (hpoint : rest.head? ≠ some '.') :
    decodeFraction (text ++ rest) = (digits, rest) := by
  cases h with
  | absent =>
    cases rest with
    | nil => rfl
    | cons c rest =>
      have hc : c ≠ '.' := by simpa using hpoint
      simp [decodeFraction, hc]
  | present hne hdigits =>
    obtain ⟨htake, hdrop⟩ := split_digits hdigits hdigit
    simp only [List.cons_append, decodeFraction, htake, hdrop]

theorem Fraction.startsWithDigit_append {digits text rest : List Char} (h : Fraction digits text)
    (hrest : startsWithDigit rest = false) : startsWithDigit (text ++ rest) = false := by
  cases h with
  | absent => exact hrest
  | present => rfl

/-- **A number is decoded to its value.** -/
theorem Number.decodeNumber_eq {q : ℚ} {text rest : List Char} (h : Number q text)
    (hrest : Ends rest) : decodeNumber (text ++ rest) = (q, rest) := by
  obtain @⟨sign, whole, fraction, fractionText, exponentText, exponent, -, hwhole, hfraction,
    hexponent⟩ := h
  obtain ⟨hdigit, hpoint⟩ := hexponent.head hrest
  have hsplit := splitSign_append_digits sign hwhole.ne_nil hwhole.isDecimal
    (fractionText ++ (exponentText ++ rest))
  obtain ⟨htake, hdrop⟩ :=
    split_digits hwhole.isDecimal (hfraction.startsWithDigit_append hdigit)
  simp only [List.append_assoc, decodeNumber, hsplit, htake, hdrop,
    hfraction.decodeFraction_eq hdigit hpoint, hexponent.decodeExponent_eq hrest]
  cases sign <;> rfl

/-! ## First characters -/

theorem skipSpace_append {space : List Char} (h : Spaces space) (rest : List Char) :
    skipSpace (space ++ rest) = skipSpace rest :=
  List.dropWhile_append_of_pos h

theorem skipSpace_cons {c : Char} (h : isSpace c = false) (rest : List Char) :
    skipSpace (c :: rest) = c :: rest := by
  simp [skipSpace, h]

theorem skipSpace_append_cons {space : List Char} {c : Char} (h : Spaces space)
    (hc : isSpace c = false) (rest : List Char) : skipSpace (space ++ c :: rest) = c :: rest := by
  rw [skipSpace_append h, skipSpace_cons hc]

theorem isSpace_iff {c : Char} : isSpace c = true ↔ c = ' ' ∨ c = '\t' ∨ c = '\n' ∨ c = '\r' := by
  simp [isSpace, or_assoc]

theorem isSpace_of_isDecimal {c : Char} (h : isDecimal c = true) : isSpace c = false := by
  by_contra hspace
  rw [Bool.not_eq_false, isSpace_iff] at hspace
  rcases hspace with rfl | rfl | rfl | rfl <;> exact absurd h (by decide)

theorem Number.exists_cons {q : ℚ} {text : List Char} (h : Number q text) :
    ∃ c rest, text = c :: rest ∧ (c = '-' ∨ isDecimal c = true) := by
  obtain @⟨sign, whole, _, fractionText, exponentText, _, hsign, hwhole, _, _⟩ := h
  obtain ⟨c, whole, rfl⟩ := List.exists_cons_of_ne_nil hwhole.ne_nil
  cases sign with
  | none => exact ⟨c, _, rfl, .inr (hwhole.isDecimal c List.mem_cons_self)⟩
  | plus => exact absurd rfl hsign
  | minus => exact ⟨'-', _, rfl, .inl rfl⟩

/-- A value starts neither with a blank nor with a closing bracket. -/
theorem Writes.exists_cons {value : Value} {text : List Char} (h : Writes (.value value) text) :
    ∃ c rest, text = c :: rest ∧ isSpace c = false ∧ c ≠ ']' := by
  cases h with
  | nullWord | trueWord | falseWord | string | emptyArray | array | emptyObject | object =>
    exact ⟨_, _, rfl, rfl, by decide⟩
  | number h =>
    obtain ⟨c, rest, rfl, rfl | hc⟩ := h.exists_cons
    · exact ⟨_, _, rfl, rfl, by decide⟩
    · refine ⟨c, rest, rfl, isSpace_of_isDecimal hc, ?_⟩
      rintro rfl
      exact absurd hc (by decide)

theorem Writes.skipSpace_element {value : Value} {text : List Char}
    (h : Writes (.element value) text) (rest : List Char) :
    ∃ c tail, skipSpace (text ++ rest) = c :: tail ∧ c ≠ ']' := by
  cases h with
  | element hbefore h hafter =>
    obtain ⟨c, tail, rfl, hspace, hne⟩ := h.exists_cons
    rw [List.append_assoc, skipSpace_append hbefore, List.cons_append, List.cons_append,
      skipSpace_cons hspace]
    exact ⟨c, _, rfl, hne⟩

theorem Writes.skipSpace_items {items : List Value} {text : List Char}
    (h : Writes (.items items) text) (rest : List Char) :
    ∃ c tail, skipSpace (text ++ rest) = c :: tail ∧ c ≠ ']' := by
  cases h with
  | lastItem h => exact h.skipSpace_element rest
  | item h =>
    rw [List.append_assoc]
    exact h.skipSpace_element _

theorem Writes.skipSpace_members {members : List (List Nat × Value)} {text : List Char}
    (h : Writes (.members members) text) (rest : List Char) :
    ∃ tail, skipSpace (text ++ rest) = '"' :: tail := by
  cases h with
  | lastMember hbefore | member hbefore =>
    rw [List.append_assoc]
    exact ⟨_, skipSpace_append_cons hbefore rfl _⟩

/-! ## Values -/

/-- What may follow a value with the blanks after it. -/
def Closes (rest : List Char) : Prop :=
  ∀ c ∈ rest.head?, c = ',' ∨ c = ']' ∨ c = '\x7d'

theorem closes_cons {c : Char} (h : c = ',' ∨ c = ']' ∨ c = '\x7d') (rest : List Char) :
    Closes (c :: rest) := by
  intro d hd
  obtain rfl : c = d := by simpa using hd
  exact h

theorem Closes.skipSpace_eq {rest : List Char} (h : Closes rest) : skipSpace rest = rest := by
  cases rest with
  | nil => rfl
  | cons c rest =>
    rcases h c rfl with rfl | rfl | rfl <;> exact skipSpace_cons rfl _

theorem Closes.ends {space rest : List Char} (h : Closes rest) (hspace : Spaces space) :
    Ends (space ++ rest) := by
  intro c hc
  cases space with
  | nil => rcases h c hc with rfl | rfl | rfl <;> decide
  | cons d space =>
    obtain rfl : d = c := by simpa using hc
    rcases isSpace_iff.1 (hspace d List.mem_cons_self) with rfl | rfl | rfl | rfl <;> decide

/-- The decoder reads a text of the phrase, whatever may follow it. Two steps per character are
enough, since an item and the value in it start at the same character. -/
def Phrase.Decodes : Phrase → List Char → Prop
  | .value v, text => ∀ fuel rest, 2 * text.length ≤ fuel → Ends rest →
      decodeValue fuel (text ++ rest) = some (v, rest)
  | .element v, text => ∀ fuel rest, 2 * text.length ≤ fuel → Closes rest →
      ∃ after, decodeValue fuel (skipSpace (text ++ rest)) = some (v, after) ∧
        skipSpace after = rest
  | .items vs, text => ∀ fuel rest, 2 * text.length < fuel →
      decodeItems fuel (text ++ ']' :: rest) = some (vs, rest)
  | .members ms, text => ∀ fuel rest, 2 * text.length < fuel →
      decodeMembers fuel (text ++ '\x7d' :: rest) = some (ms, rest)

theorem decodeValue_number {c : Char} {text : List Char} (h : c = '-' ∨ isDecimal c = true)
    (fuel : Nat) : decodeValue (fuel + 1) (c :: text) =
      some (.number (decodeNumber (c :: text)).1, (decodeNumber (c :: text)).2) := by
  have hne : ∀ d ∈ ['n', 't', 'f', '"', '[', '\x7b'], c ≠ d := by
    rintro d hd rfl
    rcases h with rfl | h
    · exact absurd hd (by decide)
    · simp only [List.mem_cons, List.not_mem_nil, or_false] at hd
      rcases hd with rfl | rfl | rfl | rfl | rfl | rfl <;> exact absurd h (by decide)
  simp only [List.forall_mem_cons] at hne
  simp [decodeValue, hne]

theorem decodeValue_array {fuel : Nat} {text : List Char}
    (h : ∃ c tail, skipSpace text = c :: tail ∧ c ≠ ']') :
    decodeValue (fuel + 1) ('[' :: text) =
      (decodeItems fuel text).map fun (items, rest) => (.array items, rest) := by
  obtain ⟨c, tail, hskip, hne⟩ := h
  simp [decodeValue, hskip, hne]

theorem decodeValue_object {fuel : Nat} {text : List Char}
    (h : ∃ tail, skipSpace text = '"' :: tail) :
    decodeValue (fuel + 1) ('\x7b' :: text) =
      (decodeMembers fuel text).map fun (members, rest) => (.object members, rest) := by
  obtain ⟨tail, hskip⟩ := h
  simp [decodeValue, hskip]

theorem decodeMembers_member {us : List Nat} {before name colon : List Char}
    (hbefore : Spaces before) (hname : Characters us name) (hcolon : Spaces colon) (fuel : Nat)
    (text : List Char) :
    decodeMembers (fuel + 1) (before ++ '"' :: (name ++ '"' :: (colon ++ ':' :: text))) = do
      let (value, rest) ← decodeValue fuel (skipSpace text)
      match skipSpace rest with
      | ',' :: rest =>
        let (members, rest) ← decodeMembers fuel rest
        return ((us, value) :: members, rest)
      | rest => return ([(us, value)], rest.tail) := by
  rw [decodeMembers, skipSpace_append_cons hbefore rfl, List.tail_cons, hname.decodeString_eq,
    Option.bind_eq_bind, Option.bind_some]
  simp only [skipSpace_append_cons hcolon (c := ':') rfl, List.tail_cons]

/-- **The decoder reads every text of the grammar.** -/
theorem Writes.decodes {phrase : Phrase} {text : List Char} (h : Writes phrase text) :
    phrase.Decodes text := by
  induction h with
  | nullWord | trueWord | falseWord =>
    intro fuel rest hfuel hrest
    cases fuel with
    | zero => simp at hfuel
    | succ fuel => simp [decodeValue]
  | @number q text h =>
    intro fuel rest hfuel hrest
    obtain ⟨c, text, rfl, hc⟩ := h.exists_cons
    cases fuel with
    | zero => simp at hfuel
    | succ fuel =>
      rw [List.cons_append, decodeValue_number hc, ← List.cons_append, h.decodeNumber_eq hrest]
  | @string us text h =>
    intro fuel rest hfuel hrest
    cases fuel with
    | zero => simp at hfuel
    | succ fuel => simp [decodeValue, h.decodeString_eq]
  | @emptyArray space h =>
    intro fuel rest hfuel hrest
    cases fuel with
    | zero => simp at hfuel
    | succ fuel =>
      have hskip : skipSpace (space ++ ']' :: rest) = ']' :: rest :=
        skipSpace_append_cons h rfl rest
      simp [decodeValue, hskip]
  | @array items text h ih =>
    intro fuel rest hfuel hrest
    cases fuel with
    | zero => simp at hfuel
    | succ fuel =>
      rw [List.cons_append, List.append_assoc, List.singleton_append,
        decodeValue_array (h.skipSpace_items _), ih fuel rest (by simp at hfuel; omega)]
      rfl
  | @emptyObject space h =>
    intro fuel rest hfuel hrest
    cases fuel with
    | zero => simp at hfuel
    | succ fuel =>
      have hskip : skipSpace (space ++ '\x7d' :: rest) = '\x7d' :: rest :=
        skipSpace_append_cons h rfl rest
      simp [decodeValue, hskip]
  | @object members text h ih =>
    intro fuel rest hfuel hrest
    cases fuel with
    | zero => simp at hfuel
    | succ fuel =>
      rw [List.cons_append, List.append_assoc, List.singleton_append,
        decodeValue_object (h.skipSpace_members _), ih fuel rest (by simp at hfuel; omega)]
      rfl
  | @element value before text after hbefore h hafter ih =>
    intro fuel rest hfuel hrest
    obtain ⟨c, tail, htext, hspace, -⟩ := h.exists_cons
    refine ⟨after ++ rest, ?_, ?_⟩
    · have hskip : skipSpace (text ++ (after ++ rest)) = text ++ (after ++ rest) := by
        rw [htext, List.cons_append, skipSpace_cons hspace]
      rw [List.append_assoc, List.append_assoc, skipSpace_append hbefore, hskip]
      exact ih fuel (after ++ rest) (by simp at hfuel; omega) (hrest.ends hafter)
    · rw [skipSpace_append hafter, hrest.skipSpace_eq]
  | @lastItem value text h ih =>
    intro fuel rest hfuel
    cases fuel with
    | zero => omega
    | succ fuel =>
      obtain ⟨after, hvalue, hafter⟩ := ih fuel (']' :: rest) (by omega) (closes_cons (by simp) _)
      simp [decodeItems, hvalue, hafter]
  | @item value items text rest' h hrest ih ihrest =>
    intro fuel rest hfuel
    cases fuel with
    | zero => omega
    | succ fuel =>
      simp only [List.length_append, List.length_cons] at hfuel
      obtain ⟨after, hvalue, hafter⟩ :=
        ih fuel (',' :: (rest' ++ ']' :: rest)) (by omega) (closes_cons (by simp) _)
      simp [decodeItems, hvalue, hafter, ihrest fuel rest (by omega)]
  | @lastMember us value before name colon text hbefore hname hcolon h ih =>
    intro fuel rest hfuel
    cases fuel with
    | zero => omega
    | succ fuel =>
      simp only [List.length_append, List.length_cons] at hfuel
      obtain ⟨after, hvalue, hafter⟩ :=
        ih fuel ('\x7d' :: rest) (by omega) (closes_cons (by simp) _)
      simp [decodeMembers_member hbefore hname hcolon, hvalue, hafter]
  | @member us value members before name colon text rest' hbefore hname hcolon h hrest ih ihrest =>
    intro fuel rest hfuel
    cases fuel with
    | zero => omega
    | succ fuel =>
      simp only [List.length_append, List.length_cons] at hfuel
      obtain ⟨after, hvalue, hafter⟩ :=
        ih fuel (',' :: (rest' ++ '\x7d' :: rest)) (by omega) (closes_cons (by simp) _)
      simp [decodeMembers_member hbefore hname hcolon, hvalue, hafter, ihrest fuel rest (by omega)]

/-- **A text has one value.** -/
theorem IsText.unique {value value' : Value} {text : List Char} (h : IsText value text)
    (h' : IsText value' text) : value = value' := by
  obtain ⟨after, hvalue, -⟩ := Writes.decodes h (2 * text.length) [] le_rfl (by simp [Closes])
  obtain ⟨after', hvalue', -⟩ := Writes.decodes h' (2 * text.length) [] le_rfl (by simp [Closes])
  rw [hvalue] at hvalue'
  exact (Prod.mk.inj (Option.some.inj hvalue')).1

end Midrange.Json
