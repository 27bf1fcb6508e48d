import Mathlib.Algebra.Order.Field.Rat
import Midrange.Json.Lexeme
import Midrange.Proofs.Literal.Grammar

/-!
# The grammar of JSON

Which texts are JSON texts, and of which values: objects and arrays of any depth, strings with their
escapes, numbers with fraction and exponent, and blanks between all of these.

* `Value`: the values. A string is a list of UTF-16 code units, because an escape of four digits
  stands for a unit and units need not come in pairs. `units` are those of ordinary characters, and
  different texts have different ones (`units_injective`).
* `Characters`, `Number`: what stands between the quotes of a string, and the numbers.
* `Writes`: the texts of a value, of the items of an array and of the members of an object.
* `IsText value text`: a whole text, which may have blanks at both ends.
-/

namespace Midrange.Json

/-! ## Values -/

/-- A JSON value. -/
inductive Value where
  | null
  | boolean (value : Bool)
  | number (value : ℚ)
  | string (units : List Nat)
  | array (items : List Value)
  | object (members : List (List Nat × Value))

/-! ## Strings -/

/-- The UTF-16 code units of a character: itself, or a pair of surrogates. -/
def utf16 (c : Char) : List Nat :=
  if c.toNat < 0x10000 then [c.toNat]
  else [0xD800 + (c.toNat - 0x10000) / 0x400, 0xDC00 + (c.toNat - 0x10000) % 0x400]

/-- The UTF-16 code units of a text. -/
def units (text : List Char) : List Nat :=
  text.flatMap utf16

theorem utf16_append_inj {c d : Char} {rest rest' : List Nat}
    (h : utf16 c ++ rest = utf16 d ++ rest') : c = d ∧ rest = rest' := by
  -- No character is a surrogate, so the first unit tells a single unit from a pair.
  have hc := c.valid
  have hd := d.valid
  simp only [UInt32.isValidChar, Nat.isValidChar] at hc hd
  change c.toNat < _ ∨ _ < c.toNat ∧ c.toNat < _ at hc
  change d.toNat < _ ∨ _ < d.toNat ∧ d.toNat < _ at hd
  have hchar : c.toNat = d.toNat → c = d := Char.toNat_inj.1
  unfold utf16 at h
  split_ifs at h <;> simp only [List.cons_append, List.nil_append, List.cons.injEq] at h
  · exact ⟨hchar h.1, h.2⟩
  · omega
  · omega
  · exact ⟨hchar (by omega), h.2.2⟩

theorem utf16_ne_nil (c : Char) : utf16 c ≠ [] := by
  unfold utf16
  split_ifs <;> simp

/-- **Different texts have different code units.** -/
theorem units_injective : Function.Injective units := by
  intro text text' h
  induction text generalizing text' with
  | nil =>
    cases text' with
    | nil => rfl
    | cons d rest' => simp [units, utf16_ne_nil] at h
  | cons c rest ih =>
    cases text' with
    | nil => simp [units, utf16_ne_nil] at h
    | cons d rest' =>
      obtain ⟨rfl, hrest⟩ := utf16_append_inj h
      rw [ih hrest]

/-- What may stand after a backslash, and the character that it stands for. -/
def escapes : List (Char × Char) :=
  [('"', '"'), ('\\', '\\'), ('/', '/'), ('b', '\x08'), ('f', '\x0c'), ('n', '\n'), ('r', '\r'),
   ('t', '\t')]

/-- The text between the quotes of a string with the given code units. -/
inductive Characters : List Nat → List Char → Prop where
  | nil : Characters [] []
  /-- A character that stands for itself. -/
  | plain {c : Char} {us : List Nat} {text : List Char} (hcontrol : 0x20 ≤ c.toNat)
      (hquote : c ≠ '"') (hbackslash : c ≠ '\\') (h : Characters us text) :
      Characters (utf16 c ++ us) (c :: text)
  /-- A letter after a backslash. -/
  | escape {letter c : Char} {us : List Nat} {text : List Char} (hescape : (letter, c) ∈ escapes)
      (h : Characters us text) : Characters (c.toNat :: us) ('\\' :: letter :: text)
  /-- Four hexadecimal digits after `\u`. -/
  | hex {a b c d : Char} {n : Nat} {us : List Nat} {text : List Char}
      (hdigits : Literal.IsNumeral 16 n [a, b, c, d]) (h : Characters us text) :
      Characters (n :: us) ('\\' :: 'u' :: a :: b :: c :: d :: text)

/-! ## Numbers -/

/-- The digits before the point: a leading zero stands alone. -/
structure IsWhole (digits : List Char) : Prop where
  ne_nil : digits ≠ []
  isDecimal : ∀ c ∈ digits, isDecimal c = true
  leading : digits.head? = some '0' → digits = ['0']

/-- The digits of a fraction, and how they are written. -/
inductive Fraction : List Char → List Char → Prop where
  | absent : Fraction [] []
  | present {digits : List Char} (hne : digits ≠ []) (hdigits : ∀ c ∈ digits, isDecimal c = true) :
      Fraction digits ('.' :: digits)

/-- An exponent, and how it is written. -/
inductive Exponent : Int → List Char → Prop where
  | absent : Exponent 0 []
  | present {mark : Char} {sign : Literal.Sign} {n : Nat} {digits : List Char}
      (hmark : mark = 'e' ∨ mark = 'E') (h : Literal.IsNumeral 10 n digits) :
      Exponent (sign.apply n) (mark :: sign.text ++ digits)

/-- A number, and how it is written. A plus may stand in the exponent only. -/
inductive Number : ℚ → List Char → Prop where
  | mk {sign : Literal.Sign} {whole fraction fractionText exponentText : List Char} {exponent : Int}
      (hsign : sign ≠ .plus) (hwhole : IsWhole whole) (hfraction : Fraction fraction fractionText)
      (hexponent : Exponent exponent exponentText) :
      Number (sign.apply (Literal.positional 10 (whole ++ fraction)) *
          10 ^ (exponent - fraction.length))
        (sign.text ++ (whole ++ (fractionText ++ exponentText)))

/-! ## Texts -/

/-- Blanks between the pieces of a text. -/
def Spaces (text : List Char) : Prop :=
  ∀ c ∈ text, isSpace c = true

/-- What a piece of a text can be of: a value, a value with the blanks around it, the items of an
array and the members of an object. -/
inductive Phrase where
  | value (value : Value)
  | element (value : Value)
  | items (items : List Value)
  | members (members : List (List Nat × Value))

/-- How the pieces of a text are written. The items of an array and the members of an object are
written without the brackets, and there is at least one of them. -/
inductive Writes : Phrase → List Char → Prop where
  | nullWord : Writes (.value .null) ['n', 'u', 'l', 'l']
  | trueWord : Writes (.value (.boolean true)) ['t', 'r', 'u', 'e']
  | falseWord : Writes (.value (.boolean false)) ['f', 'a', 'l', 's', 'e']
  | number {q : ℚ} {text : List Char} (h : Number q text) : Writes (.value (.number q)) text
  | string {us : List Nat} {text : List Char} (h : Characters us text) :
      Writes (.value (.string us)) ('"' :: (text ++ ['"']))
  | emptyArray {space : List Char} (h : Spaces space) :
      Writes (.value (.array [])) ('[' :: (space ++ [']']))
  | array {items : List Value} {text : List Char} (h : Writes (.items items) text) :
      Writes (.value (.array items)) ('[' :: (text ++ [']']))
  | emptyObject {space : List Char} (h : Spaces space) :
      Writes (.value (.object [])) ('\x7b' :: (space ++ ['\x7d']))
  | object {members : List (List Nat × Value)} {text : List Char}
      (h : Writes (.members members) text) :
      Writes (.value (.object members)) ('\x7b' :: (text ++ ['\x7d']))
  | element {value : Value} {before text after : List Char} (hbefore : Spaces before)
      (h : Writes (.value value) text) (hafter : Spaces after) :
      Writes (.element value) (before ++ (text ++ after))
  | lastItem {value : Value} {text : List Char} (h : Writes (.element value) text) :
      Writes (.items [value]) text
  | item {value : Value} {items : List Value} {text rest : List Char}
      (h : Writes (.element value) text) (hrest : Writes (.items items) rest) :
      Writes (.items (value :: items)) (text ++ ',' :: rest)
  | lastMember {us : List Nat} {value : Value} {before name colon text : List Char}
      (hbefore : Spaces before) (hname : Characters us name) (hcolon : Spaces colon)
      (h : Writes (.element value) text) :
      Writes (.members [(us, value)]) (before ++ '"' :: (name ++ '"' :: (colon ++ ':' :: text)))
  | member {us : List Nat} {value : Value} {members : List (List Nat × Value)}
      {before name colon text rest : List Char} (hbefore : Spaces before)
      (hname : Characters us name) (hcolon : Spaces colon) (h : Writes (.element value) text)
      (hrest : Writes (.members members) rest) :
      Writes (.members ((us, value) :: members))
        (before ++ '"' :: (name ++ '"' :: (colon ++ ':' :: (text ++ ',' :: rest))))

/-- A JSON text of a value. -/
def IsText (value : Value) (text : List Char) : Prop :=
  Writes (.element value) text

end Midrange.Json
