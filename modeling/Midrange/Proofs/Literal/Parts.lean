import Midrange.Proofs.Literal.Grammar

/-!
# The parts of a text of digits

A text that is scanned in a radix is a sign, a mark, a run of digits and a rest, each as long as it
can be. Every text has such parts, and only one choice of them.

* `Parts radix text`: the parts, with the laws that make them the longest ones.
* `Parts.of radix text`: the parts of any text. `Parts` is a subsingleton, so there are no others.
* `Parts.integer`: the integer that sign and digits stand for, without a bound.
* `Parts.scan_eq`: a scan finds this integer modulo 2^64, and whether there is a rest.
* `leading radix text`, `integer token`: the integer that a text starts with, and that of a token in
  the base that it selects. `scan_getD` and `value?_getD` say that these are read modulo 2^64.
-/

namespace Midrange.Literal

theorem Sign.text_injective : Function.Injective Sign.text := by
  intro sign sign' h
  cases sign <;> cases sign' <;> simp [text] at h ⊢

/-- A text taken apart for a radix. -/
structure Parts (radix : Nat) (text : List Char) where
  /-- The sign, if the text starts with one. -/
  sign : Sign
  /-- The mark behind the sign, in base 16 and if there is one. -/
  mark : List Char
  /-- The longest run of digits behind the mark. -/
  digits : List Char
  /-- What stands behind the digits. -/
  rest : List Char
  text_eq : text = sign.text ++ (mark ++ (digits ++ rest))
  head?_ne : sign = .none → ∀ c ∈ text.head?, c ≠ '+' ∧ c ≠ '-'
  isInnerMark : IsInnerMark radix mark
  not_isPrefix : radix = 16 → mark = [] → ∀ mark' ∈ hexMarks, ¬mark' <+: digits ++ rest
  isDigit : ∀ c ∈ digits, Text.isDigit radix c = true
  head?_isDigit : ∀ c ∈ rest.head?, Text.isDigit radix c = false

namespace Parts

variable {radix : Nat} {text : List Char}

/-- The integer that the sign and the digits stand for: 0 if there are no digits. -/
def integer (parts : Parts radix text) : Int :=
  parts.sign.apply (positional radix parts.digits)

/-! ## Every text has parts -/

/-- The sign that a text starts with. -/
def signOf : List Char → Sign
  | '-' :: _ => .minus
  | '+' :: _ => .plus
  | _ => .none

/-- The mark of a hexadecimal literal that a text starts with. -/
def hexMarkOf : List Char → List Char
  | '0' :: 'x' :: _ => ['0', 'x']
  | '0' :: 'X' :: _ => ['0', 'X']
  | _ => []

/-- The mark in front of the digits of a text without a sign. -/
def markOf (radix : Nat) (text : List Char) : List Char :=
  if radix = 16 then hexMarkOf text else []

theorem signOf_append (text : List Char) : (signOf text).text ++ (splitSign text).2 = text := by
  unfold signOf splitSign
  split <;> simp_all [Sign.text]

theorem hexMarkOf_append (text : List Char) : hexMarkOf text ++ dropHexMark text = text := by
  unfold hexMarkOf dropHexMark
  split <;> simp_all

theorem markOf_append (radix : Nat) (text : List Char) :
    markOf radix (splitSign text).2 ++ body radix text = (splitSign text).2 := by
  unfold markOf body
  split_ifs
  · exact hexMarkOf_append _
  · rfl

theorem head?_ne_of_signOf (h : signOf text = .none) : ∀ c ∈ text.head?, c ≠ '+' ∧ c ≠ '-' := by
  cases text with
  | nil => simp
  | cons d rest =>
    rintro c ⟨⟩
    constructor
    · rintro rfl
      cases h
    · rintro rfl
      cases h

theorem isInnerMark_markOf (radix : Nat) (text : List Char) :
    IsInnerMark radix (markOf radix text) := by
  unfold markOf
  split_ifs with hradix
  · unfold hexMarkOf
    split
    · exact .inr ⟨hradix, by decide⟩
    · exact .inr ⟨hradix, by decide⟩
    · exact .inl rfl
  · exact .inl rfl

theorem not_isPrefix_of_hexMarkOf (h : hexMarkOf text = []) :
    ∀ mark ∈ hexMarks, ¬mark <+: text := by
  rintro mark hmark ⟨rest, rfl⟩
  rcases mem_hexMarks.1 hmark with rfl | rfl <;> cases h

/-- **Every text has parts**: they are what a scan goes over. -/
def of (radix : Nat) (text : List Char) : Parts radix text where
  sign := signOf text
  mark := markOf radix (splitSign text).2
  digits := (body radix text).takeWhile (Text.isDigit radix)
  rest := (body radix text).dropWhile (Text.isDigit radix)
  text_eq := by
    rw [List.takeWhile_append_dropWhile, markOf_append, signOf_append]
  head?_ne := head?_ne_of_signOf
  isInnerMark := isInnerMark_markOf radix _
  not_isPrefix hradix hmark := by
    have hbody := markOf_append radix text
    rw [hmark, List.nil_append] at hbody
    rw [List.takeWhile_append_dropWhile, hbody]
    rw [markOf, if_pos hradix] at hmark
    exact not_isPrefix_of_hexMarkOf hmark
  isDigit c hc := List.mem_takeWhile_imp hc
  head?_isDigit c hc := by
    have hhead := List.head?_dropWhile_not (Text.isDigit radix) (body radix text)
    rwa [hc] at hhead

/-! ## The parts are unique -/

theorem splitSign_eq (parts : Parts radix text) :
    splitSign text = (parts.sign.negates, parts.mark ++ (parts.digits ++ parts.rest)) := by
  cases hsign : parts.sign with
  | none =>
    have htext : text = parts.mark ++ (parts.digits ++ parts.rest) := by
      simpa [hsign, Sign.text] using parts.text_eq
    have hhead := parts.head?_ne hsign
    rw [← htext]
    unfold splitSign
    split
    · exact absurd rfl (hhead '-' rfl).2
    · exact absurd rfl (hhead '+' rfl).1
    · rfl
  | plus | minus =>
    refine (congrArg splitSign parts.text_eq).trans ?_
    rw [hsign]
    rfl

theorem dropHexMark_eq_self (h : ∀ mark ∈ hexMarks, ¬mark <+: text) : dropHexMark text = text := by
  unfold dropHexMark
  split
  · exact absurd ⟨_, rfl⟩ (h ['0', 'x'] (by decide))
  · exact absurd ⟨_, rfl⟩ (h ['0', 'X'] (by decide))
  · rfl

theorem body_eq (parts : Parts radix text) : body radix text = parts.digits ++ parts.rest := by
  rw [body, parts.splitSign_eq]
  split_ifs with hradix
  · rcases parts.isInnerMark with hmark | ⟨-, hmark⟩
    · rw [hmark, List.nil_append]
      exact dropHexMark_eq_self (parts.not_isPrefix hradix hmark)
    · exact dropHexMark_append hmark _
  · have hmark : parts.mark = [] := by simpa [IsInnerMark, hradix] using parts.isInnerMark
    rw [hmark, List.nil_append]

theorem takeWhile_body (parts : Parts radix text) :
    (body radix text).takeWhile (Text.isDigit radix) = parts.digits := by
  have hrest : parts.rest.takeWhile (Text.isDigit radix) = [] := by
    cases hr : parts.rest with
    | nil => rfl
    | cons c rest =>
      have hc := parts.head?_isDigit c (by simp [hr])
      simp [hc]
  rw [parts.body_eq, List.takeWhile_append_of_pos parts.isDigit, hrest, List.append_nil]

/-- **A text has no other parts.** -/
instance : Subsingleton (Parts radix text) where
  allEq parts parts' := by
    -- The digits are the longest run of the body; every other part is what is left beside them.
    have hdigits : parts.digits = parts'.digits := by
      rw [← parts.takeWhile_body, parts'.takeWhile_body]
    have hrest : parts.rest = parts'.rest := by
      have hbody := parts.body_eq.symm.trans parts'.body_eq
      rwa [hdigits, List.append_cancel_left_eq] at hbody
    have hmark : parts.mark = parts'.mark := by
      have hsplit := congrArg Prod.snd (parts.splitSign_eq.symm.trans parts'.splitSign_eq)
      rwa [hdigits, hrest, List.append_cancel_right_eq] at hsplit
    have hsign : parts.sign = parts'.sign := by
      have htext := parts.text_eq.symm.trans parts'.text_eq
      rw [hdigits, hrest, hmark, List.append_cancel_right_eq] at htext
      exact Sign.text_injective htext
    cases parts
    cases parts'
    simp_all

/-! ## Scanning -/

/-- **A scan finds the integer of the parts** modulo 2^64, unless there are no digits, and says
whether there is a rest. -/
theorem scan_eq (parts : Parts radix text) :
    scan radix text =
      if parts.digits = [] then none
      else some ⟨BitVec.ofInt 64 parts.integer, parts.rest.isEmpty⟩ := by
  have hlength : (parts.digits.length == (parts.digits ++ parts.rest).length) =
      parts.rest.isEmpty := by
    cases parts.rest <;> simp
  simp only [scan, parts.takeWhile_body, parts.splitSign_eq, List.isEmpty_iff]
  rw [parts.body_eq, hlength, accumulate_eq_ofNat, integer, Sign.ofInt_apply]

theorem integer_of_digits_eq_nil {parts : Parts radix text} (h : parts.digits = []) :
    parts.integer = 0 := by
  rw [integer, h]
  cases parts.sign <;> rfl

end Parts

/-- The integer that a text starts with in a radix; 0 if it starts with none. -/
def leading (radix : Nat) (text : List Char) : Int :=
  (Parts.of radix text).integer

/-- **A scan reads the leading integer** modulo 2^64. -/
theorem scan_getD (radix : Nat) (text : List Char) :
    ((scan radix text).map (·.value)).getD 0 = BitVec.ofInt 64 (leading radix text) := by
  rw [(Parts.of radix text).scan_eq, leading]
  split_ifs with hdigits
  · rw [Parts.integer_of_digits_eq_nil hdigits]
    rfl
  · rfl

/-! ## Tokens -/

/-- The integer of a token: the leading one in the base that it selects. -/
def integer (token : List Char) : Int :=
  leading (selectBase (clean token)).1 (selectBase (clean token)).2

theorem integer_eq {token text : List Char} {radix : Nat} (parts : Parts radix text)
    (h : selectBase (clean token) = (radix, text)) : integer token = parts.integer := by
  rw [integer, h, leading, Subsingleton.elim (Parts.of radix text) parts]

/-- **A token is read as its integer** modulo 2^64. -/
theorem value?_getD (token : List Char) :
    (value? token).getD 0 = BitVec.ofInt 64 (integer token) := by
  unfold value? read integer
  by_cases hclean : clean token = []
  · rw [hclean]
    decide
  · simp only [List.isEmpty_iff, if_neg hclean]
    exact scan_getD _ _

/-- The digits end where the base does. -/
example : integer "-0x12h,".toList = -18 ∧ integer "0b1201".toList = 1 ∧
    integer "x1".toList = 0 := by
  decide

end Midrange.Literal
