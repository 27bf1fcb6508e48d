import Midrange.Proofs.Json.Decode

/-!
# Reading past JSON values

A reader of a JSON text goes on behind a value of any kind and depth where the value ends. The names
of members are read character by character, and every other string is skipped.

* `Characters.skipString_eq`, `Characters.readString_eq`: strings. A name is read if its code units
  are those of a text, that is if no surrogate stands alone.
* `Number.exists_skipNumber`: numbers, behind their sign.
* `Writes.skips`: every piece of the grammar is skipped, by induction over the grammar.
* `Writes.skip_eq`: a value with the blanks around it.
-/

namespace Midrange.Json

/-! ## Strings -/

theorem unescape?_of_mem_escapes :
    ∀ entry ∈ escapes, entry.1 ≠ 'u' ∧ unescape? entry.1 = some entry.2 := by
  decide

theorem hex_of_isNumeral {n : Nat} {a b c d : Char} (h : Literal.IsNumeral 16 n [a, b, c, d]) :
    areHex a b c d = true ∧ hexValue a b c d = n :=
  ⟨List.all_eq_true.2 h.isDigit, h.value⟩

/-- **A string is skipped up to its closing quote.** -/
theorem Characters.skipString_eq {us : List Nat} {text : List Char} (h : Characters us text)
    (rest : List Char) : skipString (text ++ '"' :: rest) = .ok rest := by
  induction h with
  | nil => simp [skipString]
  | @plain c us text hcontrol hquote hbackslash h ih =>
    simp [skipString, hbackslash, Nat.not_lt.2 hcontrol, ih]
  | @escape letter c us text hescape h ih =>
    obtain ⟨hu, hletter⟩ := unescape?_of_mem_escapes _ hescape
    simp [skipString, hletter, ih]
  | @hex a b c d n us text hdigits h ih =>
    simp [skipString, (hex_of_isNumeral hdigits).1, ih]

/-- The code units of a character: a single one that is no surrogate, or a pair of surrogates. -/
theorem utf16_cases (c : Char) :
    (utf16 c = [c.toNat] ∧ isLeading c.toNat = false ∧ isTrailing c.toNat = false) ∨
      ∃ leading trailing, utf16 c = [leading, trailing] ∧ isLeading leading = true ∧
        isTrailing trailing = true ∧ pairedChar leading trailing = c := by
  have hc := c.valid
  simp only [UInt32.isValidChar, Nat.isValidChar] at hc
  change c.toNat < _ ∨ _ < c.toNat ∧ c.toNat < _ at hc
  unfold utf16
  split_ifs with hsmall
  · refine .inl ⟨rfl, ?_⟩
    simp only [isLeading, isTrailing, Bool.and_eq_false_iff, decide_eq_false_iff_not]
    omega
  · refine .inr ⟨_, _, rfl, ?_, ?_, ?_⟩
    · simp only [isLeading, Bool.and_eq_true, decide_eq_true_eq]
      omega
    · simp only [isTrailing, Bool.and_eq_true, decide_eq_true_eq]
      omega
    · have hsum : 0x10000 + (0xD800 + (c.toNat - 0x10000) / 0x400 - 0xD800) * 0x400 +
          (0xDC00 + (c.toNat - 0x10000) % 0x400 - 0xDC00) = c.toNat := by omega
      rw [pairedChar, hsum, Char.ofNat_toNat]

theorem exists_of_utf16_append_eq {c : Char} {us : List Nat} {name : List Char}
    (h : utf16 c ++ us = units name) : ∃ rest, name = c :: rest ∧ us = units rest := by
  cases name with
  | nil => exact absurd (List.append_eq_nil_iff.1 h).1 (utf16_ne_nil c)
  | cons d rest =>
    obtain ⟨rfl, hrest⟩ := utf16_append_inj h
    exact ⟨rest, rfl, hrest⟩

/-- A trailing surrogate without the leading one before it is an escape. -/
theorem Characters.exists_trailing {unit : Nat} {us : List Nat} {text : List Char}
    (h : Characters (unit :: us) text) (hunit : isTrailing unit = true) :
    ∃ a b c d rest, text = '\\' :: 'u' :: a :: b :: c :: d :: rest ∧
      Literal.IsNumeral 16 unit [a, b, c, d] ∧ Characters us rest := by
  generalize hunits : unit :: us = all at h
  cases h with
  | nil => cases hunits
  | @plain c us' text hcontrol hquote hbackslash h =>
    exfalso
    rcases utf16_cases c with ⟨hc, -, htrailing⟩ | ⟨leading, trailing, hc, hleading, -⟩
    · obtain ⟨rfl, -⟩ := List.cons.inj (hunits.trans (congrArg (· ++ us') hc))
      simp [htrailing] at hunit
    · obtain ⟨rfl, -⟩ := List.cons.inj (hunits.trans (congrArg (· ++ us') hc))
      simp only [isLeading, isTrailing, Bool.and_eq_true, decide_eq_true_eq] at hleading hunit
      omega
  | @escape letter c us' text hescape h =>
    have hsmall : ∀ entry ∈ escapes, isTrailing entry.2.toNat = false := by decide
    obtain ⟨rfl, -⟩ := List.cons.inj hunits
    simp [hsmall _ hescape] at hunit
  | @hex a b c d n us' text hdigits h =>
    obtain ⟨rfl, rfl⟩ := List.cons.inj hunits
    exact ⟨a, b, c, d, text, rfl, hdigits, h⟩

theorem readString_hex {n : Nat} {a b c d : Char} (h : Literal.IsNumeral 16 n [a, b, c, d])
    (hleading : isLeading n = false) (htrailing : isTrailing n = false) (rest : List Char) :
    readString ('\\' :: 'u' :: a :: b :: c :: d :: rest) =
      consRead (Char.ofNat n) (readString rest) := by
  obtain ⟨hhex, hvalue⟩ := hex_of_isNumeral h
  rw [readString.eq_def]
  simp [hhex, hvalue, hleading, htrailing]

theorem readString_pair {leading trailing : Nat} {a b c d e f g h : Char}
    (hfirst : Literal.IsNumeral 16 leading [a, b, c, d]) (hleading : isLeading leading = true)
    (hsecond : Literal.IsNumeral 16 trailing [e, f, g, h]) (htrailing : isTrailing trailing = true)
    (rest : List Char) :
    readString ('\\' :: 'u' :: a :: b :: c :: d :: '\\' :: 'u' :: e :: f :: g :: h :: rest) =
      consRead (pairedChar leading trailing) (readString rest) := by
  obtain ⟨hhex, hvalue⟩ := hex_of_isNumeral hfirst
  obtain ⟨hhex', hvalue'⟩ := hex_of_isNumeral hsecond
  have hnot : isTrailing leading = false := by
    simp only [isLeading, isTrailing, Bool.and_eq_true, Bool.and_eq_false_iff, decide_eq_true_eq,
      decide_eq_false_iff_not] at hleading ⊢
    omega
  simp [readString, hhex, hvalue, hleading, hnot, hhex', hvalue', htrailing]

/-- **A string without lone surrogates is read to its characters.** -/
theorem Characters.readString_eq {name text : List Char} (h : Characters (units name) text)
    (rest : List Char) : readString (text ++ '"' :: rest) = .ok (name, rest) := by
  -- A pair of escapes is one character, so the induction is on the length of the text.
  induction hlength : text.length using Nat.strongRecOn generalizing name text with
  | ind length ih =>
    generalize hunits : units name = us at h
    cases h with
    | nil =>
      obtain rfl : name = [] := units_injective hunits
      simp [readString]
    | @plain c us text hcontrol hquote hbackslash h =>
      obtain ⟨name, rfl, rfl⟩ := exists_of_utf16_append_eq hunits.symm
      have hread := ih text.length (by simp at hlength; omega) h rfl
      simp [readString, hbackslash, Nat.not_lt.2 hcontrol, hread, consRead, Except.map]
    | @escape letter c us text hescape h =>
      have hsmall : ∀ entry ∈ escapes, utf16 entry.2 = [entry.2.toNat] := by decide
      have hutf16 : utf16 c ++ us = units name := by
        rw [hsmall _ hescape, hunits, List.singleton_append]
      obtain ⟨name, rfl, rfl⟩ := exists_of_utf16_append_eq hutf16
      obtain ⟨hu, hletter⟩ := unescape?_of_mem_escapes _ hescape
      have hread := ih text.length (by simp at hlength; omega) h rfl
      simp [readString, hletter, hread, consRead, Except.map]
    | @hex a b c d n us text hdigits h =>
      obtain ⟨first, name, rfl⟩ : ∃ first rest, name = first :: rest :=
        List.exists_cons_of_ne_nil (by rintro rfl; cases hunits)
      have hsplit : utf16 first ++ units name = n :: us := hunits
      rcases utf16_cases first with ⟨hutf16, hleading, htrailing⟩ |
        ⟨leading, trailing, hutf16, hleading, htrailing, hpaired⟩
      · rw [hutf16] at hsplit
        obtain ⟨rfl, rfl⟩ := List.cons.inj hsplit
        have hread := ih text.length (by simp at hlength; omega) h rfl
        simp only [List.cons_append, readString_hex hdigits hleading htrailing, hread,
          Char.ofNat_toNat]
        rfl
      · rw [hutf16] at hsplit
        obtain ⟨rfl, rfl⟩ := List.cons.inj hsplit
        obtain ⟨e, f, g, i, last, rfl, hsecond, h⟩ := h.exists_trailing htrailing
        have hread := ih last.length (by simp at hlength; omega) h rfl
        simp only [List.cons_append, readString_pair hdigits hleading hsecond htrailing, hread,
          hpaired]
        rfl

/-! ## Numbers -/

theorem skipDigits_eq {digits rest : List Char} (hne : digits ≠ [])
    (h : ∀ c ∈ digits, isDecimal c = true) (hrest : startsWithDigit rest = false) :
    skipDigits (digits ++ rest) = .ok rest := by
  have hstarts : startsWithDigit (digits ++ rest) = true := by
    obtain ⟨c, digits, rfl⟩ := List.exists_cons_of_ne_nil hne
    exact h c List.mem_cons_self
  rw [skipDigits, if_pos hstarts, (split_digits h hrest).2]

theorem skipSign_eq (text : List Char) : skipSign text = (Literal.splitSign text).2 := by
  unfold skipSign Literal.splitSign
  split <;> simp_all

theorem Exponent.skipExponent_eq {e : Int} {text rest : List Char} (h : Exponent e text)
    (hrest : Ends rest) : skipExponent (text ++ rest) = .ok rest := by
  cases h with
  | absent =>
    cases rest with
    | nil => rfl
    | cons c rest =>
      obtain ⟨-, -, hlower, hupper⟩ := hrest c rfl
      simp [skipExponent, hlower, hupper]
  | @present mark sign n digits hmark h =>
    have hskip : skipDigits (skipSign (sign.text ++ (digits ++ rest))) = .ok rest := by
      rw [skipSign_eq, splitSign_append_digits sign h.ne_nil h.isDigit,
        skipDigits_eq h.ne_nil h.isDigit hrest.startsWithDigit]
    rcases hmark with rfl | rfl <;> simpa [skipExponent] using hskip

theorem skipFraction_of_head {text : List Char} (h : text.head? ≠ some '.') :
    skipFraction text = skipExponent text := by
  unfold skipFraction
  split
  · simp at h
  · rfl

theorem Fraction.skipFraction_eq {e : Int} {digits text exponent rest : List Char}
    (h : Fraction digits text) (hexponent : Exponent e exponent) (hrest : Ends rest) :
    skipFraction (text ++ (exponent ++ rest)) = .ok rest := by
  obtain ⟨hdigit, hpoint⟩ := hexponent.head hrest
  cases h with
  | absent =>
    rw [List.nil_append, skipFraction_of_head hpoint]
    exact hexponent.skipExponent_eq hrest
  | present hne hdigits =>
    rw [List.cons_append, skipFraction, skipDigits_eq hne hdigits hdigit]
    exact hexponent.skipExponent_eq hrest

/-- The digits before the point are skipped, and a fraction is looked for behind them. -/
theorem IsWhole.skipNumber_eq {whole rest : List Char} (h : IsWhole whole)
    (hrest : startsWithDigit rest = false) : skipNumber (whole ++ rest) = skipFraction rest := by
  obtain ⟨c, tail, rfl⟩ := List.exists_cons_of_ne_nil h.ne_nil
  by_cases hc : c = '0'
  · subst hc
    obtain rfl : tail = [] := by simpa using h.leading rfl
    simp [skipNumber, hrest]
  · have hdigits := skipDigits_eq h.ne_nil h.isDecimal hrest
    rw [List.cons_append] at hdigits ⊢
    unfold skipNumber
    split
    · simp_all
    · rw [hdigits]
      rfl

/-- **A number is skipped behind its sign.** -/
theorem Number.exists_skipNumber {q : ℚ} {text : List Char} (h : Number q text) :
    ∃ magnitude, (text = magnitude ∨ text = '-' :: magnitude) ∧
      (∃ c tail, magnitude = c :: tail ∧ isDecimal c = true) ∧
      ∀ rest, Ends rest → skipNumber (magnitude ++ rest) = .ok rest := by
  obtain @⟨sign, whole, fraction, fractionText, exponentText, exponent, hsign, hwhole, hfraction,
    hexponent⟩ := h
  refine ⟨whole ++ (fractionText ++ exponentText), ?_, ?_, fun rest hrest => ?_⟩
  · cases sign with
    | none => exact .inl rfl
    | plus => exact absurd rfl hsign
    | minus => exact .inr rfl
  · obtain ⟨c, tail, rfl⟩ := List.exists_cons_of_ne_nil hwhole.ne_nil
    exact ⟨c, _, rfl, hwhole.isDecimal c List.mem_cons_self⟩
  · have hdigit := hfraction.startsWithDigit_append (hexponent.head hrest).1
    rw [List.append_assoc, List.append_assoc, hwhole.skipNumber_eq hdigit]
    exact hfraction.skipFraction_eq hexponent hrest

/-! ## Values -/

/-- A text of the phrase is skipped, whatever may follow it. Two steps per character are enough. -/
def Phrase.Skips : Phrase → List Char → Prop
  | .value _, text => ∀ fuel rest, 2 * text.length ≤ fuel → Ends rest →
      skipValue fuel (text ++ rest) = .ok rest
  | .element _, text => ∀ fuel rest, 2 * text.length ≤ fuel → Closes rest →
      ∃ after, skipValue fuel (text ++ rest) = .ok after ∧ skipSpace after = rest
  | .items _, text => ∀ fuel rest, 2 * text.length < fuel →
      skipItems fuel (text ++ ']' :: rest) = .ok rest
  | .members _, text => ∀ fuel rest, 2 * text.length < fuel →
      skipMembers fuel (text ++ '\x7d' :: rest) = .ok rest

theorem skipValue_space {space : List Char} (h : Spaces space) (fuel : Nat) (text : List Char) :
    skipValue fuel (space ++ text) = skipValue fuel text := by
  cases fuel with
  | zero => rfl
  | succ fuel => rw [skipValue, skipValue, skipSpace_append h]

theorem skipValue_number {c : Char} (h : isDecimal c = true) (fuel : Nat) (text : List Char) :
    skipValue (fuel + 1) (c :: text) = skipNumber (c :: text) := by
  have hne : ∀ d ∈ ['n', 't', 'f', '"', '-', '[', '\x7b'], c ≠ d := by
    rintro d hd rfl
    simp only [List.mem_cons, List.not_mem_nil, or_false] at hd
    rcases hd with rfl | rfl | rfl | rfl | rfl | rfl | rfl <;> exact absurd h (by decide)
  simp only [List.forall_mem_cons] at hne
  simp [skipValue, skipSpace_cons (isSpace_of_isDecimal h), hne, h]

theorem skipValue_array {fuel : Nat} {text : List Char}
    (h : ∃ c tail, skipSpace text = c :: tail ∧ c ≠ ']') :
    skipValue (fuel + 1) ('[' :: text) = skipItems fuel text := by
  obtain ⟨c, tail, hskip, hne⟩ := h
  simp [skipValue, skipSpace_cons, isSpace, hskip, hne]

theorem skipValue_object {fuel : Nat} {text : List Char}
    (h : ∃ tail, skipSpace text = '"' :: tail) :
    skipValue (fuel + 1) ('\x7b' :: text) = skipMembers fuel text := by
  obtain ⟨tail, hskip⟩ := h
  simp [skipValue, skipSpace_cons, isSpace, hskip]

theorem skipColon_eq {colon : List Char} (h : Spaces colon) (text : List Char) :
    skipColon (colon ++ ':' :: text) = .ok text := by
  simp [skipColon, skipSpace_append_cons h (c := ':') rfl]

section AfterValue

variable {fuel : Nat} {text after rest : List Char} (h : skipValue fuel text = .ok after)

include h

theorem skipItems_last (hafter : skipSpace after = ']' :: rest) :
    skipItems (fuel + 1) text = .ok rest := by
  simp [skipItems, h, bind, Except.bind, hafter]

theorem skipItems_comma (hafter : skipSpace after = ',' :: rest) :
    skipItems (fuel + 1) text = skipItems fuel rest := by
  simp [skipItems, h, bind, Except.bind, hafter]

variable {us : List Nat} {before name colon : List Char} (hbefore : Spaces before)
  (hname : Characters us name) (hcolon : Spaces colon)

include hbefore hname hcolon

theorem skipMembers_last (hafter : skipSpace after = '\x7d' :: rest) :
    skipMembers (fuel + 1) (before ++ '"' :: (name ++ '"' :: (colon ++ ':' :: text))) =
      .ok rest := by
  simp [skipMembers, skipSpace_append_cons hbefore (c := '"') rfl, hname.skipString_eq,
    skipColon_eq hcolon, h, bind, Except.bind, hafter]

theorem skipMembers_comma (hafter : skipSpace after = ',' :: rest) :
    skipMembers (fuel + 1) (before ++ '"' :: (name ++ '"' :: (colon ++ ':' :: text))) =
      skipMembers fuel rest := by
  simp [skipMembers, skipSpace_append_cons hbefore (c := '"') rfl, hname.skipString_eq,
    skipColon_eq hcolon, h, bind, Except.bind, hafter]

end AfterValue

/-- **Every text of the grammar is skipped.** -/
theorem Writes.skips {phrase : Phrase} {text : List Char} (h : Writes phrase text) :
    phrase.Skips text := by
  induction h with
  | nullWord | trueWord | falseWord =>
    intro fuel rest hfuel hrest
    cases fuel with
    | zero => simp at hfuel
    | succ fuel => simp [skipValue, skipSpace_cons, isSpace, readWord]
  | @number q text h =>
    intro fuel rest hfuel hrest
    obtain ⟨magnitude, htext, ⟨c, tail, hmagnitude, hc⟩, hskip⟩ := h.exists_skipNumber
    cases fuel with
    | zero =>
      rcases htext with rfl | rfl <;> simp [hmagnitude] at hfuel
    | succ fuel =>
      rw [← hskip rest hrest]
      rcases htext with rfl | rfl
      · rw [hmagnitude]
        exact skipValue_number hc fuel (tail ++ rest)
      · simp [skipValue, skipSpace_cons, isSpace]
  | @string us text h =>
    intro fuel rest hfuel hrest
    cases fuel with
    | zero => simp at hfuel
    | succ fuel => simp [skipValue, skipSpace_cons, isSpace, h.skipString_eq]
  | @emptyArray space h =>
    intro fuel rest hfuel hrest
    cases fuel with
    | zero => simp at hfuel
    | succ fuel =>
      have hskip : skipSpace (space ++ ']' :: rest) = ']' :: rest :=
        skipSpace_append_cons h rfl rest
      simp [skipValue, skipSpace_cons, isSpace, hskip]
  | @array items text h ih =>
    intro fuel rest hfuel hrest
    cases fuel with
    | zero => simp at hfuel
    | succ fuel =>
      rw [List.cons_append, List.append_assoc, List.singleton_append,
        skipValue_array (h.skipSpace_items _)]
      exact ih fuel rest (by simp at hfuel; omega)
  | @emptyObject space h =>
    intro fuel rest hfuel hrest
    cases fuel with
    | zero => simp at hfuel
    | succ fuel =>
      have hskip : skipSpace (space ++ '\x7d' :: rest) = '\x7d' :: rest :=
        skipSpace_append_cons h rfl rest
      simp [skipValue, skipSpace_cons, isSpace, hskip]
  | @object members text h ih =>
    intro fuel rest hfuel hrest
    cases fuel with
    | zero => simp at hfuel
    | succ fuel =>
      rw [List.cons_append, List.append_assoc, List.singleton_append,
        skipValue_object (h.skipSpace_members _)]
      exact ih fuel rest (by simp at hfuel; omega)
  | @element value before text after hbefore h hafter ih =>
    intro fuel rest hfuel hrest
    refine ⟨after ++ rest, ?_, ?_⟩
    · rw [List.append_assoc, List.append_assoc, skipValue_space hbefore]
      exact ih fuel (after ++ rest) (by simp at hfuel; omega) (hrest.ends hafter)
    · rw [skipSpace_append hafter, hrest.skipSpace_eq]
  | @lastItem value text h ih =>
    intro fuel rest hfuel
    cases fuel with
    | zero => omega
    | succ fuel =>
      obtain ⟨after, hvalue, hafter⟩ := ih fuel (']' :: rest) (by omega) (closes_cons (by simp) _)
      exact skipItems_last hvalue hafter
  | @item value items text rest' h hrest ih ihrest =>
    intro fuel rest hfuel
    cases fuel with
    | zero => omega
    | succ fuel =>
      simp only [List.length_append, List.length_cons] at hfuel
      obtain ⟨after, hvalue, hafter⟩ :=
        ih fuel (',' :: (rest' ++ ']' :: rest)) (by omega) (closes_cons (by simp) _)
      rw [List.append_assoc, List.cons_append, skipItems_comma hvalue hafter]
      exact ihrest fuel rest (by omega)
  | @lastMember us value before name colon text hbefore hname hcolon h ih =>
    intro fuel rest hfuel
    cases fuel with
    | zero => omega
    | succ fuel =>
      simp only [List.length_append, List.length_cons] at hfuel
      obtain ⟨after, hvalue, hafter⟩ :=
        ih fuel ('\x7d' :: rest) (by omega) (closes_cons (by simp) _)
      have hskip := skipMembers_last hvalue hbefore hname hcolon hafter
      simpa using hskip
  | @member us value members before name colon text rest' hbefore hname hcolon h hrest ih ihrest =>
    intro fuel rest hfuel
    cases fuel with
    | zero => omega
    | succ fuel =>
      simp only [List.length_append, List.length_cons] at hfuel
      obtain ⟨after, hvalue, hafter⟩ :=
        ih fuel (',' :: (rest' ++ '\x7d' :: rest)) (by omega) (closes_cons (by simp) _)
      have hskip := skipMembers_comma hvalue hbefore hname hcolon hafter
      rw [ihrest fuel rest (by omega)] at hskip
      simpa using hskip

/-- **A value is skipped with the blanks around it**, up to what closes it. -/
theorem Writes.skip_eq {value : Value} {text rest : List Char} (h : Writes (.element value) text)
    (hrest : Closes rest) : ∃ after, skip (text ++ rest) = .ok after ∧ skipSpace after = rest :=
  h.skips _ rest (by simp; omega) hrest

end Midrange.Json
