import Mathlib.Algebra.Group.Nat.Defs
import Midrange.Proofs.Literal.Numeral

/-!
# The grammar of literals

Which texts are literals from end to end, and which integers they denote. A literal is an optionally
signed run of digits under one of four notations; the notation is chosen by what the text starts and
ends with, so `0b1h` is no literal while `+0b1h` is the hexadecimal one.

* `Sign`: the optional sign in front of digits. `exists_sign_mark` takes any text apart.
* `SignedNumeral radix z text`: the texts of the integer `z` in one radix. `scan_complete_iff` says
  that these are the texts which are scanned to their end.
* `Denotes z text`: the literals of `z`. `denotes_iff` reduces them to the base that is selected.
* `exact_iff_denotes`: an exact literal is one of the grammar, with the value that it denotes.
-/

namespace Midrange.Literal

/-! ## Signs and marks -/

/-- The sign in front of digits. -/
inductive Sign where
  | none
  | plus
  | minus
  deriving DecidableEq, Repr

namespace Sign

/-- How a sign is written. -/
def text : Sign → List Char
  | none => []
  | plus => ['+']
  | minus => ['-']

/-- The integer that a sign makes of a number. -/
def apply : Sign → Nat → Int
  | minus, n => -n
  | _, n => n

/-- Whether a sign is the minus. -/
def negates : Sign → Bool
  | minus => true
  | _ => false

theorem ofInt_apply (sign : Sign) (n : Nat) :
    BitVec.ofInt 64 (sign.apply n) =
      if sign.negates then -BitVec.ofNat 64 n else BitVec.ofNat 64 n := by
  cases sign <;> simp [apply, negates, BitVec.ofInt_neg]

/-- A text with a sign is split behind the sign. -/
theorem splitSign_append (sign : Sign) {rest : List Char} (hminus : '-' ∉ rest)
    (hplus : '+' ∉ rest) : splitSign (sign.text ++ rest) = (sign.negates, rest) := by
  cases sign with
  | none => exact splitSign_of_not_mem hminus hplus
  | plus | minus => rfl

/-- What is split off a text is a sign. -/
theorem exists_splitSign (text : List Char) :
    ∃ sign : Sign, text = sign.text ++ (splitSign text).2 ∧ (splitSign text).1 = sign.negates := by
  unfold splitSign
  split
  · exact ⟨minus, rfl, rfl⟩
  · exact ⟨plus, rfl, rfl⟩
  · exact ⟨none, rfl, rfl⟩

end Sign

/-- What a hexadecimal literal may start with. -/
def hexMarks : List (List Char) :=
  [['0', 'x'], ['0', 'X']]

/-- What a binary literal starts with. -/
def binaryMarks : List (List Char) :=
  [['0', 'b'], ['0', 'B']]

theorem mem_hexMarks {mark : List Char} :
    mark ∈ hexMarks ↔ mark = ['0', 'x'] ∨ mark = ['0', 'X'] := by
  simp [hexMarks]

theorem mem_binaryMarks {mark : List Char} :
    mark ∈ binaryMarks ↔ mark = ['0', 'b'] ∨ mark = ['0', 'B'] := by
  simp [binaryMarks]

theorem exists_letter_of_mem_marks {mark : List Char} (h : mark ∈ hexMarks ++ binaryMarks) :
    ∃ c ∈ mark, 10 ≤ Text.digitValue c ∧ c ≠ '+' ∧ c ≠ '-' := by
  rcases List.mem_append.1 h with h | h
  · rcases mem_hexMarks.1 h with rfl | rfl
    · exact ⟨'x', by simp, by decide⟩
    · exact ⟨'X', by simp, by decide⟩
  · rcases mem_binaryMarks.1 h with rfl | rfl
    · exact ⟨'b', by simp, by decide⟩
    · exact ⟨'B', by simp, by decide⟩

theorem dropHexMark_append {mark : List Char} (h : mark ∈ hexMarks) (rest : List Char) :
    dropHexMark (mark ++ rest) = rest := by
  rcases mem_hexMarks.1 h with rfl | rfl <;> rfl

theorem exists_dropHexMark (text : List Char) :
    ∃ mark, text = mark ++ dropHexMark text ∧ (mark = [] ∨ mark ∈ hexMarks) := by
  unfold dropHexMark
  split
  · exact ⟨['0', 'x'], rfl, .inr (by decide)⟩
  · exact ⟨['0', 'X'], rfl, .inr (by decide)⟩
  · exact ⟨[], rfl, .inl rfl⟩

/-- What may stand between the sign and the digits: in base 16 a mark, and else nothing. -/
def IsInnerMark (radix : Nat) (mark : List Char) : Prop :=
  mark = [] ∨ radix = 16 ∧ mark ∈ hexMarks

theorem IsInnerMark.not_mem {radix : Nat} {mark : List Char} (h : IsInnerMark radix mark) :
    '-' ∉ mark ∧ '+' ∉ mark := by
  rcases h with rfl | ⟨-, h⟩
  · simp
  · rcases mem_hexMarks.1 h with rfl | rfl <;> decide

/-- **A text is a sign, a mark and what is left of it for digits.** -/
theorem exists_sign_mark (radix : Nat) (text : List Char) :
    ∃ (sign : Sign) (mark : List Char), IsInnerMark radix mark ∧
      (splitSign text).1 = sign.negates ∧ text = sign.text ++ (mark ++ body radix text) := by
  obtain ⟨sign, htext, hsign⟩ := Sign.exists_splitSign text
  obtain ⟨mark, hbody, hmark⟩ : ∃ mark, (splitSign text).2 = mark ++ body radix text ∧
      IsInnerMark radix mark := by
    unfold body
    split_ifs with hradix
    · obtain ⟨mark, hbody, hmark⟩ := exists_dropHexMark (splitSign text).2
      exact ⟨mark, hbody, hmark.imp_right fun hmark => ⟨hradix, hmark⟩⟩
    · exact ⟨[], rfl, .inl rfl⟩
  refine ⟨sign, mark, hmark, hsign, ?_⟩
  rw [← hbody]
  exact htext

/-! ## Signed numerals -/

/-- The texts of an integer in a radix: a sign, in base 16 a mark if there is one, and digits. -/
inductive SignedNumeral (radix : Nat) : Int → List Char → Prop where
  | mk (sign : Sign) {mark digits : List Char} {n : Nat} (hmark : IsInnerMark radix mark)
      (h : IsNumeral radix n digits) :
      SignedNumeral radix (sign.apply n) (sign.text ++ (mark ++ digits))

section SignedDigits

variable {radix n : Nat} {mark digits : List Char} (h : IsNumeral radix n digits)
  (hr : radix ≤ 16) (hmark : IsInnerMark radix mark) (sign : Sign)

include h hr hmark

theorem splitSign_signed :
    splitSign (sign.text ++ (mark ++ digits)) = (sign.negates, mark ++ digits) := by
  have hdigits : '-' ∉ digits ∧ '+' ∉ digits :=
    ⟨h.not_mem (hr.trans (by decide)), h.not_mem (hr.trans (by decide))⟩
  apply sign.splitSign_append
  · simp [hdigits, hmark.not_mem]
  · simp [hdigits, hmark.not_mem]

theorem body_signed : body radix (sign.text ++ (mark ++ digits)) = digits := by
  rw [body, splitSign_signed h hr hmark sign]
  rcases hmark with rfl | ⟨hradix, hmark⟩
  · -- The `x` of a further mark is no digit, so nothing is dropped.
    have hdrop : dropHexMark digits = digits :=
      dropHexMark_of_not_mem (h.not_mem (hr.trans (by decide))) (h.not_mem (hr.trans (by decide)))
    simp [hdrop]
  · rw [if_pos hradix, dropHexMark_append hmark]

end SignedDigits

/-- **A signed numeral is scanned to its end.** -/
theorem SignedNumeral.scan_eq {radix : Nat} {z : Int} {text : List Char}
    (h : SignedNumeral radix z text) (hr : radix ≤ 16) :
    scan radix text = some ⟨BitVec.ofInt 64 z, true⟩ := by
  cases h with
  | @mk sign mark digits n hmark h =>
    have hrun : digits.takeWhile (Text.isDigit radix) = digits :=
      List.takeWhile_eq_self_iff.2 h.isDigit
    simp [scan, splitSign_signed h hr hmark, body_signed h hr hmark, hrun, h.ne_nil,
      accumulate_eq_ofNat, h.value, sign.ofInt_apply]

/-- **A text that is scanned to its end is a signed numeral.** -/
theorem signedNumeral_of_scan {radix : Nat} {text : List Char} {value : Value}
    (h : scan radix text = some ⟨value, true⟩) :
    ∃ z, SignedNumeral radix z text ∧ value = BitVec.ofInt 64 z := by
  simp only [scan] at h
  by_cases hrun : ((body radix text).takeWhile (Text.isDigit radix)).isEmpty = true
  · simp [hrun] at h
  · simp only [if_neg hrun, Option.some.injEq, Reading.mk.injEq, beq_iff_eq] at h
    obtain ⟨hvalue, hlength⟩ := h
    -- Nothing stands behind the run: it is all that follows the sign and the mark.
    have hself : (body radix text).takeWhile (Text.isDigit radix) = body radix text :=
      (List.takeWhile_prefix _).eq_of_length hlength
    have hnumeral : IsNumeral radix (positional radix (body radix text)) (body radix text) := by
      refine ⟨?_, List.takeWhile_eq_self_iff.1 hself, rfl⟩
      rwa [hself, List.isEmpty_iff] at hrun
    obtain ⟨sign, mark, hmark, hsign, htext⟩ := exists_sign_mark radix text
    refine ⟨sign.apply (positional radix (body radix text)), ?_, ?_⟩
    · have hsigned := SignedNumeral.mk sign hmark hnumeral
      rwa [← htext] at hsigned
    · rw [sign.ofInt_apply, ← hvalue, hself, hsign, accumulate_eq_ofNat]

theorem scan_complete_iff {radix : Nat} (hr : radix ≤ 16) {text : List Char} {value : Value} :
    scan radix text = some ⟨value, true⟩ ↔
      ∃ z, SignedNumeral radix z text ∧ value = BitVec.ofInt 64 z := by
  refine ⟨signedNumeral_of_scan, ?_⟩
  rintro ⟨z, hz, rfl⟩
  exact hz.scan_eq hr

/-! ## Literals -/

/-- Whether a text starts with none of the marks of the hexadecimal and binary notations. -/
def IsUnmarked (text : List Char) : Prop :=
  ∀ mark ∈ hexMarks ++ binaryMarks, ¬mark <+: text

instance (text : List Char) : Decidable (IsUnmarked text) :=
  inferInstanceAs (Decidable (∀ mark ∈ hexMarks ++ binaryMarks, ¬mark <+: text))

/-- The literals, with the integers that they denote. -/
inductive Denotes : Int → List Char → Prop where
  /-- Nothing at all denotes 0. -/
  | empty : Denotes 0 []
  /-- Hexadecimal, behind `0x`. -/
  | hex {mark text : List Char} {z : Int} (hmark : mark ∈ hexMarks)
      (h : SignedNumeral 16 z text) : Denotes z (mark ++ text)
  /-- Binary, behind `0b`. -/
  | binary {mark text : List Char} {z : Int} (hmark : mark ∈ binaryMarks)
      (h : SignedNumeral 2 z text) : Denotes z (mark ++ text)
  /-- Hexadecimal, in front of `h`. -/
  | suffixed {mark : Char} {text : List Char} {z : Int} (hmark : mark = 'h' ∨ mark = 'H')
      (h : SignedNumeral 16 z text) (hfree : IsUnmarked (text ++ [mark])) :
      Denotes z (text ++ [mark])
  /-- Decimal. -/
  | decimal {text : List Char} {z : Int} (h : SignedNumeral 10 z text) : Denotes z text

theorem selectBase_of_isUnmarked {text : List Char} (h : IsUnmarked text) :
    selectBase text = if endsInHexMark text then (16, text.dropLast) else (10, text) := by
  unfold selectBase
  split
  · exact absurd ⟨_, rfl⟩ (h ['0', 'x'] (by decide))
  · exact absurd ⟨_, rfl⟩ (h ['0', 'X'] (by decide))
  · exact absurd ⟨_, rfl⟩ (h ['0', 'b'] (by decide))
  · exact absurd ⟨_, rfl⟩ (h ['0', 'B'] (by decide))
  · rfl

theorem endsInHexMark_iff {text : List Char} : endsInHexMark text = true ↔
    ∃ mark, (mark = 'h' ∨ mark = 'H') ∧ text = text.dropLast ++ [mark] := by
  constructor
  · intro h
    simp only [endsInHexMark, Bool.or_eq_true, beq_iff_eq] at h
    rcases h with h | h
    · exact ⟨'h', .inl rfl, (List.dropLast_append_getLast? _ h).symm⟩
    · exact ⟨'H', .inr rfl, (List.dropLast_append_getLast? _ h).symm⟩
  · rintro ⟨mark, hmark, htext⟩
    rw [htext]
    rcases hmark with rfl | rfl <;> simp [endsInHexMark]

/-- A decimal numeral holds decimal digits and a sign, and so no mark. -/
theorem SignedNumeral.not_mem {z : Int} {text : List Char} (h : SignedNumeral 10 z text) {c : Char}
    (hc : 10 ≤ Text.digitValue c) (hsign : c ≠ '+' ∧ c ≠ '-') : c ∉ text := by
  cases h with
  | @mk sign mark digits n hmark h =>
    obtain rfl : mark = [] := by simpa [IsInnerMark] using hmark
    have hdigits : c ∉ digits := h.not_mem hc
    cases sign <;> simp [Sign.text, hdigits, hsign]

theorem SignedNumeral.selectBase_eq {z : Int} {text : List Char} (h : SignedNumeral 10 z text) :
    selectBase text = (10, text) := by
  have hfree : IsUnmarked text := by
    intro mark hmark hstart
    obtain ⟨c, hc, hletter, hsign⟩ := exists_letter_of_mem_marks hmark
    exact h.not_mem hletter hsign (hstart.subset hc)
  have hends : ¬endsInHexMark text = true := by
    rw [endsInHexMark_iff]
    rintro ⟨mark, hmark, htext⟩
    have hmem : mark ∈ text := by
      rw [htext]
      simp
    rcases hmark with rfl | rfl
    · exact h.not_mem (by decide) (by decide) hmem
    · exact h.not_mem (by decide) (by decide) hmem
  rw [selectBase_of_isUnmarked hfree, if_neg hends]

/-- The base of a literal is selected as its notation says. -/
theorem Denotes.signedNumeral {z : Int} {text : List Char} (h : Denotes z text)
    (hne : text ≠ []) : SignedNumeral (selectBase text).1 z (selectBase text).2 := by
  cases h with
  | empty => exact absurd rfl hne
  | @hex mark text _ hmark h =>
    rcases mem_hexMarks.1 hmark with rfl | rfl <;> exact h
  | @binary mark text _ hmark h =>
    rcases mem_binaryMarks.1 hmark with rfl | rfl <;> exact h
  | @suffixed mark text _ hmark h hfree =>
    have hends : endsInHexMark (text ++ [mark]) = true :=
      endsInHexMark_iff.2 ⟨mark, hmark, by simp⟩
    rw [selectBase_of_isUnmarked hfree, if_pos hends, List.dropLast_concat]
    exact h
  | decimal h =>
    rw [h.selectBase_eq]
    exact h

/-- A signed numeral of the base that a text selects makes the text a literal. -/
theorem denotes_of_selectBase {z : Int} {text : List Char}
    (h : SignedNumeral (selectBase text).1 z (selectBase text).2) : Denotes z text := by
  by_cases hfree : IsUnmarked text
  · rw [selectBase_of_isUnmarked hfree] at h
    split_ifs at h with hends
    · obtain ⟨mark, hmark, htext⟩ := endsInHexMark_iff.1 hends
      rw [htext] at hfree ⊢
      exact .suffixed hmark h hfree
    · exact .decimal h
  · simp only [IsUnmarked, not_forall, not_not] at hfree
    obtain ⟨mark, hmark, rest, rfl⟩ := hfree
    rcases List.mem_append.1 hmark with hmark | hmark
    · refine .hex hmark ?_
      rcases mem_hexMarks.1 hmark with rfl | rfl <;> exact h
    · refine .binary hmark ?_
      rcases mem_binaryMarks.1 hmark with rfl | rfl <;> exact h

theorem denotes_iff {z : Int} {text : List Char} (hne : text ≠ []) :
    Denotes z text ↔ SignedNumeral (selectBase text).1 z (selectBase text).2 :=
  ⟨fun h => h.signedNumeral hne, denotes_of_selectBase⟩

theorem SignedNumeral.ne_nil {radix : Nat} {z : Int} {text : List Char}
    (h : SignedNumeral radix z text) : text ≠ [] := by
  cases h with
  | mk sign hmark h => simp [h.ne_nil]

theorem denotes_nil_iff {z : Int} : Denotes z [] ↔ z = 0 := by
  constructor
  · intro h
    generalize htext : ([] : List Char) = text at h
    cases h with
    | empty => rfl
    | hex hmark h | binary hmark h => exact absurd (List.append_eq_nil_iff.1 htext.symm).2 h.ne_nil
    | suffixed hmark h hfree => simp at htext
    | decimal h => exact absurd htext.symm h.ne_nil
  · rintro rfl
    exact .empty

/-! ## Reading a literal -/

/-- The bases that a text can select. -/
theorem selectBase_le (text : List Char) : (selectBase text).1 ≤ 16 := by
  unfold selectBase
  split
  · simp
  · simp
  · simp
  · simp
  · split_ifs <;> simp

/-- **A token is read completely just if it is a literal**, as the integer that it denotes. -/
theorem read_complete_iff {token : List Char} {value : Value} :
    read token = some ⟨value, true⟩ ↔
      ∃ z, Denotes z (clean token) ∧ value = BitVec.ofInt 64 z := by
  unfold read
  by_cases hne : clean token = []
  · simp only [hne, List.isEmpty_nil, if_true, Option.some.injEq, Reading.mk.injEq, and_true,
      denotes_nil_iff, exists_eq_left]
    exact eq_comm
  · simp only [List.isEmpty_iff, if_neg hne, denotes_iff hne]
    exact scan_complete_iff (selectBase_le _)

theorem exact_eq_ok_iff {token : List Char} {value : Value} :
    exact token = .ok value ↔ read token = some ⟨value, true⟩ := by
  unfold exact
  split
  · rename_i hread
    simp [hread]
  · rename_i hread
    simp only [reduceCtorEq, false_iff]
    exact hread value

theorem exact_eq_error {token : List Char} (h : ¬∃ value, exact token = .ok value) :
    exact token = .error (.invalidLiteral (clean token)) := by
  unfold exact at h ⊢
  split
  · rename_i hread
    simp [hread] at h
  · rfl

/-- **Exact literals are those of the grammar.** A token is exact with a value just if it is, when
cleaned, a literal of an integer that the value represents in two's complement, and it is refused
under its cleaned text otherwise. An exact literal has the same value when it is read leniently. -/
theorem exact_iff_denotes (token : List Char) :
    (∀ value, exact token = .ok value ↔
      ∃ z, Denotes z (clean token) ∧ value.toInt = z.bmod (2 ^ 64)) ∧
    ((¬∃ z, Denotes z (clean token)) ↔ exact token = .error (.invalidLiteral (clean token))) ∧
    ∀ value, exact token = .ok value → value? token = some value := by
  have hok : ∀ value, exact token = .ok value ↔
      ∃ z, Denotes z (clean token) ∧ value.toInt = z.bmod (2 ^ 64) := by
    intro value
    rw [exact_eq_ok_iff, read_complete_iff]
    simp only [← BitVec.toInt_inj, BitVec.toInt_ofInt]
  refine ⟨hok, ⟨fun h => exact_eq_error ?_, ?_⟩, fun value => value?_of_exact⟩
  · rintro ⟨value, hvalue⟩
    obtain ⟨z, hz, -⟩ := (hok value).1 hvalue
    exact h ⟨z, hz⟩
  · rintro herror ⟨z, hz⟩
    have hvalue := (hok (BitVec.ofInt 64 z)).2 ⟨z, hz, BitVec.toInt_ofInt ..⟩
    simp [herror] at hvalue

/-- A negative number with both a second mark and the suffix. -/
theorem exact_iff_denotes_negative :
    Denotes (-16) (clean "-0x10h,".toList) ∧ exact "-0x10h,".toList = .ok (-16) ∧
      value? "-0x10h,".toList = some (-16) := by
  have hclean : clean "-0x10h,".toList =
      Sign.minus.text ++ (['0', 'x'] ++ ['1', '0']) ++ ['h'] := by decide
  have hnumeral : SignedNumeral 16 (-16) (Sign.minus.text ++ (['0', 'x'] ++ ['1', '0'])) :=
    .mk .minus (.inr ⟨rfl, by decide⟩) (by decide : IsNumeral 16 16 ['1', '0'])
  have hdenotes : Denotes (-16) (clean "-0x10h,".toList) := by
    rw [hclean]
    exact .suffixed (.inl rfl) hnumeral (by decide)
  have hexact := ((exact_iff_denotes "-0x10h,".toList).1 (-16)).2 ⟨-16, hdenotes, by decide⟩
  exact ⟨hdenotes, hexact, (exact_iff_denotes _).2.2 _ hexact⟩

/-- How a text starts decides about its notation before its end does. -/
example : exact "+0b1h,".toList = .ok 0xB1 ∧
    exact "0b1h,".toList = .error (.invalidLiteral "0b1h".toList) := by
  decide

end Midrange.Literal
