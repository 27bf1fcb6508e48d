import Mathlib.Data.List.TakeWhile
import Midrange.Encoding
import Midrange.Proofs.Text.Word

/-!
# Numerals and how they are read

A number can be written in decimal, in hexadecimal after `0x` or before `h`, and in binary after
`0b`. Every such spelling reads as the number, and completely, so a strict literal takes it too.

* `positional radix digits`: the value of a run of digits, without a bound. `accumulate_eq_ofNat`
  says that a run is read as this value modulo 2^64.
* `IsNumeral radix n digits`: a run of digits with the value `n`. Every number has one
  (`isNumeral_toDigits`), and the four digits of a word are one (`isNumeral_hex`).
* `Spells n text`: the four ways to spell `n`. In front of `h` no leading zero is allowed, because
  `0b1h` starts like a binary number.
* `Spells.read_eq`: a token that is a spelling after cleaning reads as its number.
-/

namespace Midrange.Literal

/-- A complete reading has the value of any reading. -/
theorem value?_of_exact {token : List Char} {value : Value} (h : exact token = .ok value) :
    value? token = some value := by
  unfold exact at h
  unfold value?
  split at h
  · rename_i hread
    simpa [hread] using h
  · simp at h

/-! ## Runs of digits -/

/-- The value of a run of digits. -/
def positional (radix : Nat) (digits : List Char) : Nat :=
  digits.foldl (fun acc c => acc * radix + Text.digitValue c) 0

theorem positional_append_singleton (radix : Nat) (digits : List Char) (c : Char) :
    positional radix (digits ++ [c]) = positional radix digits * radix + Text.digitValue c := by
  simp [positional, List.foldl_append]

/-- **Digits accumulate to their value modulo 2^64.** -/
theorem accumulate_eq_ofNat (radix : Nat) (digits : List Char) :
    accumulate radix digits = BitVec.ofNat 64 (positional radix digits) := by
  -- One digit more is the same step on both sides of `BitVec.ofNat 64`.
  refine List.foldl_hom (BitVec.ofNat 64) fun acc c => ?_
  rw [BitVec.ofNat_add, BitVec.ofNat_mul]

/-- The digits of `n` in a radix, leading zeros allowed. -/
structure IsNumeral (radix n : Nat) (digits : List Char) : Prop where
  ne_nil : digits ≠ []
  isDigit : ∀ c ∈ digits, Text.isDigit radix c = true
  value : positional radix digits = n

theorem isNumeral_iff {radix n : Nat} {digits : List Char} : IsNumeral radix n digits ↔
    digits ≠ [] ∧ digits.all (Text.isDigit radix) = true ∧ positional radix digits = n := by
  rw [List.all_eq_true]
  exact ⟨fun h => ⟨h.ne_nil, h.isDigit, h.value⟩, fun h => ⟨h.1, h.2.1, h.2.2⟩⟩

instance (radix n : Nat) (digits : List Char) : Decidable (IsNumeral radix n digits) :=
  decidable_of_iff _ isNumeral_iff.symm

theorem digitValue_digitChar : ∀ d < 16, Text.digitValue d.digitChar = d := by
  decide

theorem isDigit_digitChar {radix d : Nat} (hd : d < radix) (hr : radix ≤ 16) :
    Text.isDigit radix d.digitChar = true := by
  rw [Text.isDigit, digitValue_digitChar d (by omega)]
  exact decide_eq_true hd

/-- **Every number has a numeral** in each radix from 2 to 16. -/
theorem isNumeral_toDigits {radix : Nat} (h2 : 2 ≤ radix) (h16 : radix ≤ 16) (n : Nat) :
    IsNumeral radix n (Nat.toDigits radix n) := by
  induction n using Nat.strongRecOn with
  | ind n ih =>
    by_cases hn : n < radix
    · rw [Nat.toDigits_of_lt_base hn]
      refine ⟨by simp, ?_, ?_⟩
      · simpa using isDigit_digitChar hn h16
      · simp [positional, digitValue_digitChar n (by omega)]
    · have hlt : n / radix < n := Nat.div_lt_self (by omega) (by omega)
      have hmod : n % radix < radix := Nat.mod_lt _ (by omega)
      obtain ⟨-, hdigit, hvalue⟩ := ih _ hlt
      rw [Nat.toDigits_of_base_le h2 (by omega)]
      refine ⟨by simp, ?_, ?_⟩
      · simp only [List.mem_append, List.mem_singleton]
        rintro c (hc | rfl)
        · exact hdigit c hc
        · exact isDigit_digitChar hmod h16
      · rw [positional_append_singleton, hvalue, digitValue_digitChar _ (by omega)]
        exact Nat.div_add_mod' n radix

/-- The four digits of a word are a numeral in base 16. -/
theorem isNumeral_hex (w : Word) : IsNumeral 16 w.toNat w.hex := by
  have hvalue : ∀ n, Text.digitValue (n % 16).digitChar = n % 16 :=
    fun n => digitValue_digitChar _ (Nat.mod_lt _ (by omega))
  refine ⟨by simp [Word.hex, Word.nibbles], ?_, ?_⟩
  · simp only [Word.hex, Word.nibbles, List.map_cons, List.map_nil, List.mem_cons,
      List.not_mem_nil, or_false]
    rintro c (rfl | rfl | rfl | rfl) <;>
      exact isDigit_digitChar (Nat.mod_lt _ (by omega)) (by omega)
  · have hw := w.isLt
    simp only [Word.hex, Word.nibbles, positional, List.map_cons, List.map_nil, List.foldl_cons,
      List.foldl_nil, hvalue]
    omega

namespace IsNumeral

variable {radix n : Nat} {digits : List Char}

theorem not_mem (h : IsNumeral radix n digits) {c : Char} (hc : radix ≤ Text.digitValue c) :
    c ∉ digits := by
  intro hmem
  have hdigit := h.isDigit c hmem
  rw [Text.isDigit, decide_eq_true_eq] at hdigit
  omega

theorem isWord (h : IsNumeral radix n digits) (hr : radix ≤ 16) : Text.IsWord digits where
  ne_nil := h.ne_nil
  isDigit c hc := Text.isDigit_mono (by omega) (h.isDigit c hc)

end IsNumeral

theorem splitSign_of_not_mem {text : List Char} (hminus : '-' ∉ text) (hplus : '+' ∉ text) :
    splitSign text = (false, text) := by
  unfold splitSign
  split
  · simp at hminus
  · simp at hplus
  · rfl

theorem dropHexMark_of_not_mem {text : List Char} (hx : 'x' ∉ text) (hX : 'X' ∉ text) :
    dropHexMark text = text := by
  unfold dropHexMark
  split
  · simp at hx
  · simp at hX
  · rfl

/-- **A numeral is read completely.** -/
theorem IsNumeral.scan_eq {radix n : Nat} {digits : List Char} (h : IsNumeral radix n digits)
    (hr : radix ≤ 16) : scan radix digits = some ⟨BitVec.ofNat 64 n, true⟩ := by
  -- Neither a sign nor the `x` of a second mark has a value below 16.
  have hsign : splitSign digits = (false, digits) :=
    splitSign_of_not_mem (h.not_mem (hr.trans (by decide))) (h.not_mem (hr.trans (by decide)))
  have hmark : dropHexMark digits = digits :=
    dropHexMark_of_not_mem (h.not_mem (hr.trans (by decide))) (h.not_mem (hr.trans (by decide)))
  have hbody : body radix digits = digits := by
    simp [body, hsign, hmark]
  have hrun : digits.takeWhile (Text.isDigit radix) = digits :=
    List.takeWhile_eq_self_iff.2 h.isDigit
  simp [scan, hbody, hrun, hsign, h.ne_nil, accumulate_eq_ofNat, h.value]

/-! ## Spellings of a number -/

/-- The ways to spell a number. Letters among the digits, and the marks, may have either case. -/
inductive Spells (n : Nat) : List Char → Prop where
  /-- Decimal digits. -/
  | decimal {digits : List Char} (h : IsNumeral 10 n digits) : Spells n digits
  /-- Hexadecimal digits after `0x`. -/
  | hex {mark : Char} {digits : List Char} (hmark : mark = 'x' ∨ mark = 'X')
      (h : IsNumeral 16 n digits) : Spells n ('0' :: mark :: digits)
  /-- Binary digits after `0b`. -/
  | binary {mark : Char} {digits : List Char} (hmark : mark = 'b' ∨ mark = 'B')
      (h : IsNumeral 2 n digits) : Spells n ('0' :: mark :: digits)
  /-- Hexadecimal digits without leading zeros before `h`. -/
  | suffixed {mark : Char} {digits : List Char} (hmark : mark = 'h' ∨ mark = 'H')
      (h : IsNumeral 16 n digits) (hzero : digits.head? = some '0' → digits = ['0']) :
      Spells n (digits ++ [mark])

theorem spells_toDigits (n : Nat) : Spells n (Nat.toDigits 10 n) :=
  .decimal (isNumeral_toDigits (by omega) (by omega) n)

/-- Decimal digits hold no mark, neither in front nor at the end. -/
theorem selectBase_of_decimal {n : Nat} {digits : List Char} (h : IsNumeral 10 n digits) :
    selectBase digits = (10, digits) := by
  have hmark : endsInHexMark digits = false := by
    simp only [endsInHexMark, Bool.or_eq_false_iff, beq_eq_false_iff_ne, ne_eq]
    exact ⟨fun hlast => h.not_mem (c := 'h') (by decide) (List.mem_of_getLast? hlast),
      fun hlast => h.not_mem (c := 'H') (by decide) (List.mem_of_getLast? hlast)⟩
  unfold selectBase
  split
  · exact absurd (by simp) (h.not_mem (c := 'x') (by decide))
  · exact absurd (by simp) (h.not_mem (c := 'X') (by decide))
  · exact absurd (by simp) (h.not_mem (c := 'b') (by decide))
  · exact absurd (by simp) (h.not_mem (c := 'B') (by decide))
  · rw [hmark]
    rfl

/-- Without a leading zero, hexadecimal digits before `h` do not start like a mark. -/
theorem selectBase_of_suffixed {n : Nat} {digits : List Char} {mark : Char}
    (hmark : mark = 'h' ∨ mark = 'H') (h : IsNumeral 16 n digits)
    (hzero : digits.head? = some '0' → digits = ['0']) :
    selectBase (digits ++ [mark]) = (16, digits) := by
  have hends : endsInHexMark (digits ++ [mark]) = true := by
    rcases hmark with rfl | rfl <;> simp [endsInHexMark]
  have hdefault : selectBase (digits ++ [mark]) =
      if endsInHexMark (digits ++ [mark]) then (16, (digits ++ [mark]).dropLast)
      else (10, digits ++ [mark]) := by
    rcases digits with _ | ⟨c, rest⟩
    · exact absurd rfl h.ne_nil
    · by_cases hc : c = '0'
      · obtain rfl : rest = [] := by simpa [hc] using hzero (by simp [hc])
        rcases hmark with rfl | rfl <;> simp [hc, selectBase]
      · simp [selectBase, hc]
  rw [hdefault, if_pos hends, List.dropLast_concat]

namespace Spells

variable {n : Nat} {text : List Char}

theorem selectBase_eq (h : Spells n text) :
    ∃ radix digits, selectBase text = (radix, digits) ∧ radix ≤ 16 ∧ IsNumeral radix n digits := by
  cases h with
  | decimal h => exact ⟨10, text, selectBase_of_decimal h, by omega, h⟩
  | @hex mark digits hmark h =>
    refine ⟨16, digits, ?_, by omega, h⟩
    rcases hmark with rfl | rfl <;> rfl
  | @binary mark digits hmark h =>
    refine ⟨2, digits, ?_, by omega, h⟩
    rcases hmark with rfl | rfl <;> rfl
  | @suffixed mark digits hmark h hzero =>
    exact ⟨16, digits, selectBase_of_suffixed hmark h hzero, by omega, h⟩

theorem isWord (h : Spells n text) : Text.IsWord text := by
  cases h with
  | decimal h => exact h.isWord (by omega)
  | hex hmark h =>
    refine .cons (by decide) (.cons ?_ (h.isWord (by omega)))
    rcases hmark with rfl | rfl <;> decide
  | binary hmark h =>
    refine .cons (by decide) (.cons ?_ (h.isWord (by omega)))
    rcases hmark with rfl | rfl <;> decide
  | suffixed hmark h hzero =>
    refine (h.isWord (by omega)).concat ?_
    rcases hmark with rfl | rfl <;> decide

/-- **A spelling reads as its number, completely.** -/
theorem read_eq (h : Spells n text) {token : List Char} (htoken : clean token = text) :
    read token = some ⟨BitVec.ofNat 64 n, true⟩ := by
  obtain ⟨radix, digits, hbase, hr, hdigits⟩ := h.selectBase_eq
  simp [read, htoken, h.isWord.ne_nil, hbase, hdigits.scan_eq hr]

theorem exact_eq (h : Spells n text) {token : List Char} (htoken : clean token = text) :
    exact token = .ok (BitVec.ofNat 64 n) := by
  rw [exact, h.read_eq htoken]

theorem value?_eq (h : Spells n text) {token : List Char} (htoken : clean token = text) :
    value? token = some (BitVec.ofNat 64 n) := by
  rw [value?, h.read_eq htoken, Option.map_some]

end Spells

end Midrange.Literal
