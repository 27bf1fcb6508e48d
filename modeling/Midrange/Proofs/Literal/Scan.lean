import Mathlib.Data.Int.ModEq
import Mathlib.Data.List.Induction
import Mathlib.Data.Nat.Digits.Defs
import Midrange.Proofs.Literal.Parts

/-!
# Scanning a text and a longer one

A scan reads the longest run of digits behind the sign and the mark of a text, in exact arithmetic
modulo 2^64. What is written behind the digits does not change what is read, unless it makes a mark
of the digits.

* `positional_eq_ofDigits`: the value of a run of digits is a sum of powers of the radix.
* `toInt_ofInt_eq_iff`: the integer of 64 bits that stands for an integer.
* `Parts.extend`: the parts of a text with a suffix, as long as the mark stays what it is.
* `Parts.OpensMark`: the one way in which it does not. A zero alone becomes the mark `0x`, and
  `Parts.OpensMark.parts_eq` says what the parts are then.
* `scan_reads_longest_run`: what a scan reads, and what a suffix can change about it.
-/

namespace Midrange.Literal

/-! ## Numbers -/

/-- **The value of a run of digits is the sum of its digits times powers of the radix**, the last
digit being the lowest. -/
theorem positional_eq_ofDigits (radix : Nat) (digits : List Char) :
    positional radix digits = Nat.ofDigits radix (digits.reverse.map Text.digitValue) := by
  -- The definition consumes the digits from the front, so the last one is taken off here.
  induction digits using List.reverseRecOn with
  | nil => rfl
  | append_singleton digits c ih =>
    rw [positional_append_singleton, ih, List.reverse_concat, List.map_cons, Nat.ofDigits_cons,
      Nat.mul_comm, Nat.add_comm]

/-- **64 bits stand for one integer in their range** among all that are congruent. -/
theorem toInt_ofInt_eq_iff {n z : Int} : (BitVec.ofInt 64 n).toInt = z ↔
    (-2 ^ 63 ≤ z ∧ z < 2 ^ 63) ∧ z ≡ n [ZMOD 2 ^ 64] := by
  rw [BitVec.toInt_ofInt, Int.bmod_def, Int.ModEq]
  split_ifs <;> omega

/-- The digits of a radix are ASCII digits and letters, in either case. -/
theorem isDigit_iff_ranges {radix : Nat} (hradix : radix ≤ 36) {c : Char} :
    Text.isDigit radix c = true ↔
      ('0' ≤ c ∧ c ≤ '9' ∨ 'A' ≤ c ∧ c ≤ 'Z' ∨ 'a' ≤ c ∧ c ≤ 'z') ∧ Text.digitValue c < radix := by
  have hranges : Text.isDigit 36 c = true ↔
      '0' ≤ c ∧ c ≤ '9' ∨ 'A' ≤ c ∧ c ≤ 'Z' ∨ 'a' ≤ c ∧ c ≤ 'z' := by
    rw [Text.isDigit_iff]
    simp [Char.le_def, UInt32.le_iff_toNat_le]
  have hvalue : Text.isDigit radix c = true ↔ Text.digitValue c < radix := decide_eq_true_iff
  rw [← hranges, ← hvalue]
  exact ⟨fun h => ⟨Text.isDigit_mono hradix h, h⟩, And.right⟩

/-! ## Suffixes -/

namespace Parts

variable {radix : Nat} {text suffix : List Char}

theorem scan_eq_none_iff (parts : Parts radix text) :
    scan radix text = none ↔ parts.digits = [] := by
  rw [parts.scan_eq]
  split_ifs with hdigits <;> simp [hdigits]

theorem scan_eq_some_iff (parts : Parts radix text) {reading : Reading} :
    scan radix text = some reading ↔
      parts.digits ≠ [] ∧ reading = ⟨BitVec.ofInt 64 parts.integer, parts.rest.isEmpty⟩ := by
  rw [parts.scan_eq]
  split_ifs with hdigits <;> simp [hdigits, eq_comm]

/-- The suffix makes a mark of the zero that is the only digit of the text. -/
structure OpensMark (parts : Parts radix text) (suffix : List Char) : Prop where
  radix_eq : radix = 16
  mark_eq : parts.mark = []
  digits_eq : parts.digits = ['0']
  rest_eq : parts.rest = []
  head?_eq : suffix.head? = some 'x' ∨ suffix.head? = some 'X'

theorem head?_append_suffix (parts : Parts radix text) (hdigits : parts.digits ≠ []) :
    (text ++ suffix).head? = text.head? := by
  have htext : text ≠ [] := by
    rw [parts.text_eq]
    simp [hdigits]
  exact List.head?_append_of_ne_nil _ htext

/-- The `x` of a mark is no digit, so that a mark behind the sign ends right after the first digit:
in the rest, where a mark of the text itself would stand, or in the suffix. -/
theorem opensMark_of_isPrefix (parts : Parts radix text) (hdigits : parts.digits ≠ [])
    (hradix : radix = 16) (hmark : parts.mark = []) {mark : List Char} (hmem : mark ∈ hexMarks)
    (h : mark <+: parts.digits ++ (parts.rest ++ suffix)) : parts.OpensMark suffix := by
  obtain ⟨x, rfl, hx⟩ : ∃ x, mark = ['0', x] ∧ (x = 'x' ∨ x = 'X') := by
    rcases mem_hexMarks.1 hmem with rfl | rfl <;> simp
  have hletter : Text.isDigit radix x = false := by
    subst hradix
    rcases hx with rfl | rfl <;> decide
  obtain ⟨d, digits, hcons⟩ := List.exists_cons_of_ne_nil hdigits
  rw [hcons, List.cons_append, List.cons_prefix_cons] at h
  obtain ⟨rfl, h⟩ := h
  have hsingle : digits = [] := by
    cases digits with
    | nil => rfl
    | cons d digits =>
      rw [List.cons_append, List.singleton_prefix_cons_iff] at h
      subst h
      have hdigit := parts.isDigit x (by simp [hcons])
      simp [hletter] at hdigit
  subst hsingle
  have hrest : parts.rest = [] := by
    cases hr : parts.rest with
    | nil => rfl
    | cons c rest =>
      rw [hr, List.nil_append, List.cons_append, List.singleton_prefix_cons_iff] at h
      subst h
      refine absurd ?_ (parts.not_isPrefix hradix hmark _ hmem)
      rw [hcons, hr]
      exact ⟨rest, rfl⟩
  rw [hrest, List.nil_append, List.nil_append, List.singleton_prefix_iff_head?_eq_some] at h
  refine ⟨hradix, hmark, hcons, hrest, ?_⟩
  rcases hx with rfl | rfl
  · exact .inl h
  · exact .inr h

/-- **The parts of a longer text** are those of the text, if the suffix starts with no digit and
makes no mark. -/
def extend (parts : Parts radix text) (hdigits : parts.digits ≠ [])
    (hsuffix : ∀ c ∈ suffix.head?, Text.isDigit radix c = false)
    (hopens : ¬parts.OpensMark suffix) : Parts radix (text ++ suffix) where
  sign := parts.sign
  mark := parts.mark
  digits := parts.digits
  rest := parts.rest ++ suffix
  text_eq := by
    conv_lhs => rw [parts.text_eq]
    simp only [List.append_assoc]
  head?_ne hsign := by
    rw [parts.head?_append_suffix hdigits]
    exact parts.head?_ne hsign
  isInnerMark := parts.isInnerMark
  not_isPrefix hradix hmark mark hmem h :=
    hopens (parts.opensMark_of_isPrefix hdigits hradix hmark hmem h)
  isDigit := parts.isDigit
  head?_isDigit := by
    cases hrest : parts.rest with
    | nil => exact hsuffix
    | cons c rest =>
      have hhead := parts.head?_isDigit
      rwa [hrest] at hhead

/-- **A suffix that starts with no digit and makes no mark does not change the value.** -/
theorem scan_append (parts : Parts radix text) {reading : Reading}
    (hscan : scan radix text = some reading)
    (hsuffix : ∀ c ∈ suffix.head?, Text.isDigit radix c = false)
    (hopens : ¬parts.OpensMark suffix) :
    scan radix (text ++ suffix) = some ⟨reading.value, reading.complete && suffix.isEmpty⟩ := by
  obtain ⟨hdigits, rfl⟩ := parts.scan_eq_some_iff.1 hscan
  have hempty : (parts.rest ++ suffix).isEmpty = (parts.rest.isEmpty && suffix.isEmpty) := by
    cases parts.rest <;> rfl
  rw [(parts.extend hdigits hsuffix hopens).scan_eq_some_iff, ← hempty]
  exact ⟨hdigits, rfl⟩

/-- **Behind a zero that became a mark the digits are those of the suffix.** -/
theorem OpensMark.parts_eq {parts : Parts radix text} (h : parts.OpensMark suffix)
    (longer : Parts radix (text ++ suffix)) :
    longer.sign = parts.sign ∧ longer.mark = '0' :: suffix.take 1 ∧
      longer.digits ++ longer.rest = suffix.drop 1 := by
  obtain ⟨x, more, rfl, hx⟩ : ∃ x more, suffix = x :: more ∧ (x = 'x' ∨ x = 'X') := by
    rcases h.head?_eq with hhead | hhead
    · obtain ⟨more, rfl⟩ := List.head?_eq_some_iff.1 hhead
      exact ⟨'x', more, rfl, .inl rfl⟩
    · obtain ⟨more, rfl⟩ := List.head?_eq_some_iff.1 hhead
      exact ⟨'X', more, rfl, .inr rfl⟩
  have htext : text ++ x :: more = parts.sign.text ++ '0' :: x :: more := by
    conv_lhs => rw [parts.text_eq, h.mark_eq, h.digits_eq, h.rest_eq]
    simp
  have hsplit : splitSign (text ++ x :: more) = (parts.sign.negates, '0' :: x :: more) := by
    rw [htext]
    cases parts.sign <;> rfl
  have hbody : body radix (text ++ x :: more) = more := by
    rw [body, if_pos h.radix_eq, hsplit]
    rcases hx with rfl | rfl <;> rfl
  rw [longer.body_eq] at hbody
  have hmark : longer.mark = ['0', x] := by
    have hbehind : longer.mark ++ (longer.digits ++ longer.rest) = ['0', x] ++ more :=
      congrArg Prod.snd (longer.splitSign_eq.symm.trans hsplit)
    rw [hbody] at hbehind
    exact List.append_cancel_right hbehind
  refine ⟨?_, hmark, hbody⟩
  have hsign := longer.text_eq.symm.trans htext
  rw [hmark, hbody] at hsign
  exact Sign.text_injective (List.append_cancel_right hsign)

theorem integer_eq_ofDigits (parts : Parts radix text) : parts.integer =
    parts.sign.apply (Nat.ofDigits radix (parts.digits.reverse.map Text.digitValue)) := by
  rw [integer, positional_eq_ofDigits]

end Parts

open Parts in
/-- **A scan reads the longest run of digits, in exact arithmetic modulo 2^64.** The digits of a
radix are ASCII letters and digits of a value below it. Every text is a sign, a mark, a longest run
of digits and a rest in one way. It is not a number just if there are no digits. If there are, it is
read to its end just if there is no rest, and its value is the one integer of 64 bits congruent to
what the sign makes of the digits. A suffix that does not start with a digit leaves the value as it
is, unless it opens a mark: then the digits are those that the suffix has behind it. -/
theorem scan_reads_longest_run (radix : Nat) (hradix : radix ≤ 36) (text : List Char) :
    (∀ c, Text.isDigit radix c = true ↔
      ('0' ≤ c ∧ c ≤ '9' ∨ 'A' ≤ c ∧ c ≤ 'Z' ∨ 'a' ≤ c ∧ c ≤ 'z') ∧ Text.digitValue c < radix) ∧
    ∃ parts : Parts radix text, (∀ other : Parts radix text, other = parts) ∧
      (scan radix text = none ↔ parts.digits = []) ∧
      (∀ reading, scan radix text = some reading →
        (reading.complete = true ↔ parts.rest = []) ∧
        ∀ z, reading.value.toInt = z ↔ (-2 ^ 63 ≤ z ∧ z < 2 ^ 63) ∧
          z ≡ parts.sign.apply (Nat.ofDigits radix (parts.digits.reverse.map Text.digitValue))
            [ZMOD 2 ^ 64]) ∧
      ∀ reading suffix, scan radix text = some reading →
        (∀ c ∈ suffix.head?, Text.isDigit radix c = false) →
        (¬parts.OpensMark suffix → scan radix (text ++ suffix) =
          some ⟨reading.value, reading.complete && suffix.isEmpty⟩) ∧
        (parts.OpensMark suffix → ∀ longer : Parts radix (text ++ suffix),
          longer.sign = parts.sign ∧ longer.mark = '0' :: suffix.take 1 ∧
            longer.digits ++ longer.rest = suffix.drop 1) := by
  refine ⟨fun c => isDigit_iff_ranges hradix, Parts.of radix text,
    fun other => Subsingleton.elim _ _, (Parts.of radix text).scan_eq_none_iff,
    fun reading h => ?_, fun reading suffix h hsuffix => ?_⟩
  · obtain ⟨-, rfl⟩ := (Parts.of radix text).scan_eq_some_iff.1 h
    refine ⟨List.isEmpty_iff, fun z => ?_⟩
    rw [← integer_eq_ofDigits]
    exact toInt_ofInt_eq_iff
  · exact ⟨(Parts.of radix text).scan_append h hsuffix, fun hopens => hopens.parts_eq⟩

/-- A negative number in base 36 that wraps, with a full stop behind it; and a zero that is read
with `g5` behind it, while `x5` makes a mark of it. -/
theorem scan_reads_longest_run_wrapped :
    (∃ reading, scan 36 "-3W5e11264SGSh.5".toList = some reading ∧ reading.value.toInt = -1) ∧
      scan 16 "-0".toList = some ⟨0, true⟩ ∧
      scan 16 ("-0".toList ++ "g5".toList) = some ⟨0, false⟩ ∧
      scan 16 ("-0".toList ++ "x5".toList) = some ⟨-5, true⟩ := by
  have hzero : scan 16 "-0".toList = some ⟨0, true⟩ := by decide
  refine ⟨?_, hzero, ?_, by decide⟩
  · obtain ⟨-, parts, hunique, -, hvalue, -⟩ :=
      scan_reads_longest_run 36 le_rfl "-3W5e11264SGSh.5".toList
    obtain rfl := hunique (Parts.of 36 _)
    have hscan : scan 36 "-3W5e11264SGSh.5".toList = some ⟨-1, false⟩ := by decide +kernel
    exact ⟨_, hscan, ((hvalue _ hscan).2 (-1)).2 (by decide +kernel)⟩
  · obtain ⟨-, parts, -, -, -, hsuffix⟩ :=
      scan_reads_longest_run 16 (by decide) "-0".toList
    have hopens : ¬parts.OpensMark "g5".toList := by
      intro h
      simpa using h.head?_eq
    have hhead : ∀ c ∈ "g5".toList.head?, Text.isDigit 16 c = false := by
      rintro c ⟨⟩
      decide
    exact (hsuffix _ _ hzero hhead).1 hopens

end Midrange.Literal
