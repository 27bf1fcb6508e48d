import Mathlib.Data.List.Basic
import Mathlib.Tactic.SplitIfs
import Midrange.Proofs.Text.Fields

/-!
# Words of ASCII letters and digits

Mnemonics, numbers and the names of destinations are words of ASCII letters and digits. No such
character is a separator, a comma or the start of a comment, so a word survives tokenising and
cleaning as it is.

* `IsWord text`: a non-empty text of ASCII letters and digits.
* `digitValue_toUpper`: the value of a digit does not depend on its case.
* `clean_eq_filter`: what cleaning does to a token without blanks.
* `IsWord.clean_eq`, `IsWord.clean_comma`: cleaning keeps a word, and takes a comma off it.
* `IsWord.of_map_toUpper`, `IsWord.upper_eq`: a word in any case has its ASCII upper-case form.
-/

namespace Midrange.Text

/-! ## Letters and digits -/

theorem digitValue_eq (c : Char) : digitValue c =
    if 48 ≤ c.toNat ∧ c.toNat ≤ 57 then c.toNat - 48
    else if 97 ≤ c.toNat ∧ c.toNat ≤ 122 then c.toNat - 97 + 10
    else if 65 ≤ c.toNat ∧ c.toNat ≤ 90 then c.toNat - 65 + 10
    else 36 := by
  simp [digitValue, Char.le_def, UInt32.le_iff_toNat_le]

theorem toNat_toUpper (c : Char) : c.toUpper.toNat =
    if 97 ≤ c.toNat ∧ c.toNat ≤ 122 then c.toNat - 32 else c.toNat := by
  have hlower : 'a'.val ≤ c.val ∧ c.val ≤ 'z'.val ↔ 97 ≤ c.toNat ∧ c.toNat ≤ 122 := by
    simp [UInt32.le_iff_toNat_le]
  unfold Char.toUpper
  split_ifs with h h' h'
  · simp only [Char.toNat, UInt32.toNat_add] at h' ⊢
    simp only [Char.reduceVal, UInt32.reduceSub, UInt32.reduceToNat]
    omega
  · exact absurd (hlower.1 h) h'
  · exact absurd (hlower.2 h') h
  · rfl

theorem digitValue_toUpper (c : Char) : digitValue c.toUpper = digitValue c := by
  simp only [digitValue_eq, toNat_toUpper]
  split_ifs <;> omega

/-- A digit of some radix is an ASCII letter or one of `0` to `9`. -/
theorem isDigit_iff {c : Char} : isDigit 36 c = true ↔
    48 ≤ c.toNat ∧ c.toNat ≤ 57 ∨ 65 ≤ c.toNat ∧ c.toNat ≤ 90 ∨
      97 ≤ c.toNat ∧ c.toNat ≤ 122 := by
  simp only [isDigit, decide_eq_true_eq, digitValue_eq]
  split_ifs <;> omega

theorem isDigit_mono {radix radix' : Nat} (h : radix ≤ radix') {c : Char}
    (hc : isDigit radix c = true) : isDigit radix' c = true := by
  simp only [isDigit, decide_eq_true_eq] at hc ⊢
  omega

theorem isSeparator_of_isDigit {c : Char} (h : isDigit 36 c = true) :
    Line.isSeparator c = false := by
  rw [isDigit_iff] at h
  have hmark : c ≠ '\uFEFF' := by
    rintro rfl
    simp at h
  simp [Line.isSeparator, isBlank, inRanges, blankRanges, hmark]
  omega

theorem isBlank_of_isSeparator {c : Char} (h : Line.isSeparator c = false) :
    isBlank c = false := by
  simp only [Line.isSeparator, Bool.or_eq_false_iff] at h
  exact h.1

/-! ## Texts without separators -/

theorem dropWhile_isBlank {text : List Char} (h : ∀ c ∈ text, isBlank c = false) :
    text.dropWhile isBlank = text := by
  cases text with
  | nil => rfl
  | cons c rest => simp [h c (by simp)]

theorem trim_of_forall {text : List Char} (h : ∀ c ∈ text, isBlank c = false) :
    trim text = text := by
  have hback : ∀ c ∈ text.reverse, isBlank c = false := fun c hc => h c (List.mem_reverse.1 hc)
  rw [trim, dropWhile_isBlank h, dropWhile_isBlank hback, List.reverse_reverse]

/-- Without blanks, cleaning deletes the commas and nothing else. -/
theorem clean_eq_filter {token : List Char} (h : ∀ c ∈ token, isBlank c = false) :
    Literal.clean token = token.filter (· != ',') := by
  rw [Literal.clean, trim_of_forall h]

theorem upper_eq_map_toUpper {text : List Char} (h : ∀ c ∈ text, c.toNat < 128) :
    upper text = text.map Char.toUpper := by
  rw [upper, List.map_eq_flatMap]
  exact List.flatMap_congr fun c hc => by simp [upperChar, h c hc]

/-! ## Words -/

/-- A non-empty text of ASCII letters and digits. -/
structure IsWord (text : List Char) : Prop where
  ne_nil : text ≠ []
  isDigit : ∀ c ∈ text, isDigit 36 c = true

theorem isWord_iff {text : List Char} :
    IsWord text ↔ text ≠ [] ∧ text.all (isDigit 36) = true := by
  rw [List.all_eq_true]
  exact ⟨fun h => ⟨h.ne_nil, h.isDigit⟩, fun h => ⟨h.1, h.2⟩⟩

instance (text : List Char) : Decidable (IsWord text) :=
  decidable_of_iff _ isWord_iff.symm

namespace IsWord

variable {text : List Char}

theorem cons {c : Char} (hc : Text.isDigit 36 c = true) (h : IsWord text) : IsWord (c :: text) :=
  ⟨List.cons_ne_nil c text, List.forall_mem_cons.2 ⟨hc, h.isDigit⟩⟩

theorem concat (h : IsWord text) {c : Char} (hc : Text.isDigit 36 c = true) :
    IsWord (text ++ [c]) where
  ne_nil := by simp
  isDigit d hd := by
    rcases List.mem_append.1 hd with hd | hd
    · exact h.isDigit d hd
    · rwa [List.mem_singleton.1 hd]

theorem of_map_toUpper (h : IsWord (text.map Char.toUpper)) : IsWord text where
  ne_nil := by simpa using h.ne_nil
  isDigit c hc := by
    have hupper := h.isDigit _ (List.mem_map_of_mem hc)
    rwa [Text.isDigit, digitValue_toUpper] at hupper

theorem isSeparator (h : IsWord text) : ∀ c ∈ text, Line.isSeparator c = false :=
  fun c hc => isSeparator_of_isDigit (h.isDigit c hc)

theorem upper_eq (h : IsWord text) : upper text = text.map Char.toUpper := by
  apply upper_eq_map_toUpper
  intro c hc
  have hrange := isDigit_iff.1 (h.isDigit c hc)
  omega

theorem ne_comma (h : IsWord text) : ∀ c ∈ text, c ≠ ',' := by
  rintro c hc rfl
  exact absurd (h.isDigit _ hc) (by decide)

theorem clean_eq (h : IsWord text) : Literal.clean text = text := by
  rw [clean_eq_filter fun c hc => isBlank_of_isSeparator (h.isSeparator c hc), List.filter_eq_self]
  simpa using h.ne_comma

theorem clean_comma (h : IsWord text) : Literal.clean (text ++ [',']) = text := by
  have hblank : ∀ c ∈ text ++ [','], isBlank c = false := by
    simp only [List.mem_append, List.mem_singleton]
    rintro c (hc | rfl)
    · exact isBlank_of_isSeparator (h.isSeparator c hc)
    · decide
  have hkeep : text.filter (· != ',') = text := by
    rw [List.filter_eq_self]
    simpa using h.ne_comma
  rw [clean_eq_filter hblank, List.filter_append, hkeep]
  simp

end IsWord

end Midrange.Text
