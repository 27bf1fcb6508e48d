import Midrange.Proofs.Text.LetterCase
import Midrange.Text.Occurs

/-!
# Occurrences up to letter case

To look for a text in another one up to letter case, both are lower-cased. The lower-case form of a
character may depend on what stands around it and may have several characters, so that it is not
clear what is found this way. In an ASCII text without the letter `k` it is what one expects: the
texts that differ from a part of it in the case of ASCII letters. Everything else has a character
beyond ASCII in its lower-case form, or the `k` that the Kelvin sign leaves there.

* `occursIn_iff`: an occurrence is a contiguous part.
* `lower_eq_map_toLower`: the lower-case form of an ASCII text.
* `exists_mem_lower`: a character beyond ASCII can be told by the lower-case form of the text.
* `occursIn_lower_iff`: what is found in an ASCII text.
-/

namespace Midrange.Text

theorem occursIn_iff {needle text : List Char} :
    occursIn needle text = true ↔ needle <:+: text := by
  induction text with
  | nil => simp [occursIn]
  | cons c rest ih =>
    rw [occursIn, Bool.or_eq_true, List.isPrefixOf_iff_prefix, ih, List.infix_cons_iff]

/-! ## ASCII texts -/

theorem toLower_toUpper (c : Char) : c.toUpper.toLower = c.toLower := by
  simp only [← Char.toNat_inj, toNat_toLower, toNat_toUpper]
  split_ifs <;> omega

theorem toUpper_toLower (c : Char) : c.toLower.toUpper = c.toUpper := by
  simp only [← Char.toNat_inj, toNat_toLower, toNat_toUpper]
  split_ifs <;> omega

/-- A character is ASCII if its capital is. -/
theorem toNat_lt_of_toUpper {c : Char} (h : c.toUpper.toNat < 128) : c.toNat < 128 := by
  rw [toNat_toUpper] at h
  split_ifs at h <;> omega

theorem lowerBetween_of_lt {c : Char} (hc : c.toNat < 128) (before after : List Char) :
    lowerBetween before c after = [c.toLower] := by
  have hsigma : c ≠ 'Σ' := by
    rintro rfl
    simp at hc
  rw [lowerBetween, if_neg hsigma, lowerChar, if_pos hc]

theorem lowerAfter_eq_map_toLower (before : List Char) {text : List Char}
    (h : ∀ c ∈ text, c.toNat < 128) : lowerAfter before text = text.map Char.toLower := by
  induction text generalizing before with
  | nil => rfl
  | cons c rest ih =>
    rw [List.forall_mem_cons] at h
    rw [lowerAfter, lowerBetween_of_lt h.1, ih (c :: before) h.2, List.map_cons,
      List.singleton_append]

/-- **An ASCII text is lower-cased letter by letter.** -/
theorem lower_eq_map_toLower {text : List Char} (h : ∀ c ∈ text, c.toNat < 128) :
    lower text = text.map Char.toLower :=
  lowerAfter_eq_map_toLower [] h

/-! ## Characters beyond ASCII -/

/-- The runs of the lower-case mapping lead beyond ASCII, but for the one of the Kelvin sign. -/
theorem lowerRuns_bounds : ∀ run ∈ lowerRuns, run = ⟨0x212A, 0x212A, 1, -8383⟩ ∨
    128 ≤ run.first + run.shift ∧ (run.last + run.shift < 0xD800 ∨
      0xDFFF < run.first + run.shift ∧ run.last + run.shift < 0x110000) := by
  decide +kernel

theorem lowerExpansions_bounds : ∀ entry ∈ lowerExpansions, ∃ code ∈ entry.2,
    128 ≤ code ∧ code < 0xD800 := by
  decide

theorem shifted_lowerRuns {c : Char} (hc : 128 ≤ c.toNat) :
    128 ≤ (shifted lowerRuns c).toNat ∨ shifted lowerRuns c = 'k' := by
  cases hrun : lowerRuns.find? (·.holds c.toNat) with
  | none =>
    rw [shifted, hrun]
    exact .inl hc
  | some run =>
    rcases lowerRuns_bounds run (List.mem_of_find?_eq_some hrun) with rfl | ⟨hfirst, hlast⟩
    · have himage := toNat_shifted hrun (by decide) (by decide)
      right
      rw [← Char.toNat_inj, show 'k'.toNat = 107 from rfl]
      simp only at himage
      omega
    · have himage := toNat_shifted hrun (by omega) hlast
      omega

theorem exists_mem_lowerChar {c : Char} (hc : 128 ≤ c.toNat) :
    ∃ d ∈ lowerChar c, 128 ≤ d.toNat ∨ d = 'k' := by
  rw [lowerChar, if_neg (by omega)]
  split
  · rename_i codes hcodes
    obtain ⟨before, after, htable, -⟩ := List.lookup_eq_some_iff.1 hcodes
    have hentry : (c.toNat, codes) ∈ lowerExpansions := by simp [htable]
    obtain ⟨code, hcode, hle, hlt⟩ := lowerExpansions_bounds _ hentry
    refine ⟨Char.ofNat code, List.mem_map_of_mem hcode, .inl ?_⟩
    rwa [toNat_ofNat_of_lt (.inl hlt)]
  · exact ⟨_, List.mem_singleton_self _, shifted_lowerRuns hc⟩

/-- Either form of the sigma is beyond ASCII, so that it does not matter which one is taken. -/
theorem exists_mem_lowerBetween {c : Char} (hc : 128 ≤ c.toNat) (before after : List Char) :
    ∃ d ∈ lowerBetween before c after, 128 ≤ d.toNat ∨ d = 'k' := by
  unfold lowerBetween
  split_ifs
  · exact ⟨'ς', List.mem_singleton_self _, .inl (by decide)⟩
  · exact ⟨'σ', List.mem_singleton_self _, .inl (by decide)⟩
  · exact exists_mem_lowerChar hc

theorem exists_mem_lowerAfter {c : Char} (hc : 128 ≤ c.toNat) (before : List Char)
    {text : List Char} (hmem : c ∈ text) :
    ∃ d ∈ lowerAfter before text, 128 ≤ d.toNat ∨ d = 'k' := by
  induction text generalizing before with
  | nil => simp at hmem
  | cons e rest ih =>
    rw [lowerAfter]
    rcases List.mem_cons.1 hmem with rfl | hmem
    · obtain ⟨d, hd, htrace⟩ := exists_mem_lowerBetween hc before rest
      exact ⟨d, List.mem_append_left _ hd, htrace⟩
    · obtain ⟨d, hd, htrace⟩ := ih (e :: before) hmem
      exact ⟨d, List.mem_append_right _ hd, htrace⟩

/-- **A character beyond ASCII leaves one in the lower-case form, or a `k`.** -/
theorem exists_mem_lower {c : Char} (hc : 128 ≤ c.toNat) {text : List Char} (hmem : c ∈ text) :
    ∃ d ∈ lower text, 128 ≤ d.toNat ∨ d = 'k' :=
  exists_mem_lowerAfter hc [] hmem

/-! ## Occurrences -/

section Occurrences

variable {needle text : List Char} (hascii : ∀ c ∈ text, c.toNat < 128)

include hascii

/-- What occurs in an ASCII text without a `k` is ASCII. -/
theorem toNat_lt_of_lower_infix (hk : 'k' ∉ text.map Char.toLower)
    (h : lower needle <:+: text.map Char.toLower) : ∀ c ∈ needle, c.toNat < 128 := by
  intro c hc
  by_contra hlt
  obtain ⟨d, hd, hbeyond | rfl⟩ := exists_mem_lower (Nat.le_of_not_lt hlt) hc
  · obtain ⟨e, he, rfl⟩ := List.mem_map.1 (h.subset hd)
    have hle := hascii e he
    rw [toNat_toLower] at hbeyond
    split_ifs at hbeyond <;> omega
  · exact hk (h.subset hd)

/-- **What is found in an ASCII text without a `k`**: the texts with the capitals of a part. The
Kelvin sign would be found as a `k`, and no other character beyond ASCII as anything. -/
theorem occursIn_lower_iff (hk : 'k' ∉ text.map Char.toLower) :
    occursIn (lower needle) (lower text) = true ↔
      needle.map Char.toUpper <:+: text.map Char.toUpper := by
  have hcapitals : ∀ part : List Char,
      (part.map Char.toLower).map Char.toUpper = part.map Char.toUpper := by
    intro part
    rw [List.map_map]
    exact congrArg part.map (funext toUpper_toLower)
  have hsmall : ∀ part : List Char,
      (part.map Char.toUpper).map Char.toLower = part.map Char.toLower := by
    intro part
    rw [List.map_map]
    exact congrArg part.map (funext toLower_toUpper)
  rw [occursIn_iff, lower_eq_map_toLower hascii]
  constructor
  · intro h
    have hneedle := toNat_lt_of_lower_infix hascii hk h
    rw [lower_eq_map_toLower hneedle] at h
    rw [← hcapitals needle, ← hcapitals text]
    exact h.map Char.toUpper
  · intro h
    have hneedle : ∀ c ∈ needle, c.toNat < 128 := by
      intro c hc
      obtain ⟨d, hd, hcapital⟩ := List.mem_map.1 (h.subset (List.mem_map_of_mem hc))
      apply toNat_lt_of_toUpper
      have hlt := hascii d hd
      rw [← hcapital, toNat_toUpper]
      split_ifs <;> omega
    rw [lower_eq_map_toLower hneedle, ← hsmall needle, ← hsmall text]
    exact h.map Char.toLower

end Occurrences

end Midrange.Text
