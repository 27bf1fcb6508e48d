import Mathlib.Data.List.Forall2
import Midrange.Proofs.Text.Word

/-!
# The case of ASCII letters

Two texts may differ in the case of their ASCII letters and in nothing else. Such texts have the
same capitals, `text.map Char.toUpper`, and so whatever only looks at the capitals of a text does
not tell them apart.

* `Flipped text text'`: some letters of `text` are flipped in `text'`. `flipped_iff` says that these
  are the texts with the same capitals.
* `toUpper_eq_iff`, `isSeparator_toUpper`, `isDigit_toUpper`: characters that are no letters, blanks
  and digits are told by their capitals.
* `trim_map_toUpper`, `fields_map`: trimmed texts and fields.
* `upper_map_toUpper`, `mem_upper_iff`: the full upper-case form is that of the capitals, and holds
  no character below the letters that the text does not hold.
-/

namespace Midrange.Text

/-! ## Flipped letters -/

/-- An ASCII letter in the other case; any other character as it is. -/
def flipCase (c : Char) : Char :=
  if c.isLower then c.toUpper else c.toLower

/-- The second text is the first one with the case of some ASCII letters flipped. -/
def Flipped : List Char → List Char → Prop :=
  List.Forall₂ fun c c' => c' = c ∨ c' = flipCase c

theorem toNat_toLower (c : Char) : c.toLower.toNat =
    if 65 ≤ c.toNat ∧ c.toNat ≤ 90 then c.toNat + 32 else c.toNat := by
  have hupper : 'A'.val ≤ c.val ∧ c.val ≤ 'Z'.val ↔ 65 ≤ c.toNat ∧ c.toNat ≤ 90 := by
    simp [UInt32.le_iff_toNat_le]
  unfold Char.toLower
  split_ifs with h h' h'
  · simp only [Char.toNat, UInt32.toNat_add] at h' ⊢
    simp only [Char.reduceVal, UInt32.reduceSub, UInt32.reduceToNat]
    omega
  · exact absurd (hupper.1 h) h'
  · exact absurd (hupper.2 h') h
  · rfl

theorem toNat_flipCase (c : Char) : (flipCase c).toNat =
    if 97 ≤ c.toNat ∧ c.toNat ≤ 122 then c.toNat - 32
    else if 65 ≤ c.toNat ∧ c.toNat ≤ 90 then c.toNat + 32 else c.toNat := by
  have hlower : c.isLower = true ↔ 97 ≤ c.toNat ∧ c.toNat ≤ 122 := by
    change (decide ('a'.val ≤ c.val) && decide (c.val ≤ 'z'.val)) = true ↔ _
    simp [UInt32.le_iff_toNat_le]
  unfold flipCase
  split_ifs with h <;> simp_all [toNat_toUpper, toNat_toLower]

theorem eq_or_eq_flipCase_iff {c c' : Char} :
    c' = c ∨ c' = flipCase c ↔ c.toUpper = c'.toUpper := by
  simp only [← Char.toNat_inj, toNat_flipCase, toNat_toUpper]
  split_ifs <;> omega

/-- **Flipped texts are those with the same capitals.** -/
theorem flipped_iff {text text' : List Char} :
    Flipped text text' ↔ text.map Char.toUpper = text'.map Char.toUpper := by
  rw [← List.forall₂_eq_eq_eq, List.forall₂_map_left_iff, List.forall₂_map_right_iff, Flipped]
  simp only [eq_or_eq_flipCase_iff]

theorem toUpper_toUpper (c : Char) : c.toUpper.toUpper = c.toUpper := by
  simp only [← Char.toNat_inj, toNat_toUpper]
  split_ifs <;> omega

/-! ## Characters told by their capitals -/

/-- A character that is no lower-case letter and no capital is its own capital, and only its own. -/
theorem toUpper_eq_iff {c d : Char}
    (hd : d.toNat < 65 ∨ 90 < d.toNat ∧ d.toNat < 97 ∨ 122 < d.toNat) : c.toUpper = d ↔ c = d := by
  simp only [← Char.toNat_inj, toNat_toUpper]
  split_ifs <;> omega

/-- A capital is the capital of the two cases of its letter. -/
theorem toUpper_eq_capital_iff {c d : Char} (hd : 65 ≤ d.toNat ∧ d.toNat ≤ 90) :
    c.toUpper = d ↔ c = d.toLower ∨ c = d := by
  simp only [← Char.toNat_inj, toNat_toUpper, toNat_toLower, if_pos hd]
  split_ifs <;> omega

theorem beq_toUpper {d : Char} (hd : d.toNat < 65) (c : Char) : (c.toUpper == d) = (c == d) := by
  rw [Bool.eq_iff_iff, beq_iff_eq, beq_iff_eq]
  exact toUpper_eq_iff (.inl hd)

theorem isBlank_toUpper (c : Char) : isBlank c.toUpper = isBlank c := by
  simp only [isBlank, inRanges, blankRanges, List.any_cons, List.any_nil, toNat_toUpper]
  split_ifs with h
  · rw [Bool.eq_iff_iff]
    simp
    omega
  · rfl

theorem isSeparator_toUpper (c : Char) : Line.isSeparator c.toUpper = Line.isSeparator c := by
  have hmark : (c.toUpper == '\uFEFF') = (c == '\uFEFF') := by
    rw [Bool.eq_iff_iff, beq_iff_eq, beq_iff_eq]
    exact toUpper_eq_iff (by decide)
  rw [Line.isSeparator, Line.isSeparator, isBlank_toUpper, hmark]

theorem isDigit_toUpper (radix : Nat) (c : Char) : isDigit radix c.toUpper = isDigit radix c := by
  rw [isDigit, isDigit, digitValue_toUpper]

/-! ## Texts in capitals -/

theorem trim_map_toUpper (text : List Char) :
    trim (text.map Char.toUpper) = (trim text).map Char.toUpper := by
  have hblank : isBlank ∘ Char.toUpper = isBlank := funext isBlank_toUpper
  simp only [trim, List.dropWhile_map, hblank, ← List.map_reverse]

theorem splitOnP_map {p : Char → Bool} {f : Char → Char} (h : ∀ c, p (f c) = p c)
    (text : List Char) : (text.map f).splitOnP p = (text.splitOnP p).map (List.map f) := by
  induction text with
  | nil => rfl
  | cons c rest ih =>
    rw [List.map_cons, List.splitOnP_cons_eq_if_modifyHead, List.splitOnP_cons_eq_if_modifyHead,
      h c, ih]
    split_ifs
    · rfl
    · cases rest.splitOnP p <;> rfl

theorem fields_map {sep : Char → Bool} {f : Char → Char} (h : ∀ c, sep (f c) = sep c)
    (text : List Char) : fields sep (text.map f) = (fields sep text).map (List.map f) := by
  rw [fields, splitOnP_map h, List.filter_map, fields]
  simp [Function.comp_def]

/-! ## Upper-casing -/

theorem upperChar_toUpper (c : Char) : upperChar c.toUpper = upperChar c := by
  by_cases h : c.toNat < 128
  · have hcapital : c.toUpper.toNat < 128 := by
      rw [toNat_toUpper]
      split_ifs <;> omega
    rw [upperChar, upperChar, if_pos h, if_pos hcapital, toUpper_toUpper]
  · rw [(toUpper_eq_iff (.inr (.inr (by omega)))).2 rfl]

/-- **The upper-case form of a text is that of its capitals.** -/
theorem upper_map_toUpper (text : List Char) : upper (text.map Char.toUpper) = upper text := by
  simp only [upper, List.flatMap_map, upperChar_toUpper]

/-- Every run of the upper-case mapping leads to characters, and to none below the letters. -/
theorem upperRuns_bounds : ∀ run ∈ upperRuns, 65 ≤ run.first + run.shift ∧
    (run.last + run.shift < 0xD800 ∨
      0xDFFF < run.first + run.shift ∧ run.last + run.shift < 0x110000) := by
  decide +kernel

theorem upperExpansions_bounds : ∀ entry ∈ upperExpansions, ∀ code ∈ entry.2,
    65 ≤ code ∧ code < 0xD800 := by
  decide +kernel

theorem toNat_ofNat_of_lt {n : Nat} (h : n < 0xD800 ∨ 0xDFFF < n ∧ n < 0x110000) :
    (Char.ofNat n).toNat = n := by
  have hvalid : n.isValidChar := h
  rw [Char.ofNat, dif_pos hvalid]
  rfl

/-- **A run that leads to characters moves the characters that it holds by its shift.** -/
theorem toNat_shifted {runs : List Run} {run : Run} {c : Char}
    (hrun : runs.find? (·.holds c.toNat) = some run) (hfirst : 0 ≤ run.first + run.shift)
    (hlast : run.last + run.shift < 0xD800 ∨
      0xDFFF < run.first + run.shift ∧ run.last + run.shift < 0x110000) :
    run.first ≤ c.toNat ∧ c.toNat ≤ run.last ∧
      ((shifted runs c).toNat : Int) = c.toNat + run.shift := by
  have hholds := List.find?_some hrun
  simp only [Run.holds, Bool.and_eq_true, decide_eq_true_eq] at hholds
  refine ⟨hholds.1.1, hholds.1.2, ?_⟩
  rw [shifted, hrun, toNat_ofNat_of_lt (by omega)]
  omega

theorem le_toNat_shifted {c : Char} (hc : 65 ≤ c.toNat) : 65 ≤ (shifted upperRuns c).toNat := by
  cases hrun : upperRuns.find? (·.holds c.toNat) with
  | none => rwa [shifted, hrun]
  | some run =>
    obtain ⟨hfirst, hlast⟩ := upperRuns_bounds run (List.mem_of_find?_eq_some hrun)
    have himage := toNat_shifted hrun (by omega) hlast
    omega

/-- A character beyond ASCII becomes no character below the letters. -/
theorem le_toNat_of_mem_upperChar {c d : Char} (hc : 128 ≤ c.toNat) (hd : d ∈ upperChar c) :
    65 ≤ d.toNat := by
  rw [upperChar, if_neg (by omega)] at hd
  split at hd
  · rename_i codes hcodes
    obtain ⟨code, hcode, rfl⟩ := List.mem_map.1 hd
    obtain ⟨before, after, htable, -⟩ := List.lookup_eq_some_iff.1 hcodes
    have hentry : (c.toNat, codes) ∈ upperExpansions := by simp [htable]
    obtain ⟨hle, hlt⟩ := upperExpansions_bounds _ hentry code hcode
    rwa [toNat_ofNat_of_lt (.inl hlt)]
  · obtain rfl := List.mem_singleton.1 hd
    exact le_toNat_shifted (by omega)

/-- **Upper-casing brings in no character below the letters**, and takes none away. -/
theorem mem_upper_iff {d : Char} (hd : d.toNat < 65) {text : List Char} :
    d ∈ upper text ↔ d ∈ text := by
  have hchar : ∀ c, d ∈ upperChar c ↔ c = d := by
    intro c
    by_cases hc : c.toNat < 128
    · rw [upperChar, if_pos hc, List.mem_singleton, eq_comm, toUpper_eq_iff (.inl hd)]
    · refine ⟨fun h => ?_, fun h => absurd (h ▸ hd) (by omega)⟩
      have hle := le_toNat_of_mem_upperChar (by omega) h
      omega
  simp [upper, hchar]

end Midrange.Text
