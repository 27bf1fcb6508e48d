import Midrange.Proofs.Literal.Parts

/-!
# One number in every notation

All notations of an integer agree, provided that its sign stands right before its digits. A sign in
front of the mark of a notation hides the mark, and a `0b` in front of hexadecimal digits hides the
`h` behind them.

* `SpellsNegated n text`: the ways to write `-n`. `SignsMark n text`: the sign in front of a mark.
* `isNumeral_replicate_append`: a numeral may have leading zeros.
* `scan_run`: what is scanned of a text whose run of digits is known.
* `exact_suffixed_iff`: which hexadecimal digits may stand before `h`. `read_binary_suffixed`: how
  the others are read.
* `notations_agree`: all of it, for every number.
-/

namespace Midrange.Literal

/-! ## Writing a number -/

/-- The ways to write a negated number: the sign stands behind a mark, and right before the
digits. -/
inductive SpellsNegated (n : Nat) : List Char → Prop where
  /-- Decimal digits. -/
  | decimal {digits : List Char} (h : IsNumeral 10 n digits) : SpellsNegated n ('-' :: digits)
  /-- Hexadecimal digits before `h`. -/
  | suffixed {mark : Char} {digits : List Char} (hmark : mark = 'h' ∨ mark = 'H')
      (h : IsNumeral 16 n digits) : SpellsNegated n ('-' :: (digits ++ [mark]))
  /-- Hexadecimal digits after `0x`. -/
  | hex {mark : Char} {digits : List Char} (hmark : mark = 'x' ∨ mark = 'X')
      (h : IsNumeral 16 n digits) : SpellsNegated n ('0' :: mark :: '-' :: digits)
  /-- Binary digits after `0b`. -/
  | binary {mark : Char} {digits : List Char} (hmark : mark = 'b' ∨ mark = 'B')
      (h : IsNumeral 2 n digits) : SpellsNegated n ('0' :: mark :: '-' :: digits)

/-- A minus in front of a mark. No number is written so. -/
inductive SignsMark (n : Nat) : List Char → Prop where
  /-- Before `0x`. -/
  | hex {mark : Char} {digits : List Char} (hmark : mark = 'x' ∨ mark = 'X')
      (h : IsNumeral 16 n digits) : SignsMark n ('-' :: '0' :: mark :: digits)
  /-- Before `0b`. -/
  | binary {mark : Char} {digits : List Char} (hmark : mark = 'b' ∨ mark = 'B')
      (h : IsNumeral 2 n digits) : SignsMark n ('-' :: '0' :: mark :: digits)

theorem positional_cons_zero (radix : Nat) (digits : List Char) :
    positional radix ('0' :: digits) = positional radix digits := by
  simp [positional, show Text.digitValue '0' = 0 by decide]

/-- **Leading zeros do not count.** -/
theorem isNumeral_replicate_append {radix n : Nat} {digits : List Char}
    (h : IsNumeral radix n digits) (hr : 0 < radix) (zeros : Nat) :
    IsNumeral radix n (List.replicate zeros '0' ++ digits) := by
  induction zeros with
  | zero => exact h
  | succ zeros ih =>
    rw [List.replicate_succ, List.cons_append]
    refine ⟨List.cons_ne_nil _ _, List.forall_mem_cons.2 ⟨?_, ih.isDigit⟩, ?_⟩
    · exact decide_eq_true hr
    · rw [positional_cons_zero, ih.value]

/-! ## Reading a number -/

/-- A word with a sign in it is clean. -/
theorem clean_signed (start : List Char) {word : List Char}
    (hstart : ∀ c ∈ start, Text.isDigit 36 c = true) (hword : Text.IsWord word) :
    clean (start ++ '-' :: word) = start ++ '-' :: word := by
  have hmem : ∀ c ∈ start ++ '-' :: word, c = '-' ∨ Text.isDigit 36 c = true := by
    simp only [List.mem_append, List.mem_cons]
    rintro c (hc | rfl | hc)
    · exact .inr (hstart c hc)
    · exact .inl rfl
    · exact .inr (hword.isDigit c hc)
  have hblank : ∀ c ∈ start ++ '-' :: word, Text.isBlank c = false := by
    intro c hc
    rcases hmem c hc with rfl | hdigit
    · decide
    · exact Text.isBlank_of_isSeparator (Text.isSeparator_of_isDigit hdigit)
  have hcomma : ∀ c ∈ start ++ '-' :: word, c ≠ ',' := by
    rintro c hc rfl
    exact absurd (hmem _ hc) (by decide)
  rw [Text.clean_eq_filter hblank, List.filter_eq_self]
  simpa using hcomma

theorem exact_of_denotes {z : Int} {text : List Char} (hclean : clean text = text)
    (h : Denotes z text) : exact text = .ok (BitVec.ofInt 64 z) := by
  rw [exact_eq_ok_iff, read_complete_iff, hclean]
  exact ⟨z, h, rfl⟩

theorem exact_eq_error_of_read {text : List Char} (hclean : clean text = text)
    (h : ∀ value, read text ≠ some ⟨value, true⟩) :
    exact text = .error (.invalidLiteral text) := by
  have herror : exact text = .error (.invalidLiteral (clean text)) := by
    refine exact_eq_error ?_
    rintro ⟨value, hvalue⟩
    exact h value (exact_eq_ok_iff.1 hvalue)
  rwa [hclean] at herror

/-- **A run of digits is scanned up to its end**, whatever follows it. -/
theorem scan_run {radix : Nat} (hradix : radix ≠ 16) (sign : Sign) {run rest : List Char}
    (hsign : sign = .none → ∀ c ∈ (run ++ rest).head?, c ≠ '+' ∧ c ≠ '-')
    (hrun : ∀ c ∈ run, Text.isDigit radix c = true)
    (hrest : ∀ c ∈ rest.head?, Text.isDigit radix c = false) :
    scan radix (sign.text ++ (run ++ rest)) =
      if run = [] then none
      else some ⟨BitVec.ofInt 64 (sign.apply (positional radix run)), rest.isEmpty⟩ :=
  Parts.scan_eq
    { sign
      mark := []
      digits := run
      rest
      text_eq := rfl
      head?_ne := fun h => by
        subst h
        exact hsign rfl
      isInnerMark := .inl rfl
      not_isPrefix := fun h => absurd h hradix
      isDigit := hrun
      head?_isDigit := hrest }

/-! ## The sign -/

namespace SpellsNegated

variable {n : Nat} {text : List Char}

theorem clean_eq (h : SpellsNegated n text) : clean text = text := by
  cases h with
  | decimal h => exact clean_signed [] (by simp) (h.isWord (by omega))
  | suffixed hmark h =>
    refine clean_signed [] (by simp) ((h.isWord (by omega)).concat ?_)
    rcases hmark with rfl | rfl <;> decide
  | @hex mark digits hmark h =>
    refine clean_signed ['0', mark] (List.all_eq_true.1 ?_) (h.isWord (by omega))
    rcases hmark with rfl | rfl <;> decide
  | @binary mark digits hmark h =>
    refine clean_signed ['0', mark] (List.all_eq_true.1 ?_) (h.isWord (by omega))
    rcases hmark with rfl | rfl <;> decide

theorem denotes (h : SpellsNegated n text) : Denotes (-n) text := by
  cases h with
  | decimal h => exact .decimal (.mk .minus (.inl rfl) h)
  | @suffixed mark digits hmark h =>
    -- No mark starts with a sign.
    have hfree : IsUnmarked ('-' :: digits ++ [mark]) := by
      rintro start hstart ⟨rest, hrest⟩
      rcases List.mem_append.1 hstart with hstart | hstart
      · rcases mem_hexMarks.1 hstart with rfl | rfl <;> simp at hrest
      · rcases mem_binaryMarks.1 hstart with rfl | rfl <;> simp at hrest
    exact .suffixed hmark (.mk .minus (.inl rfl) h) hfree
  | @hex mark digits hmark h =>
    have hmarks : ['0', mark] ∈ hexMarks := mem_hexMarks.2 (by simpa using hmark)
    exact .hex hmarks (.mk .minus (.inl rfl) h)
  | @binary mark digits hmark h =>
    have hmarks : ['0', mark] ∈ binaryMarks := mem_binaryMarks.2 (by simpa using hmark)
    exact .binary hmarks (.mk .minus (.inl rfl) h)

end SpellsNegated

theorem endsInHexMark_of_not_mem {text : List Char} (hlower : 'h' ∉ text) (hupper : 'H' ∉ text) :
    endsInHexMark text = false := by
  simp only [endsInHexMark, Bool.or_eq_false_iff, beq_eq_false_iff_ne, ne_eq]
  exact ⟨fun h => hlower (List.mem_of_getLast? h), fun h => hupper (List.mem_of_getLast? h)⟩

namespace SignsMark

variable {n : Nat} {text : List Char}

theorem exists_eq (h : SignsMark n text) :
    ∃ mark ∈ ['x', 'X', 'b', 'B'], ∃ radix digits, text = '-' :: '0' :: mark :: digits ∧
      radix ≤ 16 ∧ IsNumeral radix n digits := by
  cases h with
  | @hex mark digits hmark h =>
    refine ⟨mark, ?_, 16, digits, rfl, by omega, h⟩
    rcases hmark with rfl | rfl <;> simp
  | @binary mark digits hmark h =>
    refine ⟨mark, ?_, 2, digits, rfl, by omega, h⟩
    rcases hmark with rfl | rfl <;> simp

/-- **A mark behind a sign is not seen**: what is read is the zero that it starts with. -/
theorem read_eq (h : SignsMark n text) : clean text = text ∧ read text = some ⟨0, false⟩ := by
  obtain ⟨mark, hmem, radix, digits, rfl, hradix, h⟩ := h.exists_eq
  obtain ⟨hdigit, hletter, hlower, hupper⟩ : Text.isDigit 36 mark = true ∧
      Text.isDigit 10 mark = false ∧ 'h' ≠ mark ∧ 'H' ≠ mark := by
    simp only [List.mem_cons, List.not_mem_nil, or_false] at hmem
    rcases hmem with rfl | rfl | rfl | rfl <;> decide
  have hclean : clean ('-' :: '0' :: mark :: digits) = '-' :: '0' :: mark :: digits :=
    clean_signed [] (by simp) (.cons (by decide) (.cons hdigit (h.isWord hradix)))
  have hends : endsInHexMark ('-' :: '0' :: mark :: digits) = false := by
    apply endsInHexMark_of_not_mem
    · simpa [hlower] using h.not_mem (c := 'h') (hradix.trans (by decide))
    · simpa [hupper] using h.not_mem (c := 'H') (hradix.trans (by decide))
  have hbase : selectBase ('-' :: '0' :: mark :: digits) = (10, '-' :: '0' :: mark :: digits) := by
    simp [selectBase, hends]
  have hzero : ∀ c ∈ ['0'], Text.isDigit 10 c = true := List.forall_mem_singleton.2 (by decide)
  have hrest : ∀ c ∈ (mark :: digits).head?, Text.isDigit 10 c = false := by simpa using hletter
  have hscan : scan 10 ('-' :: '0' :: mark :: digits) = some ⟨0, false⟩ :=
    scan_run (by omega) .minus (by simp) hzero hrest
  refine ⟨hclean, ?_⟩
  simp [read, hclean, hbase, hscan]

end SignsMark

/-! ## The suffix -/

section Suffix

variable {n : Nat} {digits : List Char} {mark : Char} (hmark : mark = 'h' ∨ mark = 'H')

include hmark

theorem isWord_suffixed (h : IsNumeral 16 n digits) : Text.IsWord (digits ++ [mark]) := by
  refine (h.isWord (by omega)).concat ?_
  rcases hmark with rfl | rfl <;> decide

/-- Of the marks only `0b` and `0B` are made of hexadecimal digits. -/
theorem isUnmarked_suffixed (h : IsNumeral 16 n digits)
    (hfree : ∀ start ∈ binaryMarks, ¬start <+: digits) : IsUnmarked (digits ++ [mark]) := by
  intro start hstart hstarts
  rcases List.prefix_concat_iff.1 hstarts with heq | hstarts
  · have hlast : start.getLast? = some mark := by simp [heq]
    rcases List.mem_append.1 hstart with hstart | hstart
    · rcases mem_hexMarks.1 hstart with rfl | rfl <;> rcases hmark with rfl | rfl <;>
        simp at hlast
    · rcases mem_binaryMarks.1 hstart with rfl | rfl <;> rcases hmark with rfl | rfl <;>
        simp at hlast
  · rcases List.mem_append.1 hstart with hstart | hstart
    · rcases mem_hexMarks.1 hstart with rfl | rfl
      · exact h.not_mem (c := 'x') (by decide) (hstarts.subset (by simp))
      · exact h.not_mem (c := 'X') (by decide) (hstarts.subset (by simp))
    · exact hfree start hstart hstarts

/-- **Hexadecimal digits behind `0b` are read in binary**, as far as they go. -/
theorem read_binary_suffixed (h : IsNumeral 16 n digits) {start run rest : List Char}
    (hstart : start ∈ binaryMarks) (hdigits : digits = start ++ (run ++ rest))
    (hrun : ∀ c ∈ run, Text.isDigit 2 c = true)
    (hrest : ∀ c ∈ rest.head?, Text.isDigit 2 c = false) :
    read (digits ++ [mark]) =
      if run = [] then none else some ⟨BitVec.ofNat 64 (positional 2 run), false⟩ := by
  have hword := isWord_suffixed hmark h
  have hbase : selectBase (digits ++ [mark]) = (2, run ++ (rest ++ [mark])) := by
    rw [hdigits]
    rcases mem_binaryMarks.1 hstart with rfl | rfl <;> simp [selectBase]
  have hsign : ∀ c ∈ (run ++ (rest ++ [mark])).head?, c ≠ '+' ∧ c ≠ '-' := by
    intro c hc
    have hmem : c ∈ digits ++ [mark] := by
      rw [hdigits, List.append_assoc, List.append_assoc]
      exact List.mem_append_right _ (List.mem_of_head? hc)
    have hdigit := hword.isDigit c hmem
    constructor
    · rintro rfl
      exact absurd hdigit (by decide)
    · rintro rfl
      exact absurd hdigit (by decide)
  have hend : ∀ c ∈ (rest ++ [mark]).head?, Text.isDigit 2 c = false := by
    cases rest with
    | nil => rcases hmark with rfl | rfl <;> rintro c ⟨⟩ <;> decide
    | cons c rest => exact hrest
  have hscan := scan_run (by omega) .none (fun _ => hsign) hrun hend
  have hincomplete : (rest ++ [mark]).isEmpty = false := by simp
  rw [hincomplete] at hscan
  simp only [read, hword.clean_eq, hbase, List.isEmpty_iff, if_neg hword.ne_nil]
  exact hscan

/-- Behind `0b` the suffix is no digit, so that nothing is read to its end. -/
theorem read_ne_complete (h : IsNumeral 16 n digits) {start : List Char}
    (hstart : start ∈ binaryMarks) (hstarts : start <+: digits) (value : Value) :
    read (digits ++ [mark]) ≠ some ⟨value, true⟩ := by
  obtain ⟨after, hafter⟩ := hstarts
  have hdigits : digits = start ++
      (after.takeWhile (Text.isDigit 2) ++ after.dropWhile (Text.isDigit 2)) := by
    rw [List.takeWhile_append_dropWhile, hafter]
  have hrest : ∀ c ∈ (after.dropWhile (Text.isDigit 2)).head?, Text.isDigit 2 c = false := by
    intro c hc
    have hhead := List.head?_dropWhile_not (Text.isDigit 2) after
    rwa [hc] at hhead
  rw [read_binary_suffixed hmark h hstart hdigits (fun c hc => List.mem_takeWhile_imp hc) hrest]
  split_ifs <;> simp

/-- **Which hexadecimal digits may stand before `h`**: those that do not start with `0b`. -/
theorem exact_suffixed_iff (h : IsNumeral 16 n digits) :
    exact (digits ++ [mark]) = .ok (BitVec.ofInt 64 n) ↔
      ∀ start ∈ binaryMarks, ¬start <+: digits := by
  constructor
  · intro hexact start hstart hstarts
    exact read_ne_complete hmark h hstart hstarts _ (exact_eq_ok_iff.1 hexact)
  · intro hfree
    exact exact_of_denotes (isWord_suffixed hmark h).clean_eq
      (.suffixed hmark (.mk .none (.inl rfl) h) (isUnmarked_suffixed hmark h hfree))

end Suffix

/-- **All notations of a number agree, and one trap is left.** A number reads as what it is in every
notation, and so does its negation with the sign right before the digits; both wrap at 64 bits. In
front of a mark the sign leaves a zero, which no strict literal is. Hexadecimal digits before `h`
read as their number just if they do not start with `0b`. If they do, they are no strict literal,
and read as the binary digits behind the `0b`. Every number has digits, with any number of zeros
before them. -/
theorem notations_agree (n : Nat) :
    (∀ text, Spells n text → exact text = .ok (BitVec.ofInt 64 n)) ∧
    (∀ text, SpellsNegated n text → exact text = .ok (BitVec.ofInt 64 (-n))) ∧
    (∀ text, SignsMark n text →
      exact text = .error (.invalidLiteral text) ∧ value? text = some 0) ∧
    (∀ digits mark, IsNumeral 16 n digits → mark = 'h' ∨ mark = 'H' →
      (exact (digits ++ [mark]) = .ok (BitVec.ofInt 64 n) ↔
        ∀ start ∈ binaryMarks, ¬start <+: digits) ∧
      ∀ start ∈ binaryMarks, ∀ run rest, digits = start ++ (run ++ rest) →
        (∀ c ∈ run, Text.isDigit 2 c = true) → (∀ c ∈ rest.head?, Text.isDigit 2 c = false) →
        exact (digits ++ [mark]) = .error (.invalidLiteral (digits ++ [mark])) ∧
        value? (digits ++ [mark]) =
          if run = [] then none else some (BitVec.ofInt 64 (positional 2 run))) ∧
    ∀ radix ∈ [2, 10, 16], ∀ zeros,
      IsNumeral radix n (List.replicate zeros '0' ++ Nat.toDigits radix n) := by
  refine ⟨fun text h => ?_, fun text h => exact_of_denotes h.clean_eq h.denotes,
    fun text h => ?_, fun digits mark h hmark => ⟨exact_suffixed_iff hmark h, ?_⟩,
    fun radix hradix zeros => ?_⟩
  · rw [BitVec.ofInt_natCast]
    exact h.exact_eq h.isWord.clean_eq
  · obtain ⟨hclean, hread⟩ := h.read_eq
    exact ⟨exact_eq_error_of_read hclean (by simp [hread]), by simp [value?, hread]⟩
  · intro start hstart run rest hdigits hrun hrest
    have hread := read_binary_suffixed hmark h hstart hdigits hrun hrest
    refine ⟨exact_eq_error_of_read (isWord_suffixed hmark h).clean_eq
      (read_ne_complete hmark h hstart ⟨_, hdigits.symm⟩), ?_⟩
    rw [value?, hread]
    split_ifs <;> simp
  · have hbounds : ∀ radix ∈ [2, 10, 16], 2 ≤ radix ∧ radix ≤ 16 := by decide
    obtain ⟨h2, h16⟩ := hbounds radix hradix
    exact isNumeral_replicate_append (isNumeral_toDigits h2 h16 n) (by omega) zeros

/-- A number beyond 64 bits in hexadecimal, a negated one behind `0b`, a sign before `0x`, and a
binary number that takes the suffix for a digit. -/
theorem notations_agree_wrapped :
    exact "0x010000000000000005".toList = .ok 5 ∧ exact "0B-101".toList = .ok (-5) ∧
      value? "-0x5".toList = some 0 ∧ value? "0B101Fh".toList = some 5 := by
  refine ⟨?_, ?_, ?_, ?_⟩
  · have hnumeral : IsNumeral 16 (2 ^ 64 + 5) "010000000000000005".toList := by decide +kernel
    exact (notations_agree (2 ^ 64 + 5)).1 _ (.hex (.inl rfl) hnumeral)
  · have hnumeral : IsNumeral 2 5 ['1', '0', '1'] := by decide
    exact (notations_agree 5).2.1 _ (.binary (.inr rfl) hnumeral)
  · have hnumeral : IsNumeral 16 5 ['5'] := by decide
    exact ((notations_agree 5).2.2.1 _ (.hex (.inl rfl) hnumeral)).2
  · have hend : ∀ c ∈ ['F'].head?, Text.isDigit 2 c = false := by
      rintro c ⟨⟩
      decide
    exact (((notations_agree 0xB101F).2.2.2.1 "0B101F".toList 'h' (by decide) (.inl rfl)).2
      ['0', 'B'] (by decide) ['1', '0', '1'] ['F'] rfl (List.all_eq_true.1 (by decide)) hend).2

end Midrange.Literal
