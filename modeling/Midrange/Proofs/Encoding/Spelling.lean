import Midrange.Proofs.Encoding.Fields

/-!
# Encoding spelled operands

Operands that spell the fields of an instruction are packed into just these fields, whatever the
switches say and whatever commas stand beside the operands.

* `SpellsDestination toFile name`: the three names of each destination.
* `Fields.SpelledBy fields operands`: the operands, in order, spell the fields.
* `encode_of_spelledBy`: the encoding of such operands succeeds and does not spill.
-/

namespace Midrange

/-- The names of the two destinations. -/
inductive SpellsDestination : Bool → List Char → Prop where
  /-- The file register. -/
  | file {name : List Char} (h : name = ['F'] ∨ name = ['f'] ∨ name = ['1']) :
      SpellsDestination true name
  /-- The working register. -/
  | work {name : List Char} (h : name = ['W'] ∨ name = ['w'] ∨ name = ['0']) :
      SpellsDestination false name

open Literal in
/-- Operand texts that spell the values of fields, in the order in which operands are written. -/
inductive Fields.SpelledBy : Fields → List (List Char) → Prop where
  | none : SpelledBy .none []
  | target {address : BitVec 11} {text : List Char} (h : Spells address.toNat text) :
      SpelledBy (.target address) [text]
  | literal {value : BitVec 8} {text : List Char} (h : Spells value.toNat text) :
      SpelledBy (.literal value) [text]
  | bit {file : BitVec 7} {number : BitVec 3} {text text' : List Char}
      (hfile : Spells file.toNat text) (hnumber : Spells number.toNat text') :
      SpelledBy (.bit file number) [text, text']
  | register {file : BitVec 7} {text : List Char} (h : Spells file.toNat text) :
      SpelledBy (.register file) [text]
  | destined {file : BitVec 7} {toFile : Bool} {text name : List Char}
      (hfile : Spells file.toNat text) (hname : SpellsDestination toFile name) :
      SpelledBy (.destined file toFile) [text, name]

/-- Every choice of fields can be spelled. -/
theorem Fields.exists_spelledBy (fields : Fields) : ∃ operands, fields.SpelledBy operands := by
  cases fields with
  | none => exact ⟨_, .none⟩
  | target address => exact ⟨_, .target (Literal.spells_toDigits _)⟩
  | literal value => exact ⟨_, .literal (Literal.spells_toDigits _)⟩
  | bit file number => exact ⟨_, .bit (Literal.spells_toDigits _) (Literal.spells_toDigits _)⟩
  | register file => exact ⟨_, .register (Literal.spells_toDigits _)⟩
  | destined file toFile =>
    cases toFile with
    | true => exact ⟨_, .destined (Literal.spells_toDigits _) (.file (.inl rfl))⟩
    | false => exact ⟨_, .destined (Literal.spells_toDigits _) (.work (.inl rfl))⟩

/-! ## Spellings are words -/

theorem SpellsDestination.isWord {toFile : Bool} {name : List Char}
    (h : SpellsDestination toFile name) : Text.IsWord name := by
  cases h with
  | file h => rcases h with rfl | rfl | rfl <;> decide
  | work h => rcases h with rfl | rfl | rfl <;> decide

theorem Fields.SpelledBy.isWord {fields : Fields} {operands : List (List Char)}
    (h : fields.SpelledBy operands) : ∀ text ∈ operands, Text.IsWord text := by
  cases h with
  | none => simp
  | target h | literal h | register h => simpa using h.isWord
  | bit hfile hnumber => simpa using ⟨hfile.isWord, hnumber.isWord⟩
  | destined hfile hname => simpa using ⟨hfile.isWord, hname.isWord⟩

/-! ## Encoding -/

namespace Encoding

theorem literal_of_spells (strictness : Strictness) {n : Nat} {text token : List Char}
    (h : Literal.Spells n text) (htoken : Literal.clean token = text) :
    literal strictness token = .ok (some (BitVec.ofNat 64 n)) := by
  unfold literal
  split_ifs
  · rw [h.exact_eq htoken]
    rfl
  · rw [h.value?_eq htoken]

/-- A value cut to the width that it came from. -/
theorem setWidth_value {n : Nat} (hn : n ≤ 64) (x : BitVec n) :
    (BitVec.ofNat 64 x.toNat).setWidth n = x := by
  rw [BitVec.setWidth_ofNat_of_le hn, BitVec.ofNat_toNat, BitVec.setWidth_eq]

theorem field_toNat {n : Nat} (hn : n ≤ 64) (x : BitVec n) :
    Literal.field ((BitVec.allOnes n).setWidth 16) (some (BitVec.ofNat 64 x.toNat)) =
      x.setWidth 16 := by
  rw [field_allOnes, Option.getD_some, setWidth_value hn]

theorem destination_of_spells (strictness : Strictness) {toFile : Bool} {name token : List Char}
    (h : SpellsDestination toFile name) (htoken : Literal.clean token = name) :
    destination strictness (some token) =
      .ok ((BitVec.ofBool toFile).setWidth 16 <<< 7, none) := by
  have hupper : Text.upper name = name.map Char.toUpper := h.isWord.upper_eq
  simp only [destination, htoken, hupper]
  cases h with
  | file h => rcases h with rfl | rfl | rfl <;> rfl
  | work h => rcases h with rfl | rfl | rfl <;> rfl

end Encoding

open Encoding in
/-- **Operands that spell fields are packed into these fields.** -/
theorem encode_of_spelledBy (strictness : Strictness) {format : Format} {fields : Fields}
    (hfits : fields.Fits format) {operands tokens : List (List Char)}
    (h : fields.SpelledBy operands) (htokens : tokens.map Literal.clean = operands) :
    encode strictness format tokens = .ok { word := format.opcode ||| fields.bits } := by
  unfold encode
  cases h with
  | none => simp [show format.category = _ from hfits, Fields.bits]
  | @target address text h =>
    obtain ⟨token, rfl, htoken⟩ := List.map_eq_singleton_iff.1 htokens
    simp only [show format.category = _ from hfits, List.getElem?_cons_zero, operand,
      literal_of_spells strictness h htoken, Fields.bits]
    rw [← field_toNat (by omega) address]
    rfl
  | @literal value text h =>
    obtain ⟨token, rfl, htoken⟩ := List.map_eq_singleton_iff.1 htokens
    simp only [show format.category = _ from hfits, List.getElem?_cons_zero, operand,
      literal_of_spells strictness h htoken, Fields.bits]
    rw [← field_toNat (by omega) value]
    rfl
  | @bit file number text text' hfile hnumber =>
    obtain ⟨token, rest, rfl, htoken, hrest⟩ := List.map_eq_cons_iff.1 htokens
    obtain ⟨token', rfl, htoken'⟩ := List.map_eq_singleton_iff.1 hrest
    simp only [show format.category = _ from hfits, List.getElem?_cons_zero,
      List.getElem?_cons_succ, operand, literal_of_spells strictness hfile htoken,
      literal_of_spells strictness hnumber htoken', Fields.bits]
    rw [← field_toNat (by omega) file, ← field_toNat (by omega) number]
    rfl
  | @register file text h =>
    obtain ⟨token, rfl, htoken⟩ := List.map_eq_singleton_iff.1 htokens
    simp only [hfits.1, if_neg hfits.2, List.getElem?_cons_zero, operand,
      literal_of_spells strictness h htoken, Fields.bits]
    rw [← field_toNat (by omega) file]
    rfl
  | @destined file toFile text name hfile hname =>
    obtain ⟨token, rest, rfl, htoken, hrest⟩ := List.map_eq_cons_iff.1 htokens
    obtain ⟨token', rfl, htoken'⟩ := List.map_eq_singleton_iff.1 hrest
    simp only [hfits.1, if_pos hfits.2, List.getElem?_cons_zero, List.getElem?_cons_succ, operand,
      literal_of_spells strictness hfile htoken, destination_of_spells strictness hname htoken',
      Fields.bits]
    -- The register is packed before the destination.
    rw [← field_toNat (by omega) file, BitVec.or_comm ((BitVec.ofBool toFile).setWidth 16 <<< 7),
      ← BitVec.or_assoc]
    rfl

end Midrange
