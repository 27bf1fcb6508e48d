import Midrange.Event
import Midrange.Proofs.Basic
import Midrange.Proofs.Instruction.Decode
import Midrange.Proofs.Literal.Numeral

/-!
# What an encoding packs

Unless a destination spills, an encoded word is the opcode with the operands in its fields, each cut
to the width of its field. So the word can be taken apart again.

* `Encoding.operandFields`: the fields that operand tokens stand for. No word is involved.
* `Encoding.word_eq_or_bits`: an encoding without a spill packs just these fields.
* `encode_uniquely_decodable`: the instruction and the fields can be read off the word, and a word
  from which they cannot be read off was warned about.
-/

namespace Midrange

namespace Encoding

/-! ## The fields of operand tokens -/

/-- The value of the operand at a place; 0 if it is absent or not a number. -/
def operandValue (operands : List (List Char)) (place : Nat) : Literal.Value :=
  (operands[place]?.bind Literal.value?).getD 0

/-- Whether a destination sends the result to the file register: it is `F`, or its decimal value is
1. -/
def toFile : Option (List Char) → Bool
  | none => false
  | some token =>
    let name := Text.upper (Literal.clean token)
    name = ['F'] ∨ (Literal.scan 10 name).map (·.value) = some 1

/-- The fields that operand tokens stand for, each value cut to the width of its field. -/
def operandFields (format : Format) (operands : List (List Char)) : Fields :=
  match format.category with
  | .inherent => .none
  | .target => .target ((operandValue operands 0).setWidth 11)
  | .literal => .literal ((operandValue operands 0).setWidth 8)
  | .bitOriented =>
    .bit ((operandValue operands 0).setWidth 7) ((operandValue operands 1).setWidth 3)
  | .byteOriented =>
    if format.operands = 2 then
      .destined ((operandValue operands 0).setWidth 7) (toFile operands[1]?)
    else .register ((operandValue operands 0).setWidth 7)

theorem fits_operandFields (format : Format) (operands : List (List Char)) :
    (operandFields format operands).Fits format := by
  unfold operandFields
  cases hc : format.category with
  | inherent | target | literal | bitOriented => exact hc
  | byteOriented =>
    dsimp only
    split_ifs with h2
    · exact ⟨hc, h2⟩
    · exact ⟨hc, h2⟩

/-! ## Encodings without a spill -/

variable {strictness : Strictness}

theorem literal_eq_ok {token : List Char} {value : Option Literal.Value}
    (h : literal strictness token = .ok value) : value = Literal.value? token := by
  unfold literal at h
  split_ifs at h with hs
  · cases hexact : Literal.exact token with
    | error fault => simp [hexact, Except.map] at h
    | ok v =>
      rw [Literal.value?_of_exact hexact]
      simpa [hexact, Except.map] using h.symm
  · simpa using h.symm

theorem operand_eq_ok {operands : List (List Char)} {place : Nat} {value : Option Literal.Value}
    (h : operand strictness operands[place]? = .ok value) :
    value.getD 0 = operandValue operands place := by
  unfold operandValue
  cases hp : operands[place]? with
  | none => simp [hp, operand] at h
  | some token =>
    rw [hp] at h
    rw [literal_eq_ok h, Option.bind_some]

theorem field_allOnes (n : Nat) (value : Option Literal.Value) :
    Literal.field ((BitVec.allOnes n).setWidth 16) value =
      ((value.getD 0).setWidth n).setWidth 16 := by
  cases value with
  | none => simp [Literal.field]
  | some v =>
    simp only [Literal.field, Option.getD_some]
    ext i hi
    simp [Bool.and_comm]

theorem destination_eq_ok {token : Option (List Char)} {bits : Word}
    (h : destination strictness token = .ok (bits, none)) :
    bits = (BitVec.ofBool (toFile token)).setWidth 16 <<< 7 := by
  cases token with
  | none =>
    obtain rfl : (0 : Word) = bits := by simpa [destination] using h
    rfl
  | some token =>
    simp only [destination, toFile] at h ⊢
    generalize Text.upper (Literal.clean token) = name at h ⊢
    split_ifs at h with hfile hwork
    · obtain ⟨rfl, -⟩ : destinationBits 1 = bits ∧ True := by simpa using h
      rcases hfile with rfl | rfl <;> decide
    · obtain ⟨rfl, -⟩ : destinationBits 0 = bits ∧ True := by simpa using h
      rcases hwork with rfl | rfl <;> decide
    · cases hscan : Literal.scan 10 name with
      | none =>
        obtain rfl : (0 : Word) = bits := by simpa [hscan] using h
        have hF : name ≠ ['F'] := fun hname => hfile (.inl hname)
        simp [hF]
      | some reading =>
        simp only [hscan, Except.ok.injEq, Prod.mk.injEq] at h
        obtain ⟨rfl, hspill⟩ := h
        have hF : name ≠ ['F'] := fun hname => hfile (.inl hname)
        have hvalue : reading.value = 0 ∨ reading.value = 1 := by
          by_contra hodd
          rw [if_neg hodd] at hspill
          cases hspill
        rcases hvalue with hvalue | hvalue
        · simp [hvalue, hF]
          decide
        · simp [hvalue, hF]
          decide

theorem destination_spill_eq_none (hs : strictness.destination = true) {token : Option (List Char)}
    {bits : Word} {spill : Option Spill} (h : destination strictness token = .ok (bits, spill)) :
    spill = none := by
  cases token with
  | none =>
    simp only [destination, Except.ok.injEq, Prod.mk.injEq] at h
    exact h.2.symm
  | some token =>
    simp only [destination, hs, if_true] at h
    split_ifs at h <;> simp_all

/-- **What an encoding can be.** It packs the fields of its operands, unless a destination is to be
packed, which may spill. -/
theorem encode_cases {format : Format} {operands : List (List Char)} {encoded : Encoded}
    (h : encode strictness format operands = .ok encoded) :
    (format.category = .byteOriented → format.operands ≠ 2) ∧
        encoded = { word := format.opcode ||| (operandFields format operands).bits } ∨
      format.category = .byteOriented ∧ format.operands = 2 ∧
        ∃ bits, destination strictness operands[1]? = .ok (bits, encoded.spill) ∧
          encoded.word = format.opcode |||
            (bits ||| ((operandValue operands 0).setWidth 7).setWidth 16) := by
  unfold encode at h
  unfold operandFields
  cases hc : format.category with
  | inherent =>
    simp only [hc, Except.ok.injEq] at h
    simp [← h, Fields.bits]
  | target =>
    simp only [hc, bind_eq_ok_iff] at h
    obtain ⟨address, haddress, hword⟩ := h
    rw [← Except.ok.inj hword, Fields.bits, ← operand_eq_ok haddress, ← field_allOnes]
    exact .inl ⟨by simp, rfl⟩
  | literal =>
    simp only [hc, bind_eq_ok_iff] at h
    obtain ⟨value, hvalue, hword⟩ := h
    rw [← Except.ok.inj hword, Fields.bits, ← operand_eq_ok hvalue, ← field_allOnes]
    exact .inl ⟨by simp, rfl⟩
  | bitOriented =>
    simp only [hc, bind_eq_ok_iff] at h
    obtain ⟨register, hregister, number, hnumber, hword⟩ := h
    rw [← Except.ok.inj hword, Fields.bits, ← operand_eq_ok hregister, ← operand_eq_ok hnumber,
      ← field_allOnes, ← field_allOnes]
    exact .inl ⟨by simp, rfl⟩
  | byteOriented =>
    simp only [hc, bind_eq_ok_iff] at h
    obtain ⟨register, hregister, hword⟩ := h
    rw [← operand_eq_ok hregister, ← field_allOnes]
    split_ifs at hword with h2
    · obtain ⟨⟨bits, spill⟩, hdestination, hword⟩ := bind_eq_ok_iff.1 hword
      obtain rfl := Except.ok.inj hword
      refine .inr ⟨rfl, h2, bits, hdestination, ?_⟩
      rw [BitVec.or_comm bits, ← BitVec.or_assoc]
      rfl
    · obtain rfl := Except.ok.inj hword
      dsimp only
      rw [if_neg h2, Fields.bits, ← field_allOnes]
      exact .inl ⟨fun _ => h2, rfl⟩

/-- An encoding without a spill is the opcode with the fields of its operands. -/
theorem word_eq_or_bits {format : Format} {operands : List (List Char)} {encoded : Encoded}
    (h : encode strictness format operands = .ok encoded) (hspill : encoded.spill = none) :
    encoded.word = format.opcode ||| (operandFields format operands).bits := by
  rcases encode_cases h with ⟨-, rfl⟩ | ⟨hc, h2, bits, hdestination, hword⟩
  · rfl
  · rw [hspill] at hdestination
    rw [hword, destination_eq_ok hdestination, operandFields, hc]
    simp only [if_pos h2, Fields.bits]

/-- A strict destination never spills. -/
theorem spill_eq_none (hs : strictness.destination = true) {format : Format}
    {operands : List (List Char)} {encoded : Encoded}
    (h : encode strictness format operands = .ok encoded) : encoded.spill = none := by
  rcases encode_cases h with ⟨-, rfl⟩ | ⟨-, -, bits, hdestination, -⟩
  · rfl
  · exact destination_spill_eq_none hs hdestination

end Encoding

open Encoding Instruction in
/-- An encoding without a spill decodes to the instruction and the fields that it was made from. -/
theorem decode_of_encode {strictness : Strictness} {i : Instruction} (hi : i ∈ table)
    {operands : List (List Char)} {encoded : Encoded}
    (h : encode strictness i.toFormat operands = .ok encoded) (hspill : encoded.spill = none) :
    encoded.word.toNat < 0x4000 ∧ encoded.word &&& ~~~i.fieldMask = i.opcode ∧
      decode encoded.word = some (i, operandFields i.toFormat operands) := by
  have hfits := fits_operandFields i.toFormat operands
  rw [word_eq_or_bits h hspill]
  refine ⟨?_, or_bits_and_not_fieldMask hi hfits, decode_or_bits hi hfits⟩
  rw [BitVec.toNat_or]
  exact Nat.or_lt_two_pow (n := 14) (toNat_opcode_lt i hi) (Fields.toNat_bits_lt _)

open Encoding Instruction in
/-- **Words are uniquely decodable unless a destination spilled.** The word of an instruction of the
set has 14 bits and its opcode outside its fields, instruction and fields can be read off it, and
so two equal words are of one instruction with the same fields. A word of which this fails comes
with the warning that a destination was not masked, and a strict destination never does. -/
theorem encode_uniquely_decodable (strictness : Strictness) :
    (∀ i ∈ table, ∀ operands encoded, encode strictness i.toFormat operands = .ok encoded →
      (strictness.destination = true → encoded.spill = none) ∧
      (encoded.spill = none →
        encoded.word.toNat < 0x4000 ∧ encoded.word &&& ~~~i.fieldMask = i.opcode ∧
          decode encoded.word = some (i, operandFields i.toFormat operands)) ∧
      (0x4000 ≤ encoded.word.toNat ∨ encoded.word &&& ~~~i.fieldMask ≠ i.opcode →
        ∃ spill, Line.instruction strictness i.toFormat operands =
            { outcome := .emitted encoded.word, warning := some (.destinationSpill spill) } ∧
          ∀ line, (Event.warned line (.destinationSpill spill)).record.message =
            "destination outside 0/1 is not masked")) ∧
    ∀ i₁ ∈ table, ∀ i₂ ∈ table, ∀ operands₁ operands₂ encoded₁ encoded₂,
      encode strictness i₁.toFormat operands₁ = .ok encoded₁ →
      encode strictness i₂.toFormat operands₂ = .ok encoded₂ →
      encoded₁.spill = none → encoded₂.spill = none → encoded₁.word = encoded₂.word →
        i₁ = i₂ ∧ operandFields i₁.toFormat operands₁ = operandFields i₂.toFormat operands₂ := by
  refine ⟨fun i hi operands encoded h => ⟨fun hs => spill_eq_none hs h, decode_of_encode hi h,
    fun hbad => ?_⟩, ?_⟩
  · cases hspill : encoded.spill with
    | none =>
      obtain ⟨hlt, hopcode, -⟩ := decode_of_encode hi h hspill
      rcases hbad with hge | hne
      · omega
      · exact absurd hopcode hne
    | some spill => exact ⟨spill, by simp [Line.instruction, h, hspill], fun _ => rfl⟩
  · intro i₁ hi₁ i₂ hi₂ operands₁ operands₂ encoded₁ encoded₂ h₁ h₂ hspill₁ hspill₂ hword
    obtain ⟨-, -, hdecode₁⟩ := decode_of_encode hi₁ h₁ hspill₁
    obtain ⟨-, -, hdecode₂⟩ := decode_of_encode hi₂ h₂ hspill₂
    rw [hword, hdecode₂] at hdecode₁
    simpa [eq_comm] using hdecode₁

open Instruction in
/-- `MOVF` to destination 2 makes a word of `COMF`, and says so; `ADDWF` to `F` can be read back. -/
theorem encode_uniquely_decodable_movf :
    (∃ spill, Line.instruction {} ⟨0x0800, 2, .byteOriented⟩ ["0x0C,".toList, "2".toList] =
      { outcome := .emitted 0x090C, warning := some (.destinationSpill spill) }) ∧
    decode 0x078C =
      some (⟨⟨0x0700, 2, .byteOriented⟩, "ADDWF", "Sumar W y f"⟩, .destined 0x0C true) := by
  have hspill := ((encode_uniquely_decodable {}).1
    ⟨⟨0x0800, 2, .byteOriented⟩, "MOVF", "Mover f a destino"⟩ (by decide)
    ["0x0C,".toList, "2".toList] ⟨0x090C, some ⟨['2'], 2⟩⟩ (by decide)).2.2 (.inr (by decide))
  have hread := ((encode_uniquely_decodable .full).1
    ⟨⟨0x0700, 2, .byteOriented⟩, "ADDWF", "Sumar W y f"⟩ (by decide)
    ["0x0C,".toList, "F".toList] ⟨0x078C, none⟩ (by decide)).2.1 rfl
  obtain ⟨spill, hline, -⟩ := hspill
  exact ⟨⟨spill, hline⟩, hread.2.2⟩

end Midrange
