import Mathlib.Data.List.Pairwise
import Midrange.Encoding
import Midrange.Instruction.Table

/-!
# Instruction words and their fields

A word of the instruction set is an opcode with operand fields filled in. The two are kept apart by
the field mask of the instruction, and no word belongs to two instructions of the set.

* `Fields`: the values in the operand fields; `Fields.bits` packs them into a word.
* `Format.fieldMask` and `Format.extract`: where the fields of a format are, and what a word has
  there.
* `Instruction.decode`: the instruction and the fields of a word.
* `Instruction.decode_or_bits`: decoding undoes packing, for every instruction of the set.
-/

namespace Midrange

/-- The values in the operand fields of a word, by layout. -/
inductive Fields where
  /-- No field. -/
  | none
  /-- A program address. -/
  | target (address : BitVec 11)
  /-- An immediate value. -/
  | literal (value : BitVec 8)
  /-- A file register and a bit number. -/
  | bit (file : BitVec 7) (number : BitVec 3)
  /-- A file register. -/
  | register (file : BitVec 7)
  /-- A file register and whether the result goes there. -/
  | destined (file : BitVec 7) (toFile : Bool)
  deriving DecidableEq, Repr

namespace Fields

/-- The fields have the layout of a format. -/
def Fits : Fields → Format → Prop
  | .none, format => format.category = .inherent
  | .target _, format => format.category = .target
  | .literal _, format => format.category = .literal
  | .bit .., format => format.category = .bitOriented
  | .register _, format => format.category = .byteOriented ∧ format.operands ≠ 2
  | .destined .., format => format.category = .byteOriented ∧ format.operands = 2

/-- The fields as they stand in a word. -/
def bits : Fields → Word
  | .none => 0
  | .target address => address.setWidth 16
  | .literal value => value.setWidth 16
  | .bit file number => number.setWidth 16 <<< 7 ||| file.setWidth 16
  | .register file => file.setWidth 16
  | .destined file toFile => (BitVec.ofBool toFile).setWidth 16 <<< 7 ||| file.setWidth 16

end Fields

namespace Format

/-- The bits of a word that hold operand fields. -/
def fieldMask (format : Format) : Word :=
  match format.category with
  | .inherent => 0
  | .target => 0x7FF
  | .literal => 0xFF
  | .bitOriented => 0x3FF
  | .byteOriented => if format.operands = 2 then 0xFF else 0x7F

/-- What a word has in the operand fields of a format. -/
def extract (format : Format) (word : Word) : Fields :=
  match format.category with
  | .inherent => .none
  | .target => .target (word.setWidth 11)
  | .literal => .literal (word.setWidth 8)
  | .bitOriented => .bit (word.setWidth 7) (word.extractLsb' 7 3)
  | .byteOriented =>
    if format.operands = 2 then .destined (word.setWidth 7) (word.getLsbD 7)
    else .register (word.setWidth 7)

end Format

/-! ## Neighbouring fields -/

section Neighbours

variable {n m : Nat} (x : BitVec n) (y : BitVec m)

theorem shiftLeft_or_setWidth :
    (x.setWidth 16 <<< m ||| y.setWidth 16 : Word) = (x ++ y).setWidth 16 := by
  ext i hi
  simp only [BitVec.getElem_or, BitVec.getElem_shiftLeft, BitVec.getElem_setWidth,
    BitVec.getLsbD_append]
  by_cases h : i < m
  · simp [h]
  · simp [h, BitVec.getLsbD_of_ge y i (by omega)]

theorem setWidth_and_not_allOnes :
    (x.setWidth 16 : Word) &&& ~~~((BitVec.allOnes n).setWidth 16) = 0 := by
  ext i hi
  have hlt : x.getLsbD i = true → i < n := BitVec.lt_of_getLsbD
  simpa using hlt

theorem low_of_append (h : m ≤ 16) : ((x ++ y).setWidth 16 : Word).setWidth m = y := by
  ext i hi
  have h16 : i < 16 := by omega
  simp [BitVec.getLsbD_append, hi, h16]

theorem high_of_append (h : n + m ≤ 16) :
    ((x ++ y).setWidth 16 : Word).extractLsb' m n = x := by
  ext i hi
  have h16 : m + i < 16 := by omega
  simp [BitVec.getLsbD_append, hi, h16]

theorem next_of_append (h : m < 16) :
    ((x ++ y).setWidth 16 : Word).getLsbD m = x.getLsbD 0 := by
  simp [BitVec.getLsbD_append, h]

end Neighbours

/-! ## Packing and extracting -/

namespace Fields

theorem bits_and_not_fieldMask {fields : Fields} {format : Format} (h : fields.Fits format) :
    fields.bits &&& ~~~format.fieldMask = 0 := by
  cases fields with
  | none => simp [bits]
  | target address =>
    simp only [bits, Format.fieldMask, show format.category = _ from h]
    exact setWidth_and_not_allOnes address
  | literal value =>
    simp only [bits, Format.fieldMask, show format.category = _ from h]
    exact setWidth_and_not_allOnes value
  | bit file number =>
    simp only [bits, Format.fieldMask, show format.category = _ from h, shiftLeft_or_setWidth]
    exact setWidth_and_not_allOnes (number ++ file)
  | register file =>
    simp only [bits, Format.fieldMask, h.1, if_neg h.2]
    exact setWidth_and_not_allOnes file
  | destined file toFile =>
    simp only [bits, Format.fieldMask, h.1, if_pos h.2, shiftLeft_or_setWidth]
    exact setWidth_and_not_allOnes (BitVec.ofBool toFile ++ file)

theorem toNat_bits_lt (fields : Fields) : fields.bits.toNat < 0x4000 := by
  have hlt : ∀ {n : Nat} (x : BitVec n), n ≤ 14 → (x.setWidth 16 : Word).toNat < 0x4000 := by
    intro n x hn
    calc (x.setWidth 16 : Word).toNat ≤ x.toNat := by
          rw [BitVec.toNat_setWidth]; exact Nat.mod_le _ _
      _ < 2 ^ n := x.isLt
      _ ≤ 2 ^ 14 := Nat.pow_le_pow_right (by decide) hn
  cases fields with
  | none => decide
  | target address => exact hlt address (by decide)
  | literal value => exact hlt value (by decide)
  | bit file number =>
    rw [bits, shiftLeft_or_setWidth]
    exact hlt (number ++ file) (by decide)
  | register file => exact hlt file (by decide)
  | destined file toFile =>
    rw [bits, shiftLeft_or_setWidth]
    exact hlt (BitVec.ofBool toFile ++ file) (by decide)

end Fields

namespace Format

variable {format : Format}

theorem extract_bits {fields : Fields} (h : fields.Fits format) :
    format.extract fields.bits = fields := by
  cases fields with
  | none => simp only [extract, show format.category = _ from h]
  | target address =>
    simp only [extract, Fields.bits, show format.category = _ from h]
    simp
  | literal value =>
    simp only [extract, Fields.bits, show format.category = _ from h]
    simp
  | bit file number =>
    simp only [extract, Fields.bits, show format.category = _ from h, shiftLeft_or_setWidth]
    rw [low_of_append number file (by decide), high_of_append number file (by decide)]
  | register file =>
    simp only [extract, Fields.bits, h.1, if_neg h.2]
    simp
  | destined file toFile =>
    simp only [extract, Fields.bits, h.1, if_pos h.2, shiftLeft_or_setWidth]
    rw [low_of_append (BitVec.ofBool toFile) file (by decide),
      next_of_append (BitVec.ofBool toFile) file (by decide), BitVec.getLsbD_ofBool]
    simp

/-- A word with nothing in the fields of the format hides nothing there. -/
theorem extract_or {opcode : Word} (h : format.extract opcode = format.extract 0) (word : Word) :
    format.extract (opcode ||| word) = format.extract word := by
  unfold extract at h ⊢
  cases hc : format.category with
  | inherent => rfl
  | target | literal =>
    simp only [hc, Fields.target.injEq, Fields.literal.injEq] at h ⊢
    simp [BitVec.setWidth_or, h]
  | bitOriented =>
    simp only [hc, Fields.bit.injEq] at h ⊢
    simp [BitVec.setWidth_or, BitVec.extractLsb'_or, h.1, h.2]
  | byteOriented =>
    by_cases h2 : format.operands = 2
    · simp only [hc, if_pos h2, Fields.destined.injEq] at h ⊢
      rw [BitVec.setWidth_or, BitVec.getLsbD_or, h.1, h.2]
      simp
    · simp only [hc, if_neg h2, Fields.register.injEq] at h ⊢
      simp [BitVec.setWidth_or, h]

end Format

/-! ## The instruction set -/

namespace Instruction

/-- The instruction to which a word belongs, and what the word has in its fields. -/
def decode (word : Word) : Option (Instruction × Fields) :=
  (table.find? fun i => word &&& ~~~i.fieldMask == i.opcode).map fun i => (i, i.extract word)

theorem opcode_and_not_fieldMask : ∀ i ∈ table, i.opcode &&& ~~~i.fieldMask = i.opcode := by
  decide +kernel

theorem extract_opcode : ∀ i ∈ table, i.extract i.opcode = i.extract 0 := by
  decide +kernel

theorem toNat_opcode_lt : ∀ i ∈ table, i.opcode.toNat < 0x4000 := by
  decide +kernel

/-- Any two opcodes of the set differ outside the fields of both. -/
theorem pairwise_table :
    table.Pairwise fun i j => i.opcode &&& ~~~j.fieldMask ≠ j.opcode &&& ~~~i.fieldMask := by
  decide +kernel

/-- **No word belongs to two instructions.** -/
theorem eq_of_and_not_fieldMask {i j : Instruction} (hi : i ∈ table) (hj : j ∈ table) {word : Word}
    (hwi : word &&& ~~~i.fieldMask = i.opcode) (hwj : word &&& ~~~j.fieldMask = j.opcode) :
    i = j := by
  by_contra hne
  have hsymm : Std.Symm fun i j : Instruction =>
      i.opcode &&& ~~~j.fieldMask ≠ j.opcode &&& ~~~i.fieldMask := ⟨fun _ _ h => h.symm⟩
  refine pairwise_table.forall hi hj hne ?_
  calc i.opcode &&& ~~~j.fieldMask = word &&& (~~~i.fieldMask &&& ~~~j.fieldMask) := by
        rw [← hwi, BitVec.and_assoc]
    _ = word &&& ~~~j.fieldMask &&& ~~~i.fieldMask := by
        rw [BitVec.and_comm (~~~i.fieldMask), BitVec.and_assoc]
    _ = j.opcode &&& ~~~i.fieldMask := by rw [hwj]

variable {i : Instruction} (hi : i ∈ table) {fields : Fields} (h : fields.Fits i.toFormat)

include hi h

theorem or_bits_and_not_fieldMask : (i.opcode ||| fields.bits) &&& ~~~i.fieldMask = i.opcode := by
  rw [BitVec.and_or_distrib_right, opcode_and_not_fieldMask i hi, Fields.bits_and_not_fieldMask h]
  simp

/-- **Decoding undoes packing.** -/
theorem decode_or_bits : decode (i.opcode ||| fields.bits) = some (i, fields) := by
  have hword := or_bits_and_not_fieldMask hi h
  have hextract : i.extract (i.opcode ||| fields.bits) = fields := by
    rw [Format.extract_or (extract_opcode i hi), Format.extract_bits h]
  unfold decode
  cases hfind : table.find? fun j =>
      (i.opcode ||| fields.bits) &&& ~~~j.fieldMask == j.opcode with
  | none => exact absurd hword (by simpa using List.find?_eq_none.1 hfind i hi)
  | some j =>
    have hj : (i.opcode ||| fields.bits) &&& ~~~j.fieldMask = j.opcode := by
      simpa using List.find?_some hfind
    obtain rfl := eq_of_and_not_fieldMask hi (List.mem_of_find?_eq_some hfind) hword hj
    simp [hextract]

end Instruction

end Midrange
