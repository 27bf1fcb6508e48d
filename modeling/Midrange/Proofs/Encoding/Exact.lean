import Midrange.Proofs.Line.Head
import Midrange.Proofs.Literal.Parts

/-!
# Encoding in exact arithmetic

Values wrap at 64 bits, are masked, shifted and cut to a word. None of this shows: a word is what
exact arithmetic on the integers of its operands gives modulo the widths of its fields, however
long the operands are. Remainders are never negative, so a negative operand counts in two's
complement.

* `Encoding.operandInteger`, `Encoding.destinationInteger`: the integers of operands.
* `Encoding.exactField`: what the operands contribute to a word, without a bit vector.
* `encode_exact`: every word, and every address that a line sets, is the one of exact arithmetic.
-/

namespace Midrange

/-- A value that wrapped is cut like the integer that it stands for. -/
theorem setWidth_ofInt {n w : Nat} (h : n ≤ w) (z : Int) :
    (BitVec.ofInt w z).setWidth n = BitVec.ofInt n z := by
  apply BitVec.eq_of_toNat_eq
  rw [BitVec.toNat_setWidth, BitVec.toNat_ofInt, BitVec.toNat_ofInt]
  have hdvd : ((2 ^ n : Nat) : Int) ∣ ((2 ^ w : Nat) : Int) :=
    Int.natCast_dvd_natCast.2 (Nat.pow_dvd_pow 2 h)
  have hpos : 0 < 2 ^ w := Nat.two_pow_pos w
  have hnonneg : 0 ≤ z % ((2 ^ w : Nat) : Int) := Int.emod_nonneg _ (by omega)
  rw [← Int.emod_emod_of_dvd z hdvd, Int.toNat_emod hnonneg (Int.natCast_nonneg _),
    Int.toNat_natCast]

namespace Encoding

open Literal (integer leading)

/-! ## The integers of operands -/

/-- The integer of the operand at a place; 0 if it is absent. -/
def operandInteger (operands : List (List Char)) (place : Nat) : Int :=
  integer (operands[place]?.getD [])

/-- The integer of a destination: its name says it, or the decimal digits that it starts with. -/
def destinationInteger : Option (List Char) → Int
  | none => 0
  | some token =>
    let name := Text.upper (Literal.clean token)
    if name = ['F'] ∨ name = ['1'] then 1
    else if name = ['W'] ∨ name = ['0'] then 0
    else leading 10 name

/-- What the operands contribute to the word of a format. -/
def exactField (format : Format) (operands : List (List Char)) : Nat :=
  match format.category with
  | .inherent => 0
  | .target => (operandInteger operands 0 % 2048).toNat
  | .literal => (operandInteger operands 0 % 256).toNat
  | .bitOriented =>
    (operandInteger operands 1 % 8).toNat * 128 ||| (operandInteger operands 0 % 128).toNat
  | .byteOriented =>
    if format.operands = 2 then
      (operandInteger operands 0 % 128).toNat |||
        (destinationInteger operands[1]? % 512).toNat * 128 % 65536
    else (operandInteger operands 0 % 128).toNat

/-! ## Fields -/

variable {strictness : Strictness} {operands : List (List Char)}

theorem operandValue_eq (operands : List (List Char)) (place : Nat) :
    operandValue operands place = BitVec.ofInt 64 (operandInteger operands place) := by
  unfold operandValue operandInteger
  cases operands[place]? with
  | none => decide
  | some token => exact Literal.value?_getD token

/-- A field holds the integer of its operand modulo the width of the field. -/
theorem toNat_field (operands : List (List Char)) (place : Nat) {n : Nat} (hn : n ≤ 16) :
    (((operandValue operands place).setWidth n).setWidth 16).toNat =
      (operandInteger operands place % (2 ^ n : Nat)).toNat := by
  rw [operandValue_eq, setWidth_ofInt (by omega), BitVec.toNat_setWidth_of_le hn,
    BitVec.toNat_ofInt]

theorem toNat_destinationBits (z : Int) :
    (destinationBits (BitVec.ofInt 64 z)).toNat = (z % 512).toNat * 128 % 65536 := by
  have hshift : BitVec.ofInt 64 z <<< fieldShift = BitVec.ofInt 64 (z * 128) := by
    rw [BitVec.ofInt_mul, BitVec.shiftLeft_eq_mul_twoPow]
    rfl
  rw [destinationBits, hshift, setWidth_ofInt (by omega), BitVec.toNat_ofInt]
  change (z * 128 % 65536).toNat = _
  omega

theorem destinationBits_eq {token : Option (List Char)} {bits : Word} {spill : Option Spill}
    (h : destination strictness token = .ok (bits, spill)) :
    bits = destinationBits (BitVec.ofInt 64 (destinationInteger token)) := by
  cases token with
  | none =>
    obtain ⟨rfl, -⟩ : (0 : Word) = bits ∧ none = spill := by simpa [destination] using h
    decide
  | some token =>
    simp only [destination, destinationInteger] at h ⊢
    generalize Text.upper (Literal.clean token) = name at h ⊢
    split_ifs at h ⊢
    · exact (congrArg Prod.fst (Except.ok.inj h)).symm
    · exact (congrArg Prod.fst (Except.ok.inj h)).symm
    · have hvalue := Literal.scan_getD 10 name
      cases hscan : Literal.scan 10 name with
      | none =>
        obtain ⟨rfl, -⟩ : (0 : Word) = bits ∧ none = spill := by simpa [hscan] using h
        rw [← hvalue, hscan]
        decide
      | some reading =>
        rw [hscan] at h
        rw [← hvalue, hscan]
        exact (congrArg Prod.fst (Except.ok.inj h)).symm

/-! ## Words -/

/-- Fields without a destination are those of exact arithmetic. -/
theorem toNat_bits_operandFields {format : Format}
    (h : format.category = .byteOriented → format.operands ≠ 2) :
    (operandFields format operands).bits.toNat = exactField format operands := by
  unfold operandFields exactField
  cases hc : format.category with
  | inherent => rfl
  | target => exact toNat_field operands 0 (n := 11) (by omega)
  | literal => exact toNat_field operands 0 (n := 8) (by omega)
  | bitOriented =>
    have hnumber := toNat_field operands 1 (n := 3) (by omega)
    have hshift : (((operandValue operands 1).setWidth 3).setWidth 16 <<< 7 : Word).toNat =
        (operandInteger operands 1 % 8).toNat * 128 := by
      rw [BitVec.toNat_shiftLeft, hnumber, Nat.shiftLeft_eq]
      change (operandInteger operands 1 % 8).toNat * 128 % 65536 = _
      omega
    dsimp only
    rw [Fields.bits, BitVec.toNat_or, hshift, toNat_field operands 0 (by omega)]
    rfl
  | byteOriented =>
    simp only [if_neg (h hc)]
    exact toNat_field operands 0 (n := 7) (by omega)

/-- **A word is its opcode with the fields of exact arithmetic.** -/
theorem toNat_word {format : Format} {encoded : Encoded}
    (h : encode strictness format operands = .ok encoded) :
    encoded.word.toNat = format.opcode.toNat ||| exactField format operands := by
  rcases encode_cases h with ⟨hplain, rfl⟩ | ⟨hc, h2, bits, hdestination, hword⟩
  · rw [BitVec.toNat_or, toNat_bits_operandFields hplain]
  · -- The destination has no field that it is cut to, and may reach into the opcode.
    have hfield : exactField format operands = (operandInteger operands 0 % 128).toNat |||
        (destinationInteger operands[1]? % 512).toNat * 128 % 65536 := by
      simp only [exactField, hc, if_pos h2]
    rw [hword, BitVec.toNat_or, BitVec.toNat_or, destinationBits_eq hdestination,
      toNat_destinationBits, toNat_field operands 0 (by omega), Nat.or_comm _ (Int.toNat _), hfield]
    rfl

end Encoding

namespace Line

variable {strictness : Strictness}

/-- The address that an `ORG` line sets is the integer of its argument, cut to a word. -/
theorem address_eq {argument : List Char} {address : Word}
    (h : (origin strictness argument).outcome = .origin address) :
    address.toNat = (Literal.integer argument % 65536).toNat := by
  have hvalue : address = ((Literal.value? argument).getD 0).setWidth 16 := by
    unfold origin at h
    split_ifs at h
    · cases hexact : Literal.exact argument with
      | error fault => simp [hexact] at h
      | ok value =>
        rw [Literal.value?_of_exact hexact]
        simpa [hexact] using h.symm
    · cases hread : Literal.value? argument with
      | none => simpa [hread] using h.symm
      | some value => simpa [hread] using h.symm
  rw [hvalue, Literal.value?_getD, setWidth_ofInt (by omega), BitVec.toNat_ofInt]
  rfl

end Line

open Encoding in
/-- **Words and addresses are those of exact arithmetic**, for operands of any size. The integer of
a token is that of its sign and its longest run of digits in the base that it selects. The word of
any format is its opcode with the integers of the operands, each modulo the width of its field; a
destination is cut at the word only. The address that a line sets is the integer of its argument
modulo the width of a word. -/
theorem encode_exact (strictness : Strictness) :
    (∀ token radix text (parts : Literal.Parts radix text),
      Literal.selectBase (Literal.clean token) = (radix, text) →
        Literal.integer token = parts.sign.apply (Literal.positional radix parts.digits)) ∧
    (∀ format operands encoded, encode strictness format operands = .ok encoded →
      encoded.word.toNat = format.opcode.toNat ||| exactField format operands) ∧
    ∀ line address, (Line.assemble strictness line).outcome = .origin address →
      ∃ first rest, Line.tokens line = first :: rest ∧ Text.upper first = ['O', 'R', 'G'] ∧
        address.toNat = (Literal.integer (rest.head?.getD []) % 65536).toNat := by
  refine ⟨fun token radix text parts h => Literal.integer_eq parts h,
    fun format operands encoded h => toNat_word h, fun line address h => ?_⟩
  unfold Line.assemble at h
  cases htokens : Line.tokens line with
  | nil => simp [htokens, Line.assembleTokens] at h
  | cons first rest =>
    rw [htokens, Line.outcome_eq_origin_iff] at h
    exact ⟨first, rest, rfl, h.1, Line.address_eq h.2⟩

open Encoding in
/-- A register beyond 64 bits with a negative destination, and a negative address. -/
theorem encode_exact_wrapping :
    Literal.integer "-0x10h".toList = Literal.Sign.minus.apply (Literal.positional 16 ['1', '0']) ∧
    (0xFED2 : Word).toNat = (0x0800 : Word).toNat ||| exactField ⟨0x0800, 2, .byteOriented⟩
      ["123456789012345678901234567890".toList, "-3".toList] ∧
    ∃ first rest, Line.tokens "org -0x10h".toList = first :: rest ∧
      Text.upper first = ['O', 'R', 'G'] ∧
        (0xFFF0 : Word).toNat = (Literal.integer (rest.head?.getD []) % 65536).toNat := by
  obtain ⟨hinteger, hword, horigin⟩ := encode_exact {}
  refine ⟨?_, ?_, ?_⟩
  · exact hinteger "-0x10h".toList 16 "-0x10".toList (.of 16 "-0x10".toList) (by decide)
  · exact hword ⟨0x0800, 2, .byteOriented⟩ _ ⟨0xFED2, some ⟨"-3".toList, -3⟩⟩ (by decide +kernel)
  · exact horigin "org -0x10h".toList 0xFFF0 (by decide)

end Midrange
