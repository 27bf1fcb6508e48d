import Mathlib.Tactic.MkIffOfInductiveProp
import Midrange.Proofs.Encoding.Fields
import Midrange.Proofs.Literal.Grammar

/-!
# What is refused of an instruction

Which operands an instruction refuses, and with which fault. Operands are checked from left to
right, and the first check that fails decides; tokens that the format has no use for are not looked
at.

* `Literal.IsLiteral token`: the token is a literal from end to end, by the grammar of literals.
* `RejectsOperand`, `RejectsDestination`: the check of a numeric operand and that of a destination.
  `Rejects` puts them in order for every format.
* `Encoding.encode_eq_error_iff`: an encoding fails with just the fault of the first check that
  fails.
* `Encoding.encode_take`: an encoding looks at the operands of its format only.
* `encode_rejects_iff`: both, and what follows for a destination.
-/

namespace Midrange

/-- The token is a literal from end to end. -/
def Literal.IsLiteral (token : List Char) : Prop :=
  ∃ z, Denotes z (clean token)

namespace Literal

theorem isLiteral_iff {token : List Char} : IsLiteral token ↔ ∃ value, exact token = .ok value := by
  simp only [exact_eq_ok_iff, read_complete_iff]
  constructor
  · rintro ⟨z, hz⟩
    exact ⟨_, z, hz, rfl⟩
  · rintro ⟨value, z, hz, -⟩
    exact ⟨z, hz⟩

theorem exact_eq_error_iff {token : List Char} {fault : Fault} :
    exact token = .error fault ↔ ¬IsLiteral token ∧ fault = .invalidLiteral (clean token) := by
  rw [isLiteral_iff]
  constructor
  · intro h
    have hnone : ¬∃ value, exact token = .ok value := by
      rintro ⟨value, hvalue⟩
      simp [h] at hvalue
    refine ⟨hnone, ?_⟩
    rw [exact_eq_error hnone] at h
    exact (Except.error.inj h).symm
  · rintro ⟨hnone, rfl⟩
    exact exact_eq_error hnone

end Literal

/-! ## The checks -/

namespace Encoding

variable {strictness : Strictness}

/-- The check of a numeric operand. -/
inductive RejectsOperand (strictness : Strictness) : Option (List Char) → Fault → Prop where
  /-- The operand is absent. -/
  | missing : RejectsOperand strictness none .missingOperand
  /-- Literals are strict, and the operand is none. -/
  | malformed {token : List Char} (hstrict : strictness.literals = true)
      (h : ¬Literal.IsLiteral token) :
      RejectsOperand strictness (some token) (.invalidLiteral (Literal.clean token))

/-- The check of a destination. An absent one is never refused. -/
inductive RejectsDestination (strictness : Strictness) : Option (List Char) → Fault → Prop where
  /-- Destinations are strict, and the token names none. -/
  | unknown {token name : List Char} (hname : name = Text.upper (Literal.clean token))
      (hstrict : strictness.destination = true) (h : name ∉ [['F'], ['W'], ['0'], ['1']]) :
      RejectsDestination strictness (some token) (.invalidDestination name)

/-- The first check that fails, in the order in which the operands of a format are looked at. -/
@[mk_iff]
inductive Rejects (strictness : Strictness) (format : Format) (operands : List (List Char))
    (fault : Fault) : Prop where
  /-- The first operand of a format that has one. -/
  | first (h : format.category ≠ .inherent) (hfirst : RejectsOperand strictness operands[0]? fault)
  /-- The bit number, behind a register that is accepted. -/
  | bit (h : format.category = .bitOriented)
      (hfirst : ∀ fault, ¬RejectsOperand strictness operands[0]? fault)
      (hsecond : RejectsOperand strictness operands[1]? fault)
  /-- The destination, behind a register that is accepted. -/
  | destination (h : format.category = .byteOriented) (hoperands : format.operands = 2)
      (hfirst : ∀ fault, ¬RejectsOperand strictness operands[0]? fault)
      (hsecond : RejectsDestination strictness operands[1]? fault)

theorem RejectsOperand.ne_unknown {token : Option (List Char)} {fault : Fault}
    (h : RejectsOperand strictness token fault) (name : List Char) :
    fault ≠ .unknownMnemonic name := by
  cases h <;> simp

theorem RejectsDestination.exists_eq {token : Option (List Char)} {fault : Fault}
    (h : RejectsDestination strictness token fault) : ∃ name, fault = .invalidDestination name := by
  cases h
  exact ⟨_, rfl⟩

theorem operand_eq_error_iff {token : Option (List Char)} {fault : Fault} :
    operand strictness token = .error fault ↔ RejectsOperand strictness token fault := by
  cases token with
  | none =>
    constructor
    · intro h
      obtain rfl := Except.error.inj h
      exact .missing
    · rintro ⟨⟩
      rfl
  | some token =>
    have hliteral : operand strictness (some token) = .error fault ↔
        strictness.literals = true ∧ Literal.exact token = .error fault := by
      simp only [operand, literal]
      split_ifs with hstrict
      · cases Literal.exact token <;> simp [Except.map, hstrict]
      · simp [hstrict]
    rw [hliteral, Literal.exact_eq_error_iff]
    constructor
    · rintro ⟨hstrict, h, rfl⟩
      exact .malformed hstrict h
    · rintro (_ | ⟨hstrict, h⟩)
      exact ⟨hstrict, h, rfl⟩

/-- An operand is read just if its check does not fail. -/
theorem exists_operand_eq_ok_iff {token : Option (List Char)} :
    (∃ value, operand strictness token = .ok value) ↔
      ∀ fault, ¬RejectsOperand strictness token fault := by
  simp only [← operand_eq_error_iff]
  cases operand strictness token <;> simp

theorem destination_eq_error_iff {token : Option (List Char)} {fault : Fault} :
    destination strictness token = .error fault ↔ RejectsDestination strictness token fault := by
  cases token with
  | none =>
    constructor
    · intro h
      cases h
    · rintro ⟨⟩
  | some token =>
    simp only [destination]
    constructor
    · intro h
      split_ifs at h with hfile hwork hstrict
      · obtain rfl := Except.error.inj h
        refine .unknown rfl hstrict ?_
        simp_all
      · cases hscan : Literal.scan 10 (Text.upper (Literal.clean token)) <;> simp [hscan] at h
    · rintro ⟨rfl, hstrict, hname⟩
      simp_all

/-! ## Encodings -/

/-- How many operands a format looks at. -/
def used (format : Format) : Nat :=
  match format.category with
  | .inherent => 0
  | .target | .literal => 1
  | .bitOriented => 2
  | .byteOriented => if format.operands = 2 then 2 else 1

/-- **An encoding fails with the fault of the first check that fails**, and with no other. -/
theorem encode_eq_error_iff {format : Format} {operands : List (List Char)} {fault : Fault} :
    encode strictness format operands = .error fault ↔
      Rejects strictness format operands fault := by
  -- An operand that was read leaves the next check to decide.
  rw [rejects_iff]
  simp only [← exists_operand_eq_ok_iff]
  unfold encode
  cases hc : format.category with
  | inherent => simp
  | target | literal | bitOriented =>
    simp [bind_eq_error_iff, operand_eq_error_iff, pure, Except.pure]
  | byteOriented =>
    simp only [bind_eq_error_iff, operand_eq_error_iff]
    split_ifs with h2
    · simp [bind_eq_error_iff, destination_eq_error_iff, h2, pure, Except.pure]
    · simp [h2, pure, Except.pure]

/-- An encoding that does not fail succeeds. -/
theorem exists_encode_eq_ok_iff {format : Format} {operands : List (List Char)} :
    (∃ encoded, encode strictness format operands = .ok encoded) ↔
      ∀ fault, ¬Rejects strictness format operands fault := by
  simp only [← encode_eq_error_iff]
  cases encode strictness format operands <;> simp

/-- **An encoding looks at the operands of its format only.** -/
theorem encode_take (format : Format) (operands : List (List Char)) :
    encode strictness format (operands.take (used format)) =
      encode strictness format operands := by
  unfold encode used
  cases format.category with
  | inherent => rfl
  | target | literal | bitOriented => simp
  | byteOriented =>
    dsimp only
    split_ifs <;> simp

end Encoding

open Encoding in
/-- **An encoding fails just when a check of its operands fails, with the fault of the first one.**
It succeeds otherwise, and always without operands. Tokens behind those that the format has a use
for change nothing. Behind a register that is accepted no literal is refused, whatever the
destination is. -/
theorem encode_rejects_iff (strictness : Strictness) (format : Format)
    (operands : List (List Char)) :
    (∀ fault, encode strictness format operands = .error fault ↔
      Rejects strictness format operands fault) ∧
    ((∃ encoded, encode strictness format operands = .ok encoded) ↔
      ∀ fault, ¬Rejects strictness format operands fault) ∧
    (format.category = .inherent → ∃ encoded, encode strictness format operands = .ok encoded) ∧
    (∀ operands', operands'.take (used format) = operands.take (used format) →
      encode strictness format operands' = encode strictness format operands) ∧
    (format.category = .byteOriented →
      (∀ fault, ¬RejectsOperand strictness operands[0]? fault) →
        ∀ token, encode strictness format operands ≠ .error (.invalidLiteral token)) := by
  refine ⟨fun fault => encode_eq_error_iff, exists_encode_eq_ok_iff, fun hc => ?_,
    fun operands' h => ?_, fun hc hfirst token h => ?_⟩
  · exact ⟨{ word := format.opcode }, by rw [encode, hc]⟩
  · rw [← encode_take, h, encode_take]
  · rcases encode_eq_error_iff.1 h with ⟨-, hoperand⟩ | ⟨hbit, -, -⟩ | ⟨-, -, -, hdestination⟩
    · exact hfirst _ hoperand
    · simp [hc] at hbit
    · obtain ⟨name, hname⟩ := hdestination.exists_eq
      cases hname

open Encoding in
/-- A destination that is refused behind a register that is accepted, and a third token that is not
looked at. -/
theorem encode_rejects_iff_movf :
    Rejects .full ⟨0x0800, 2, .byteOriented⟩ ["0x0C,".toList, "3x".toList]
        (.invalidDestination "3X".toList) ∧
      encode .full ⟨0x0800, 2, .byteOriented⟩ ["0x0C,".toList, "3x".toList, "?".toList] =
        .error (.invalidDestination "3X".toList) ∧
      ∀ token, encode .full ⟨0x0800, 2, .byteOriented⟩ ["0x0C,".toList, "3x".toList] ≠
        .error (.invalidLiteral token) := by
  have hfirst : ∀ fault, ¬RejectsOperand .full (some "0x0C,".toList) fault :=
    exists_operand_eq_ok_iff.1 ⟨some 0x0C, by decide⟩
  have hrejects : Rejects .full ⟨0x0800, 2, .byteOriented⟩ ["0x0C,".toList, "3x".toList]
      (.invalidDestination "3X".toList) :=
    .destination rfl rfl hfirst (.unknown (by decide) rfl (by decide))
  obtain ⟨herror, -, -, htokens, hliteral⟩ :=
    encode_rejects_iff .full ⟨0x0800, 2, .byteOriented⟩ ["0x0C,".toList, "3x".toList]
  exact ⟨hrejects, (htokens _ rfl).trans ((herror _).2 hrejects), hliteral rfl hfirst⟩

end Midrange
