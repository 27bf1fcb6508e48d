import Midrange.Proofs.Encoding.Fields

/-!
# Lines that are warned about

A line comes with a warning in two cases only: an `ORG` whose argument is not a number, and an
instruction with a destination that goes beyond its field. Both are said here in terms of the tokens
of the line and of the switches.

* `Line.IsNonNumericOrigin`, `Line.IsSpilling`: the two cases.
* `Encoding.destination_spill_iff`, `Encoding.encode_spill_iff`: when an encoding spills.
* `Line.warning_origin_iff`, `Line.warning_spill_iff`: the two warnings.
* `Line.outcome_of_isNonNumericOrigin`, `Line.outcome_of_isSpilling`: what such lines still do.
  `Line.warning_of_skipped`: a blank line is never warned about.
-/

namespace Midrange

variable {strictness : Strictness}

/-! ## Encodings that spill -/

/-- What a destination token spills: its name selects no destination, and in decimal it is a number
other than 0 and 1. -/
structure Spill.IsOf (spill : Spill) (token : List Char) : Prop where
  destination_eq : spill.destination = Text.upper (Literal.clean token)
  not_mem : spill.destination ∉ [['F'], ['1'], ['W'], ['0']]
  scan_eq : (Literal.scan 10 spill.destination).map (·.value) = some spill.value
  ne_zero : spill.value ≠ 0
  ne_one : spill.value ≠ 1

namespace Encoding

theorem destination_spill_iff {token : Option (List Char)} {spill : Spill} :
    (∃ bits, destination strictness token = .ok (bits, some spill)) ↔
      ∃ text, token = some text ∧ strictness.destination = false ∧ spill.IsOf text := by
  constructor
  · rintro ⟨bits, h⟩
    cases token with
    | none => simp [destination] at h
    | some text =>
      simp only [destination] at h
      split_ifs at h with hfile hwork hstrict
      · simp at h
      · simp at h
      · cases hscan : Literal.scan 10 (Text.upper (Literal.clean text)) with
        | none => simp [hscan] at h
        | some reading =>
          simp only [hscan, Except.ok.injEq, Prod.mk.injEq] at h
          obtain ⟨-, hspill⟩ := h
          split_ifs at hspill with hodd
          obtain rfl := Option.some.inj hspill
          rw [not_or] at hfile hwork hodd
          refine ⟨text, rfl, by simpa using hstrict, rfl, ?_, by simp [hscan], hodd.1, hodd.2⟩
          simp [hfile, hwork]
  · rintro ⟨text, rfl, hstrict, hspill⟩
    obtain ⟨reading, hscan, hreading⟩ := Option.map_eq_some_iff.1 hspill.scan_eq
    have hname := hspill.not_mem
    simp only [List.mem_cons, List.not_mem_nil, or_false, not_or] at hname
    refine ⟨destinationBits reading.value, ?_⟩
    simp only [destination, ← hspill.destination_eq, hname, hstrict, hscan, hreading,
      hspill.ne_zero, hspill.ne_one, or_self, if_false, Bool.false_eq_true]

/-- **When an encoding spills.** The first operand has to be accepted before the destination is
looked at. -/
theorem encode_spill_iff {format : Format} {operands : List (List Char)} {spill : Spill} :
    (∃ word, encode strictness format operands = .ok ⟨word, some spill⟩) ↔
      format.category = .byteOriented ∧ format.operands = 2 ∧
        (∃ value, operand strictness operands[0]? = .ok value) ∧
        ∃ bits, destination strictness operands[1]? = .ok (bits, some spill) := by
  constructor
  · rintro ⟨word, h⟩
    rcases encode_cases h with ⟨-, heq⟩ | ⟨hcategory, hoperands, bits, hbits, -⟩
    · simp at heq
    · refine ⟨hcategory, hoperands, ?_, bits, hbits⟩
      simp only [encode, hcategory, bind_eq_ok_iff] at h
      obtain ⟨value, hvalue, -⟩ := h
      exact ⟨value, hvalue⟩
  · rintro ⟨hcategory, hoperands, ⟨value, hvalue⟩, bits, hbits⟩
    refine ⟨format.opcode ||| Literal.field registerMask value ||| bits, ?_⟩
    simp only [encode, hcategory, hvalue, hoperands, hbits]
    rfl

/-- An operand is accepted if it is there and, under strict literals, exact. -/
theorem operand_accepts_iff {token : Option (List Char)} :
    (∃ value, operand strictness token = .ok value) ↔
      ∃ text, token = some text ∧
        (strictness.literals = true → ∃ value, Literal.exact text = .ok value) := by
  cases token with
  | none => simp [operand]
  | some text =>
    simp only [operand, literal, Option.some.injEq, exists_eq_left']
    split_ifs with hstrict
    · cases hexact : Literal.exact text with
      | ok value => simp [Except.map]
      | error fault => simp [Except.map, hstrict]
    · simp [hstrict]

end Encoding

/-! ## The two warnings -/

namespace Line

/-- An `ORG` whose argument is not a number, under lenient literals. -/
def IsNonNumericOrigin (strictness : Strictness) (line argument : List Char) : Prop :=
  ∃ first rest, tokens line = first :: rest ∧ Head.classify (Text.upper first) = .origin ∧
    argument = rest.head?.getD [] ∧ strictness.literals = false ∧ Literal.value? argument = none

/-- A byte-oriented instruction with a destination that spills, under lenient destinations, behind a
register that is accepted. -/
def IsSpilling (strictness : Strictness) (line : List Char) (spill : Spill) : Prop :=
  ∃ first register destination rest i,
    tokens line = first :: register :: destination :: rest ∧
    Head.classify (Text.upper first) = .instruction i ∧
    i.category = .byteOriented ∧ i.operands = 2 ∧
    (strictness.literals = true → ∃ value, Literal.exact register = .ok value) ∧
    strictness.destination = false ∧ spill.IsOf destination

theorem origin_warning_iff {argument : List Char} {warning : Warning} :
    (origin strictness argument).warning = some warning ↔
      strictness.literals = false ∧ Literal.value? argument = none ∧
        warning = .originNotNumber argument := by
  unfold origin
  split_ifs with hstrict
  · cases Literal.exact argument <;> simp [hstrict]
  · cases Literal.value? argument <;> simp [hstrict, eq_comm]

theorem instruction_warning_iff {format : Format} {operands : List (List Char)}
    {warning : Warning} :
    (instruction strictness format operands).warning = some warning ↔
      ∃ spill, warning = .destinationSpill spill ∧
        ∃ word, encode strictness format operands = .ok ⟨word, some spill⟩ := by
  unfold instruction
  cases encode strictness format operands with
  | error fault => simp
  | ok encoded =>
    obtain ⟨word, spill⟩ := encoded
    simp [Option.map_eq_some_iff, eq_comm, and_comm]

theorem warning_origin_iff {line argument : List Char} :
    (assemble strictness line).warning = some (.originNotNumber argument) ↔
      IsNonNumericOrigin strictness line argument := by
  unfold assemble IsNonNumericOrigin
  cases tokens line with
  | nil => simp [assembleTokens]
  | cons first rest =>
    simp only [assembleTokens, List.cons.injEq, and_assoc, exists_and_left, exists_eq_left']
    cases Head.classify (Text.upper first) with
    | origin =>
      simp only [origin_warning_iff, Warning.originNotNumber.injEq, true_and]
      constructor
      · rintro ⟨hstrict, hnone, rfl⟩
        exact ⟨rfl, hstrict, hnone⟩
      · rintro ⟨rfl, hstrict, hnone⟩
        exact ⟨hstrict, hnone, rfl⟩
    | halt | unknown name => simp
    | instruction i => simp [instruction_warning_iff]

theorem warning_spill_iff {line : List Char} {spill : Spill} :
    (assemble strictness line).warning = some (.destinationSpill spill) ↔
      IsSpilling strictness line spill := by
  unfold assemble IsSpilling
  cases tokens line with
  | nil => simp [assembleTokens]
  | cons first rest =>
    simp only [assembleTokens, List.cons.injEq, and_assoc, exists_and_left, exists_eq_left']
    cases Head.classify (Text.upper first) with
    | origin => simp [origin_warning_iff]
    | halt | unknown name => simp
    | instruction i =>
      simp only [instruction_warning_iff, Warning.destinationSpill.injEq, exists_eq_left',
        Encoding.encode_spill_iff, Encoding.operand_accepts_iff, Encoding.destination_spill_iff,
        Head.instruction.injEq]
      constructor
      · rintro ⟨hcategory, hoperands, ⟨register, hregister, haccepts⟩, destination, hdestination,
          hspill⟩
        obtain ⟨operands, rfl⟩ : ∃ operands, rest = register :: destination :: operands := by
          rcases rest with _ | ⟨first, _ | ⟨second, operands⟩⟩ <;> simp_all
        exact ⟨register, destination, operands, rfl, hcategory, hoperands, haccepts, hspill⟩
      · rintro ⟨register, destination, operands, rfl, hcategory, hoperands, haccepts, hspill⟩
        exact ⟨hcategory, hoperands, ⟨register, rfl, haccepts⟩, destination, rfl, hspill⟩

/-! ## What lines with a warning do -/

/-- An `ORG` whose argument is not a number moves the counter to 0. -/
theorem outcome_of_isNonNumericOrigin {line argument : List Char}
    (h : IsNonNumericOrigin strictness line argument) :
    (assemble strictness line).outcome = .origin 0 := by
  obtain ⟨first, rest, htokens, hhead, rfl, hstrict, hnone⟩ := h
  simp [assemble, htokens, assembleTokens, hhead, origin, hstrict, hnone]

/-- A destination that spills does not keep an instruction from emitting its word. -/
theorem outcome_of_isSpilling {line : List Char} {spill : Spill}
    (h : IsSpilling strictness line spill) :
    ∃ word, (assemble strictness line).outcome = .emitted word := by
  have hwarning := warning_spill_iff.2 h
  obtain ⟨first, register, destination, rest, i, htokens, hhead, -⟩ := h
  simp only [assemble, htokens, assembleTokens, hhead] at hwarning ⊢
  obtain ⟨spill', -, word, hencode⟩ := instruction_warning_iff.1 hwarning
  exact ⟨word, by rw [instruction, hencode]⟩

/-- A skipped line is not warned about. -/
theorem warning_of_skipped {line : List Char} (h : (assemble strictness line).outcome = .skipped) :
    (assemble strictness line).warning = none := by
  cases hwarning : (assemble strictness line).warning with
  | none => rfl
  | some warning =>
    cases warning with
    | originNotNumber argument =>
      have horigin := outcome_of_isNonNumericOrigin (warning_origin_iff.1 hwarning)
      simp [h] at horigin
    | destinationSpill spill =>
      obtain ⟨word, hword⟩ := outcome_of_isSpilling (warning_spill_iff.1 hwarning)
      simp [h] at hword

end Line

end Midrange
