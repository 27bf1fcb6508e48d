import Midrange.Proofs.Encoding.Rejection
import Midrange.Proofs.Line.Quotation

/-!
# What the head of a line decides

The first token of a line is a directive, the mnemonic of an instruction, or unknown. Which of them
it is shows in the outcome of the line.

* `Head.classify_eq_instruction_iff` and its companions: every head by the name that selects it. No
  directive is a mnemonic, so the order in which the names are tried does not matter.
* `Line.outcome_eq_origin_iff`: the lines that set an address.
* `Line.outcome_eq_unknown_iff`: the lines whose first token is not known.
-/

namespace Midrange

namespace Head

variable {name : List Char}

theorem lookup_directive :
    Instruction.lookup ['O', 'R', 'G'] = none ∧ Instruction.lookup ['E', 'N', 'D'] = none := by
  decide

theorem classify_eq_origin_iff : classify name = .origin ↔ name = ['O', 'R', 'G'] := by
  unfold classify
  constructor
  · intro h
    split_ifs at h with horigin
    · exact horigin
    · cases hlookup : Instruction.lookup name <;> simp [hlookup] at h
  · rintro rfl
    rfl

theorem classify_eq_instruction_iff {i : Instruction} :
    classify name = .instruction i ↔ Instruction.lookup name = some i := by
  unfold classify
  split_ifs with horigin hhalt
  · simp [horigin, lookup_directive.1]
  · simp [hhalt, lookup_directive.2]
  · cases Instruction.lookup name <;> simp

theorem classify_eq_unknown_iff {unknown : List Char} :
    classify name = .unknown unknown ↔ unknown = name ∧ Instruction.lookup name = none ∧
      name ≠ ['O', 'R', 'G'] ∧ name ≠ ['E', 'N', 'D'] := by
  unfold classify
  split_ifs with horigin hhalt
  · simp [horigin]
  · simp [hhalt]
  · cases Instruction.lookup name <;> simp [horigin, hhalt, eq_comm]

end Head

namespace Line

variable {strictness : Strictness} {first : List Char} {rest : List (List Char)}

/-- Only an `ORG` line sets an address. -/
theorem outcome_eq_origin_iff {address : Word} :
    (assembleTokens strictness (first :: rest)).outcome = .origin address ↔
      Text.upper first = ['O', 'R', 'G'] ∧
        (origin strictness (rest.head?.getD [])).outcome = .origin address := by
  rw [← Head.classify_eq_origin_iff]
  simp only [assembleTokens]
  cases Head.classify (Text.upper first) with
  | origin => simp
  | halt | unknown name => simp
  | instruction i =>
    simp only [instruction]
    cases encode strictness i.toFormat rest <;> simp

/-- No operand of an instruction, and no argument of `ORG`, is reported as unknown. -/
theorem outcome_eq_unknown_iff {name : List Char} :
    (assembleTokens strictness (first :: rest)).outcome = .failed (.unknownMnemonic name) ↔
      Head.classify (Text.upper first) = .unknown name := by
  simp only [assembleTokens]
  cases Head.classify (Text.upper first) with
  | halt | unknown name => simp
  | origin =>
    simp only [reduceCtorEq, iff_false]
    intro h
    have hfault := (Literal.exact_eq_error_iff.1 (exact_of_origin_failed h)).2
    cases hfault
  | instruction i =>
    simp only [reduceCtorEq, iff_false]
    intro h
    rcases Encoding.encode_eq_error_iff.1 (encode_of_instruction_failed h) with
      ⟨-, hoperand⟩ | ⟨-, -, hoperand⟩ | ⟨-, -, -, hdestination⟩
    · exact hoperand.ne_unknown name rfl
    · exact hoperand.ne_unknown name rfl
    · obtain ⟨destination, hdestination⟩ := hdestination.exists_eq
      cases hdestination

end Line

end Midrange
