import Midrange.Proofs.Basic
import Midrange.Proofs.Literal.Numeral
import Midrange.Proofs.Pass.Trace

/-!
# Strictness only refuses

A switch that is turned on makes the assembler refuse lines; it never gives a line another meaning.

* `Refuses x x'`: the result `x'` is the result `x`, or it is a refusal. Literals, operands,
  destinations and whole encodings refuse in this sense when switches are turned on
  (`Encoding.refuses_literal` to `refuses_encode`), because refusals pass through `Refuses.bind`.
* `Stricter a a'`: the same of assembled lines. A line that is `END` stays `END`
  (`Line.stricter_assemble`).
* `forall₂_visits`: two passes over lines of which the second are stricter stay side by side, line
  by line, while their address counters may drift apart.
* `assemble_refuses`: what follows for every line and every source.
-/

namespace Midrange

/-- Switches are compared one by one: what is on in the lesser one is on in the greater one. -/
instance : LE Strictness where
  le lenient strict :=
    (lenient.literals = true → strict.literals = true) ∧
      (lenient.destination = true → strict.destination = true)

/-- A fault that only a switch causes: its text says that a literal or a destination is invalid. -/
def Fault.IsRefusal (fault : Fault) : Prop :=
  ∃ token, fault.message = quoting "Literal inválido" token ∨
    fault.message = quoting "Destino inválido" token

theorem Fault.isRefusal_invalidLiteral (token : List Char) :
    (Fault.invalidLiteral token).IsRefusal :=
  ⟨token, .inl rfl⟩

theorem Fault.isRefusal_invalidDestination (token : List Char) :
    (Fault.invalidDestination token).IsRefusal :=
  ⟨token, .inr rfl⟩

/-! ## Results that refuse -/

/-- The second result is the first one or a refusal. -/
def Refuses {α : Type} (x x' : Except Fault α) : Prop :=
  x' = x ∨ ∃ fault : Fault, fault.IsRefusal ∧ x' = .error fault

theorem Refuses.refl {α : Type} (x : Except Fault α) : Refuses x x :=
  .inl rfl

theorem Refuses.bind {α β : Type} {x x' : Except Fault α} {f f' : α → Except Fault β}
    (hx : Refuses x x') (hf : ∀ a, Refuses (f a) (f' a)) : Refuses (x >>= f) (x' >>= f') := by
  rcases hx with rfl | ⟨fault, hfault, rfl⟩
  · cases x' with
    | error fault => exact .refl _
    | ok a => exact hf a
  · exact .inr ⟨fault, hfault, rfl⟩

theorem Literal.isRefusal_of_exact {token : List Char} {fault : Fault}
    (h : exact token = .error fault) : fault.IsRefusal := by
  unfold exact at h
  split at h
  · simp at h
  · obtain rfl : Fault.invalidLiteral (clean token) = fault := by simpa using h
    exact Fault.isRefusal_invalidLiteral _

variable {lenient strict : Strictness}

namespace Encoding

theorem refuses_literal (h : lenient ≤ strict) (token : List Char) :
    Refuses (literal lenient token) (literal strict token) := by
  by_cases hl : lenient.literals = true
  · simp [literal, hl, h.1 hl, Refuses.refl]
  · by_cases hs : strict.literals = true
    · simp only [literal, hl, hs, if_true, if_false, Bool.false_eq_true]
      cases hexact : Literal.exact token with
      | ok value =>
        rw [Literal.value?_of_exact hexact]
        exact .refl _
      | error fault => exact .inr ⟨fault, Literal.isRefusal_of_exact hexact, rfl⟩
    · simp [literal, hl, hs, Refuses.refl]

theorem refuses_operand (h : lenient ≤ strict) (token : Option (List Char)) :
    Refuses (operand lenient token) (operand strict token) := by
  cases token with
  | none => exact .refl _
  | some token => exact refuses_literal h token

theorem refuses_destination (h : lenient ≤ strict) (token : Option (List Char)) :
    Refuses (destination lenient token) (destination strict token) := by
  cases token with
  | none => exact .refl _
  | some token =>
    simp only [destination]
    split_ifs with hfile hwork hl hs hs
    · exact .refl _
    · exact .refl _
    · exact .refl _
    · exact absurd (h.2 hl) hs
    · exact .inr ⟨_, Fault.isRefusal_invalidDestination _, rfl⟩
    · exact .refl _

end Encoding

open Encoding in
/-- **Turning switches on makes an encoding refuse**, and changes no word. -/
theorem refuses_encode (h : lenient ≤ strict) (format : Format) (operands : List (List Char)) :
    Refuses (encode lenient format operands) (encode strict format operands) := by
  unfold encode
  cases format.category with
  | inherent => exact .refl _
  | target | literal => exact (refuses_operand h _).bind fun _ => .refl _
  | bitOriented =>
    exact (refuses_operand h _).bind fun _ => (refuses_operand h _).bind fun _ => .refl _
  | byteOriented =>
    refine (refuses_operand h _).bind fun register => ?_
    dsimp only
    split_ifs
    · exact (refuses_destination h _).bind fun _ => .refl _
    · exact .refl _

/-! ## Lines that refuse -/

/-- The second assembled line is the first one, or it is a refusal and the first one is not
`END`. -/
inductive Stricter (assembled : Assembled) : Assembled → Prop
  | same : Stricter assembled assembled
  | refused {fault : Fault} (hfault : fault.IsRefusal) (hhalt : assembled.outcome ≠ .halt) :
    Stricter assembled { outcome := .failed fault }

theorem Stricter.halt_iff {a a' : Assembled} (h : Stricter a a') :
    a'.outcome = .halt ↔ a.outcome = .halt := by
  cases h with
  | same => rfl
  | refused _ hhalt => simp [hhalt]

theorem Stricter.eq_or_failed {a a' : Assembled} (h : Stricter a a') :
    a' = a ∨ ∃ fault : Fault, fault.IsRefusal ∧ a' = { outcome := .failed fault } := by
  cases h with
  | same => exact .inl rfl
  | refused hfault _ => exact .inr ⟨_, hfault, rfl⟩

namespace Line

theorem stricter_origin (h : lenient ≤ strict) (argument : List Char) :
    Stricter (origin lenient argument) (origin strict argument) := by
  by_cases hl : lenient.literals = true
  · simp only [origin, hl, h.1 hl, if_true]
    exact .same
  · by_cases hs : strict.literals = true
    · simp only [origin, hl, hs, if_true, if_false, Bool.false_eq_true]
      cases hexact : Literal.exact argument with
      | ok value =>
        rw [Literal.value?_of_exact hexact]
        exact .same
      | error fault =>
        refine .refused (Literal.isRefusal_of_exact hexact) ?_
        cases Literal.value? argument <;> simp
    · simp only [origin, hl, hs, if_false, Bool.false_eq_true]
      exact .same

theorem stricter_instruction (h : lenient ≤ strict) (format : Format)
    (operands : List (List Char)) :
    Stricter (instruction lenient format operands) (instruction strict format operands) := by
  unfold instruction
  rcases refuses_encode h format operands with heq | ⟨fault, hfault, herror⟩
  · rw [heq]
    exact .same
  · rw [herror]
    refine .refused hfault ?_
    cases encode lenient format operands <;> simp

/-- **Turning switches on leaves a line as it is or refuses it**, and `END` stays `END`. -/
theorem stricter_assemble (h : lenient ≤ strict) (line : List Char) :
    Stricter (assemble lenient line) (assemble strict line) := by
  unfold assemble
  cases tokens line with
  | nil => exact .same
  | cons first rest =>
    -- the first token is classified without a look at the switches
    simp only [assembleTokens]
    cases Head.classify (Text.upper first) with
    | origin => exact stricter_origin h _
    | halt => exact .same
    | instruction i => exact stricter_instruction h i.toFormat rest
    | unknown name => exact .same

end Line

/-! ## Passes side by side -/

/-- **Two passes side by side.** When the lines of the second are stricter, the passes visit the
same lines, whatever addresses they have come to. -/
theorem forall₂_visits {lines lines' : List Assembled} (h : List.Forall₂ Stricter lines lines')
    (address address' : Word) (line : Nat) :
    List.Forall₂ (fun visit visit' => visit'.line = visit.line ∧
        Stricter visit.assembled visit'.assembled)
      (visits address line lines) (visits address' line lines') := by
  induction h generalizing address address' line with
  | nil => exact .nil
  | @cons a a' rest rest' ha _ ih =>
    rw [visits, visits]
    refine .cons ⟨rfl, ha⟩ ?_
    by_cases hhalt : a.outcome = .halt
    · rw [if_pos hhalt, if_pos (ha.halt_iff.2 hhalt)]
      exact .nil
    · rw [if_neg hhalt, if_neg (mt ha.halt_iff.1 hhalt)]
      exact ih _ _ _

/-- A stricter pass without errors is the same pass. -/
theorem visits_eq_of_no_errors {lines lines' : List Assembled}
    (h : List.Forall₂ Stricter lines lines') {address : Word} {line : Nat}
    (herrors : (visits address line lines').filterMap Visit.diagnostic? = []) :
    visits address line lines' = visits address line lines := by
  induction h generalizing address line with
  | nil => rfl
  | cons ha _ ih =>
    rw [visits, List.filterMap_eq_nil_iff, List.forall_mem_cons] at herrors
    cases ha with
    | same =>
      rw [visits, visits]
      split_ifs at herrors ⊢ with hhalt
      · rfl
      · rw [ih (List.filterMap_eq_nil_iff.2 herrors.2)]
    | refused => simp [Visit.diagnostic?, Outcome.fault?] at herrors

/-! ## What two passes side by side leave behind -/

theorem map_value_placed (vs : List Visit) :
    (vs.filterMap Visit.placed?).map (·.value) = vs.filterMap (·.outcome.word?) := by
  simp [List.map_filterMap, Visit.placed?, Function.comp_def]

theorem map_line_diagnostic (vs : List Visit) :
    (vs.filterMap Visit.diagnostic?).map (·.line) =
      vs.filterMap fun visit => visit.outcome.fault?.map fun _ => visit.line := by
  simp [List.map_filterMap, Visit.diagnostic?, Function.comp_def]

section SideBySide

variable {vs vs' : List Visit}
  (h : List.Forall₂ (fun visit visit' => visit'.line = visit.line ∧
    Stricter visit.assembled visit'.assembled) vs vs')

include h

theorem sublist_values :
    ((vs'.filterMap Visit.placed?).map (·.value)).Sublist
      ((vs.filterMap Visit.placed?).map (·.value)) := by
  rw [map_value_placed, map_value_placed]
  refine sublist_filterMap_of_forall₂ ?_ h.flip
  rintro ⟨_, _, a'⟩ ⟨_, _, a⟩ ⟨-, ha⟩
  cases ha with
  | same => exact .inl rfl
  | refused => exact .inr rfl

theorem sublist_error_lines :
    ((vs.filterMap Visit.diagnostic?).map (·.line)).Sublist
      ((vs'.filterMap Visit.diagnostic?).map (·.line)) := by
  rw [map_line_diagnostic, map_line_diagnostic]
  refine sublist_filterMap_of_forall₂ ?_ h
  rintro ⟨_, _, ⟨outcome, _⟩⟩ ⟨_, _, a'⟩ ⟨hline, ha⟩
  obtain rfl := hline
  cases ha with
  | same => exact .inl rfl
  | refused => cases outcome <;> simp [Outcome.fault?]

theorem any_halt_eq : (vs'.any fun visit => visit.outcome == .halt) =
    vs.any fun visit => visit.outcome == .halt := by
  induction h with
  | nil => rfl
  | @cons visit visit' _ _ hvisit _ ih =>
    have hhalt : (visit'.outcome == .halt) = (visit.outcome == .halt) := by
      rw [Bool.eq_iff_iff, beq_iff_eq, beq_iff_eq]
      exact hvisit.2.halt_iff
    rw [List.any_cons, List.any_cons, hhalt, ih]

end SideBySide

theorem forall₂_assemble (h : lenient ≤ strict) (source : String) :
    List.Forall₂ Stricter ((sourceLines source).map (Line.assemble lenient))
      ((sourceLines source).map (Line.assemble strict)) := by
  rw [List.forall₂_map_left_iff, List.forall₂_map_right_iff]
  exact List.forall₂_same.2 fun line _ => Line.stricter_assemble h line

/-- **Strictness only refuses.** With more switches on, a line assembles to the same or is refused
as an invalid literal or destination. So a source that assembles without errors assembles to the
same program and log with fewer switches on; and for every source, the lines with errors stay lines
with errors, the values of the words are some of those before, and the pass stops at the same
`END`. -/
theorem assemble_refuses {lenient strict : Strictness} (h : lenient ≤ strict) :
    (∀ line, Line.assemble strict line = Line.assemble lenient line ∨
      ∃ fault : Fault, fault.IsRefusal ∧
        Line.assemble strict line = { outcome := .failed fault }) ∧
    ∀ source : String,
      ((assemble strict source).errors = [] →
        assemble lenient source = assemble strict source ∧
          (Pass.run lenient source).events = (Pass.run strict source).events) ∧
      ((assemble lenient source).errors.map (·.line)).Sublist
        ((assemble strict source).errors.map (·.line)) ∧
      ((assemble strict source).words.map (·.value)).Sublist
        ((assemble lenient source).words.map (·.value)) ∧
      (Pass.run strict source).halted = (Pass.run lenient source).halted ∧
      (Pass.run strict source).line = (Pass.run lenient source).line := by
  refine ⟨fun line => (Line.stricter_assemble h line).eq_or_failed, fun source => ?_⟩
  have hlines := forall₂_assemble h source
  have hvisits := forall₂_visits hlines 0 0 1
  simp only [assemble_eq_trace, Pass.run_eq_extend, trace]
  refine ⟨fun herrors => ?_, sublist_error_lines hvisits, sublist_values hvisits, ?_, ?_⟩
  · rw [visits_eq_of_no_errors hlines herrors]
    exact ⟨rfl, rfl⟩
  · simp only [Pass.extend, any_halt_eq hvisits]
  · simp only [Pass.extend, hvisits.length_eq]

/-- All switches on, on a source with two lines that are read leniently otherwise. -/
theorem assemble_refuses_full :
    ({} : Strictness) ≤ .full ∧
      (assemble .full "ORG 1x\nMOVLW 1x\nNOP").errors.map (·.line) = [1, 2] ∧
      ((assemble .full "ORG 1x\nMOVLW 1x\nNOP").words.map (·.value)).Sublist
        ((assemble {} "ORG 1x\nMOVLW 1x\nNOP").words.map (·.value)) := by
  have h : ({} : Strictness) ≤ .full := ⟨by decide, by decide⟩
  exact ⟨h, by decide, ((assemble_refuses h).2 _).2.2.1⟩

end Midrange
