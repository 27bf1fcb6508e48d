import Midrange.Pass

/-!
# The trace of a pass

A pass visits the lines of a source in order, up to and including the first `END`. A `Visit` holds
what the pass brings to a line, the address counter and the number of the line, and what the line
assembles to. Everything that a pass leaves behind is read off its visits.

* `visits address line lines`: the visits of a pass that meets the given assembled lines, from any
  address and any line number on. `trace` is the case of a whole source.
* `Pass.step_eq_extend`: one line extends the pass by one visit; `Pass.foldl_step` says the same of
  any number of lines.
* `assemble_eq_trace`, `events_eq_trace`: the program and the log of a source.
* `visits_append`, `visits_append_of_halt`: a trace resumes at the counter where it stopped, unless
  it was stopped by `END`.
-/

namespace Midrange

/-! ## Parts of an outcome -/

namespace Outcome

/-- The word that a line emits. -/
def word? : Outcome → Option Word
  | .emitted word => some word
  | _ => none

/-- The fault that a line has. -/
def fault? : Outcome → Option Fault
  | .failed fault => some fault
  | _ => none

/-- The address that a line moves the counter to. -/
def origin? : Outcome → Option Word
  | .origin address => some address
  | _ => none

/-- The address counter after a line. -/
def advance (address : Word) : Outcome → Word
  | .origin target => target
  | .emitted _ => address + 1
  | _ => address

end Outcome

/-! ## Visits -/

/-- A line as a pass meets it. -/
structure Visit where
  /-- The address counter. -/
  address : Word
  /-- The number of the line. -/
  line : Nat
  /-- What the line assembles to. -/
  assembled : Assembled
  deriving DecidableEq, Repr

namespace Visit

/-- The effect of the line. -/
def outcome (visit : Visit) : Outcome :=
  visit.assembled.outcome

@[simp] theorem outcome_mk (address : Word) (line : Nat) (assembled : Assembled) :
    (Visit.mk address line assembled).outcome = assembled.outcome := rfl

/-- The word that the line places. -/
def placed? (visit : Visit) : Option Placed :=
  visit.outcome.word?.map fun value => ⟨visit.address, value⟩

/-- The error that the line causes. -/
def diagnostic? (visit : Visit) : Option Diagnostic :=
  visit.outcome.fault?.map fun fault => ⟨visit.line, fault⟩

/-- The event that tells the effect of the line. -/
def effect? (visit : Visit) : Option Event :=
  match visit.outcome with
  | .skipped => none
  | .origin address => some (.origin visit.line address)
  | .halt => some (.halted visit.line)
  | .emitted value => some (.emitted visit.line ⟨visit.address, value⟩)
  | .failed fault => some (.failed ⟨visit.line, fault⟩)

/-- The events that the line logs: its warning, then its effect. -/
def events (visit : Visit) : List Event :=
  (visit.assembled.warning.map (Event.warned visit.line)).toList ++ visit.effect?.toList

end Visit

/-- The visits of a pass that starts at a given address and line number. -/
def visits (address : Word) (line : Nat) : List Assembled → List Visit
  | [] => []
  | assembled :: rest =>
    ⟨address, line, assembled⟩ ::
      if assembled.outcome = .halt then []
      else visits (assembled.outcome.advance address) (line + 1) rest

/-- The outcomes of the lines of a source, each line on its own. -/
def outcomes (strictness : Strictness) (source : String) : List Outcome :=
  (sourceLines source).map fun line => (Line.assemble strictness line).outcome

theorem map_outcome_assemble (strictness : Strictness) (source : String) :
    ((sourceLines source).map (Line.assemble strictness)).map (·.outcome) =
      outcomes strictness source := by
  simp [outcomes]

/-- The visits of the pass over a source. -/
def trace (strictness : Strictness) (source : String) : List Visit :=
  visits 0 1 ((sourceLines source).map (Line.assemble strictness))

/-- The address counter after lines with the given outcomes. -/
def counter (address : Word) (outcomes : List Outcome) : Word :=
  outcomes.foldl Outcome.advance address

@[simp] theorem counter_nil (address : Word) : counter address [] = address := rfl

@[simp] theorem counter_cons (address : Word) (outcome : Outcome) (rest : List Outcome) :
    counter address (outcome :: rest) = counter (outcome.advance address) rest := rfl

theorem counter_append (address : Word) (before after : List Outcome) :
    counter address (before ++ after) = counter (counter address before) after :=
  List.foldl_append

/-! ## What a pass leaves behind -/

namespace Pass

/-- The pass after further visits. -/
def extend (pass : Pass) (vs : List Visit) : Pass where
  address := counter pass.address (vs.map Visit.outcome)
  line := pass.line + vs.length
  halted := pass.halted || vs.any fun visit => visit.outcome == .halt
  words := pass.words ++ (vs.filterMap Visit.placed?).toArray
  errors := pass.errors ++ (vs.filterMap Visit.diagnostic?).toArray
  events := pass.events ++ (vs.flatMap Visit.events).toArray

theorem extend_nil (pass : Pass) : pass.extend [] = pass := by
  simp [extend]

theorem extend_append (pass : Pass) (vs vs' : List Visit) :
    pass.extend (vs ++ vs') = (pass.extend vs).extend vs' := by
  simp [extend, counter_append, Nat.add_assoc, Bool.or_assoc]

theorem step_of_halted {pass : Pass} (h : pass.halted = true) (strictness : Strictness)
    (line : List Char) : step strictness pass line = pass := by
  simp [step, h]

theorem foldl_step_of_halted {pass : Pass} (h : pass.halted = true) (strictness : Strictness)
    (lines : List (List Char)) : lines.foldl (step strictness) pass = pass := by
  induction lines with
  | nil => rfl
  | cons line rest ih => rw [List.foldl_cons, step_of_halted h, ih]

theorem warn_eq (pass : Pass) (warning : Option Warning) :
    pass.warn warning = { pass with
      events := pass.events ++ (warning.map (Event.warned pass.line)).toList.toArray } := by
  cases warning <;> simp [warn]

theorem apply_eq (pass : Pass) (assembled : Assembled) :
    pass.apply assembled.outcome =
      let visit : Visit := ⟨pass.address, pass.line, assembled⟩
      { pass with
        address := assembled.outcome.advance pass.address
        halted := pass.halted || assembled.outcome == .halt
        words := pass.words ++ ([visit].filterMap Visit.placed?).toArray
        errors := pass.errors ++ ([visit].filterMap Visit.diagnostic?).toArray
        events := pass.events ++ visit.effect?.toList.toArray } := by
  obtain ⟨outcome, warning⟩ := assembled
  cases pass
  cases outcome <;>
    simp [apply, List.filterMap_cons, Visit.placed?, Visit.diagnostic?, Visit.effect?,
      Outcome.word?, Outcome.fault?, Outcome.advance]

/-- **One line extends a running pass by one visit.** -/
theorem step_eq_extend {pass : Pass} (h : pass.halted = false) (strictness : Strictness)
    (line : List Char) :
    step strictness pass line =
      pass.extend [⟨pass.address, pass.line, Line.assemble strictness line⟩] := by
  simp only [step, h, Bool.false_eq_true, if_false, warn_eq, apply_eq]
  simp [extend, h, Visit.events, ← List.append_toArray]

/-- **Any number of lines extend a running pass by their visits.** -/
theorem foldl_step {pass : Pass} (h : pass.halted = false) (strictness : Strictness)
    (lines : List (List Char)) :
    lines.foldl (step strictness) pass =
      pass.extend (visits pass.address pass.line (lines.map (Line.assemble strictness))) := by
  induction lines generalizing pass with
  | nil => exact (extend_nil pass).symm
  | cons line rest ih =>
    rw [List.foldl_cons, step_eq_extend h, List.map_cons, visits]
    by_cases hhalt : (Line.assemble strictness line).outcome = .halt
    · rw [if_pos hhalt]
      exact foldl_step_of_halted (by simp [extend, hhalt]) strictness rest
    · rw [if_neg hhalt, ih (by simp [extend, h, hhalt])]
      exact (extend_append pass [_] _).symm

theorem run_eq_extend (strictness : Strictness) (source : String) :
    run strictness source = extend {} (trace strictness source) :=
  foldl_step rfl strictness (sourceLines source)

end Pass

/-- **The program of a source** holds the words and the errors of its visits, in order. -/
theorem assemble_eq_trace (strictness : Strictness) (source : String) :
    assemble strictness source =
      { words := (trace strictness source).filterMap Visit.placed?
        errors := (trace strictness source).filterMap Visit.diagnostic? } := by
  simp [assemble, Pass.run_eq_extend, Pass.program, Pass.extend]

/-- **The log of a source** is the events of its visits, in order. -/
theorem events_eq_trace (strictness : Strictness) (source : String) :
    (Pass.run strictness source).events.toList =
      (trace strictness source).flatMap Visit.events := by
  simp [Pass.run_eq_extend, Pass.extend]

/-! ## Traces of concatenated lines -/

theorem visits_append {before : List Assembled} (h : ∀ a ∈ before, a.outcome ≠ .halt)
    (address : Word) (line : Nat) (after : List Assembled) :
    visits address line (before ++ after) =
      visits address line before ++
        visits (counter address (before.map (·.outcome))) (line + before.length) after := by
  induction before generalizing address line with
  | nil => simp [visits]
  | cons a rest ih =>
    have ha : a.outcome ≠ .halt := h a (by simp)
    simp only [List.cons_append, visits, if_neg ha, List.map_cons, counter_cons, List.length_cons,
      ih fun b hb => h b (by simp [hb])]
    rw [show line + 1 + rest.length = line + (rest.length + 1) by omega]

theorem visits_append_of_halt {before : List Assembled} (h : ∃ a ∈ before, a.outcome = .halt)
    (address : Word) (line : Nat) (after : List Assembled) :
    visits address line (before ++ after) = visits address line before := by
  induction before generalizing address line with
  | nil => simp at h
  | cons a rest ih =>
    by_cases ha : a.outcome = .halt
    · simp [visits, ha]
    · have hrest : ∃ b ∈ rest, b.outcome = .halt := by simpa [ha] using h
      simp [visits, ha, ih hrest]

end Midrange
