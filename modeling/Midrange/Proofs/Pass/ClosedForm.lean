import Mathlib.Data.List.Induction
import Midrange.Proofs.Pass.Trace
import Midrange.Proofs.Text.Lines

/-!
# Programs in closed form

What a source assembles to, told without a counter: the word of a line stands at the value of the
last `ORG` before it plus the number of words emitted since, and the error of a line carries the
number of the line.

* `counter_eq_ofNat`: the address counter after some lines, by the last `ORG` among them.
* `filterMap_visits`: what is read off the visits, line by line up to the first `END`.
* `visits_congr`: lines after the first `END` change nothing.
* `assemble_closedForm`: the program of every source.
-/

namespace Midrange

namespace ClosedForm

/-- The index of the first `END`, counted from 0, or the number of lines if there is none. -/
def haltIndex (outcomes : List Outcome) : Nat :=
  outcomes.findIdx (· == .halt)

/-- The address of the last `ORG` among some lines, or `start` if there is none. -/
def lastOrigin (start : Word) (outcomes : List Outcome) : Word :=
  (outcomes.reverse.findSome? Outcome.origin?).getD start

/-- How many of some lines emit a word after the last `ORG` among them, or at all if there is
none. -/
def emittedSince (outcomes : List Outcome) : Nat :=
  (outcomes.reverse.takeWhile (·.origin?.isNone)).countP (·.word?.isSome)

/-- The address of the line of index `i` in a pass from address 0. -/
def address (outcomes : List Outcome) (i : Nat) : Word :=
  BitVec.ofNat 16 ((lastOrigin 0 (outcomes.take i)).toNat + emittedSince (outcomes.take i))

/-- The program that lines with the given outcomes make: one word for each line that emits one and
one error for each line that fails, among the lines before the first `END`. -/
def program (outcomes : List Outcome) : Program where
  words := (List.range (haltIndex outcomes)).filterMap fun i =>
    (outcomes[i]?.bind Outcome.word?).map fun value => ⟨address outcomes i, value⟩
  errors := (List.range (haltIndex outcomes)).filterMap fun i =>
    (outcomes[i]?.bind Outcome.fault?).map fun fault => ⟨i + 1, fault⟩

/-! ## The counter -/

theorem lastOrigin_append_singleton (start : Word) (outcomes : List Outcome) (outcome : Outcome) :
    lastOrigin start (outcomes ++ [outcome]) =
      outcome.origin?.getD (lastOrigin start outcomes) := by
  rw [lastOrigin, List.reverse_append, List.reverse_singleton, List.singleton_append,
    List.findSome?_cons]
  cases outcome.origin? <;> rfl

theorem emittedSince_append_singleton (outcomes : List Outcome) (outcome : Outcome) :
    emittedSince (outcomes ++ [outcome]) =
      if outcome.origin?.isSome then 0
      else emittedSince outcomes + outcome.word?.isSome.toNat := by
  rw [emittedSince, List.reverse_append, List.reverse_singleton, List.singleton_append,
    List.takeWhile_cons]
  cases outcome <;> simp [Outcome.origin?, Outcome.word?, emittedSince]

/-- **The address counter in closed form**: the last `ORG`, and the words since. -/
theorem counter_eq_ofNat (start : Word) (outcomes : List Outcome) :
    counter start outcomes =
      BitVec.ofNat 16 ((lastOrigin start outcomes).toNat + emittedSince outcomes) := by
  induction outcomes using List.reverseRecOn with
  | nil => simp [lastOrigin, emittedSince]
  | append_singleton rest outcome ih =>
    rw [counter_append, ih, lastOrigin_append_singleton, emittedSince_append_singleton]
    cases outcome with
    | origin target => simp [Outcome.advance, Outcome.origin?]
    | emitted word =>
      simp only [counter_cons, counter_nil, Outcome.advance, Outcome.origin?, Outcome.word?,
        Option.getD_none, Option.isSome_none, Bool.false_eq_true, if_false, Option.isSome_some,
        Bool.toNat_true, ← Nat.add_assoc]
      rw [BitVec.ofNat_add _ 1]
      rfl
    | skipped | halt | failed fault =>
      simp [Outcome.advance, Outcome.origin?, Outcome.word?]

/-! ## The visits of a pass by index -/

theorem haltIndex_cons_of_ne {outcome : Outcome} (h : outcome ≠ .halt) (rest : List Outcome) :
    haltIndex (outcome :: rest) = haltIndex rest + 1 := by
  have hne : (outcome == .halt) = false := by simpa using h
  simp [haltIndex, List.findIdx_cons, hne]

theorem haltIndex_cons_halt (rest : List Outcome) : haltIndex (.halt :: rest) = 0 := by
  simp [haltIndex, List.findIdx_cons]

/-- **What is read off the visits of a pass**, by the index of the line. The line of index `i` is
met with the counter that the lines before it leave, and `END` itself has nothing to show. -/
theorem filterMap_visits {β : Type} {f : Visit → Option β}
    (hf : ∀ visit, visit.outcome = .halt → f visit = none) (start : Word) (line : Nat)
    (lines : List Assembled) :
    (visits start line lines).filterMap f =
      (List.range (haltIndex (lines.map (·.outcome)))).filterMap fun i =>
        lines[i]?.bind fun assembled =>
          f ⟨counter start ((lines.map (·.outcome)).take i), line + i, assembled⟩ := by
  induction lines generalizing start line with
  | nil => rfl
  | cons assembled rest ih =>
    by_cases h : assembled.outcome = .halt
    · simp [visits, h, haltIndex_cons_halt, hf]
    · rw [visits, if_neg h, List.filterMap_cons, ih, List.map_cons, haltIndex_cons_of_ne h,
        List.range_succ_eq_map, List.filterMap_cons, List.filterMap_map]
      simp [Function.comp_def, Nat.add_assoc, Nat.add_comm 1]

theorem visits_congr {lines lines' : List Assembled}
    (h : lines'.take (haltIndex (lines.map (·.outcome)) + 1) =
      lines.take (haltIndex (lines.map (·.outcome)) + 1)) (start : Word) (line : Nat) :
    visits start line lines' = visits start line lines := by
  induction lines generalizing lines' start line with
  | nil =>
    have hnil : lines' = [] := by simpa using h
    rw [hnil]
  | cons assembled rest ih =>
    rcases lines' with _ | ⟨assembled', rest'⟩
    · simp at h
    · by_cases hhalt : assembled.outcome = .halt
      · obtain rfl : assembled' = assembled := by
          simpa [hhalt, haltIndex_cons_halt] using h
        simp [visits, hhalt]
      · rw [List.map_cons, haltIndex_cons_of_ne hhalt, List.take_succ_cons, List.take_succ_cons,
          List.cons.injEq] at h
        obtain ⟨rfl, hrest⟩ := h
        simp [visits, hhalt, ih hrest]

/-! ## The program of a source -/

theorem assemble_eq_program (strictness : Strictness) (source : String) :
    assemble strictness source = program (outcomes strictness source) := by
  have hhalt : ∀ visit : Visit, visit.outcome = .halt →
      visit.placed? = none ∧ visit.diagnostic? = none := by
    intro visit h
    simp [Visit.placed?, Visit.diagnostic?, h, Outcome.word?, Outcome.fault?]
  rw [assemble_eq_trace, trace, filterMap_visits fun visit h => (hhalt visit h).1,
    filterMap_visits fun visit h => (hhalt visit h).2]
  rw [map_outcome_assemble, program]
  congr 2 <;> funext i
  · cases h : (sourceLines source)[i]? <;>
      simp [h, outcomes, Visit.placed?, address, counter_eq_ofNat]
  · cases h : (sourceLines source)[i]? <;>
      simp [h, outcomes, Visit.diagnostic?, Nat.add_comm]

/-- An error of a program stands at a line that fails, under the number of that line. -/
theorem lineAt_of_mem_errors {strictness : Strictness} {source : String} {diagnostic : Diagnostic}
    (h : diagnostic ∈ (assemble strictness source).errors) :
    ∃ line, LineAt source.toList diagnostic.line line ∧
      (Line.assemble strictness line).outcome = .failed diagnostic.fault := by
  rw [assemble_eq_program] at h
  obtain ⟨i, -, hi⟩ := List.mem_filterMap.1 h
  obtain ⟨fault, hfault, rfl⟩ := Option.map_eq_some_iff.1 hi
  obtain ⟨outcome, houtcome, hfault⟩ := Option.bind_eq_some_iff.1 hfault
  rw [outcomes, List.getElem?_map] at houtcome
  obtain ⟨line, hline, rfl⟩ := Option.map_eq_some_iff.1 houtcome
  refine ⟨line, lineAt_of_getElem?_sourceLines hline, ?_⟩
  cases hout : (Line.assemble strictness line).outcome <;> simp_all [Outcome.fault?]

theorem pairwise_line_errors (outcomes : List Outcome) :
    ((program outcomes).errors.map (·.line)).Pairwise (· < ·) := by
  rw [List.pairwise_map]
  refine List.Pairwise.filterMap _ ?_ List.pairwise_lt_range
  intro i j hij d hd d' hd'
  obtain ⟨fault, -, rfl⟩ := Option.map_eq_some_iff.1 hd
  obtain ⟨fault', -, rfl⟩ := Option.map_eq_some_iff.1 hd'
  exact Nat.succ_lt_succ hij

end ClosedForm

open ClosedForm in
/-- **A source assembles to its closed form.** Its words and errors are those of the lines before
the first `END`, in order: a word at the last `ORG` before its line plus the words since, an error
under the number of its line, which counts the line feeds before it and opens the message. Lines
after the first `END` may be anything. -/
theorem assemble_closedForm (strictness : Strictness) (source : String) :
    assemble strictness source = program (outcomes strictness source) ∧
      ((assemble strictness source).errors.map (·.line)).Pairwise (· < ·) ∧
      (∀ diagnostic ∈ (assemble strictness source).errors,
        (∃ line, LineAt source.toList diagnostic.line line ∧
          (Line.assemble strictness line).outcome = .failed diagnostic.fault) ∧
        diagnostic.message =
          "Línea " ++ toString diagnostic.line ++ ": " ++ diagnostic.fault.message) ∧
      ∀ source' : String,
        (sourceLines source').take (haltIndex (outcomes strictness source) + 1) =
          (sourceLines source).take (haltIndex (outcomes strictness source) + 1) →
        assemble strictness source' = assemble strictness source := by
  refine ⟨assemble_eq_program strictness source, ?_, fun d hd => ⟨lineAt_of_mem_errors hd, rfl⟩,
    fun source' h => ?_⟩
  · rw [assemble_eq_program]
    exact pairwise_line_errors _
  · have hlines : trace strictness source' = trace strictness source := by
      refine visits_congr ?_ 0 1
      rw [map_outcome_assemble, ← List.map_take, ← List.map_take, h]
    rw [assemble_eq_trace, assemble_eq_trace, hlines]

end Midrange
