import Midrange.Proofs.Source.Printing
import Midrange.Proofs.Text.Lines

/-!
# Concatenated sources

A source that follows another one is assembled as if it stood alone behind an `ORG` with the address
that the first source has come to, its lines counted on. Behind an `END` it is not assembled at all.

* `wordsFrom address lines`, `errorsFrom line lines`: what some lines leave behind. Words do not
  depend on the number of the first line and errors not on the address
  (`filterMap_placed?_visits`, `filterMap_diagnostic?_visits`).
* `wordsFrom_append`, `errorsFrom_append`: lines behind other lines.
* `Diagnostic.shift`: an error some lines further down; `errorsFrom_add` says that a later start
  shifts the errors and does nothing else.
* `assemble_concat`: what follows for two sources joined by a line feed.
-/

namespace Midrange

/-- The same error, some lines further down. -/
def Diagnostic.shift (diagnostic : Diagnostic) (lines : Nat) : Diagnostic :=
  { diagnostic with line := diagnostic.line + lines }

/-- A shifted error is told by the same message under another number. -/
theorem Diagnostic.exists_message_shift (diagnostic : Diagnostic) (lines : Nat) :
    ∃ rest, diagnostic.message = "Línea " ++ toString diagnostic.line ++ ": " ++ rest ∧
      (diagnostic.shift lines).message =
        "Línea " ++ toString (diagnostic.line + lines) ++ ": " ++ rest :=
  ⟨diagnostic.fault.message, rfl, rfl⟩

/-! ## What some lines leave behind -/

/-- The words of a pass over some lines that starts at an address. -/
def wordsFrom (address : Word) (lines : List Assembled) : List Placed :=
  (visits address 1 lines).filterMap Visit.placed?

/-- The errors of a pass over some lines of which the first has a given number. -/
def errorsFrom (line : Nat) (lines : List Assembled) : List Diagnostic :=
  (visits 0 line lines).filterMap Visit.diagnostic?

/-- Words do not depend on the numbers of the lines. -/
theorem filterMap_placed?_visits (address : Word) (line line' : Nat) (lines : List Assembled) :
    (visits address line lines).filterMap Visit.placed? =
      (visits address line' lines).filterMap Visit.placed? := by
  induction lines generalizing address line line' with
  | nil => rfl
  | cons assembled rest ih =>
    have hplaced : Visit.placed? ⟨address, line, assembled⟩ =
        Visit.placed? ⟨address, line', assembled⟩ := rfl
    rw [visits, visits, List.filterMap_cons, List.filterMap_cons, hplaced]
    split_ifs
    · rfl
    · rw [ih _ (line + 1) (line' + 1)]

/-- Errors do not depend on the address, and on the number of the first line only by the numbers
that they carry. -/
theorem filterMap_diagnostic?_visits (address address' : Word) (line n : Nat)
    (lines : List Assembled) :
    (visits address (line + n) lines).filterMap Visit.diagnostic? =
      ((visits address' line lines).filterMap Visit.diagnostic?).map (·.shift n) := by
  induction lines generalizing address address' line with
  | nil => rfl
  | cons assembled rest ih =>
    have hdiagnostic : Visit.diagnostic? ⟨address, line + n, assembled⟩ =
        (Visit.diagnostic? ⟨address', line, assembled⟩).map (·.shift n) := by
      simp [Visit.diagnostic?, Diagnostic.shift, Function.comp_def]
    have hrest := ih (assembled.outcome.advance address) (assembled.outcome.advance address')
      (line + 1)
    rw [Nat.add_right_comm] at hrest
    rw [visits, visits, List.filterMap_cons, List.filterMap_cons, hdiagnostic]
    split_ifs
    · cases Visit.diagnostic? ⟨address', line, assembled⟩ <;> simp
    · rw [hrest]
      cases Visit.diagnostic? ⟨address', line, assembled⟩ <;> simp

theorem errorsFrom_add (line n : Nat) (lines : List Assembled) :
    errorsFrom (line + n) lines = (errorsFrom line lines).map (·.shift n) :=
  filterMap_diagnostic?_visits 0 0 line n lines

theorem filterMap_diagnostic?_visits_eq (address : Word) (line : Nat) (lines : List Assembled) :
    (visits address line lines).filterMap Visit.diagnostic? = errorsFrom line lines := by
  have h := filterMap_diagnostic?_visits address 0 line 0 lines
  simpa [errorsFrom, Diagnostic.shift] using h

/-- A line without a word may move the counter, and does nothing else to the words. -/
theorem wordsFrom_cons {assembled : Assembled} (hword : assembled.outcome.word? = none)
    (hhalt : assembled.outcome ≠ .halt) (address : Word) (rest : List Assembled) :
    wordsFrom address (assembled :: rest) =
      wordsFrom (assembled.outcome.advance address) rest := by
  have hplaced : Visit.placed? ⟨address, 1, assembled⟩ = none := by
    simp [Visit.placed?, hword]
  rw [wordsFrom, visits, if_neg hhalt, List.filterMap_cons_none hplaced,
    filterMap_placed?_visits _ (1 + 1) 1]
  rfl

/-! ## Lines behind other lines -/

section Append

variable {before : List Assembled} (h : ∀ a ∈ before, a.outcome ≠ .halt)

include h

theorem wordsFrom_append (address : Word) (after : List Assembled) :
    wordsFrom address (before ++ after) =
      wordsFrom address before ++
        wordsFrom (counter address (before.map (·.outcome))) after := by
  rw [wordsFrom, visits_append h, List.filterMap_append,
    filterMap_placed?_visits _ (1 + before.length) 1]
  rfl

theorem errorsFrom_append (line : Nat) (after : List Assembled) :
    errorsFrom line (before ++ after) =
      errorsFrom line before ++ errorsFrom (line + before.length) after := by
  rw [errorsFrom, visits_append h, List.filterMap_append, filterMap_diagnostic?_visits_eq,
    filterMap_diagnostic?_visits_eq]

theorem map_outcome_visits (address : Word) (line : Nat) :
    (visits address line before).map Visit.outcome = before.map (·.outcome) := by
  induction before generalizing address line with
  | nil => rfl
  | cons assembled rest ih =>
    have hne : assembled.outcome ≠ .halt := h assembled (by simp)
    rw [visits, if_neg hne, List.map_cons, List.map_cons, Visit.outcome_mk,
      ih fun a ha => h a (by simp [ha])]

end Append

/-! ## Sources -/

/-- The assembled lines of a source, each line on its own. -/
def assembledLines (strictness : Strictness) (source : String) : List Assembled :=
  (sourceLines source).map (Line.assemble strictness)

theorem trace_eq_visits (strictness : Strictness) (source : String) :
    trace strictness source = visits 0 1 (assembledLines strictness source) := rfl

theorem assemble_eq_from (strictness : Strictness) (source : String) :
    assemble strictness source =
      { words := wordsFrom 0 (assembledLines strictness source)
        errors := errorsFrom 1 (assembledLines strictness source) } :=
  assemble_eq_trace strictness source

theorem halt_mem_outcomes_iff {strictness : Strictness} {source : String} :
    .halt ∈ outcomes strictness source ↔
      ∃ a ∈ assembledLines strictness source, a.outcome = .halt := by
  rw [← map_outcome_assemble, List.mem_map]
  rfl

theorem outcome_ne_halt {strictness : Strictness} {source : String}
    (h : .halt ∉ outcomes strictness source) :
    ∀ a ∈ assembledLines strictness source, a.outcome ≠ .halt :=
  fun a ha heq => h (halt_mem_outcomes_iff.2 ⟨a, ha, heq⟩)

/-- Without an `END` the counter has passed every line. -/
theorem run_address {strictness : Strictness} {source : String}
    (h : .halt ∉ outcomes strictness source) :
    (Pass.run strictness source).address =
      counter 0 ((assembledLines strictness source).map (·.outcome)) := by
  rw [Pass.run_eq_extend, Pass.extend, trace_eq_visits, map_outcome_visits (outcome_ne_halt h)]

/-- The lines of two sources joined by a line feed are the lines of the one and of the other. -/
theorem sourceLines_concat (first second : String) :
    sourceLines (first ++ "\n" ++ second) = sourceLines first ++ sourceLines second := by
  have htext : (first ++ "\n" ++ second).toList = first.toList ++ '\n' :: second.toList := by
    simp
  rw [sourceLines, htext, List.splitOn_append_cons_self]
  rfl

theorem assembledLines_concat (strictness : Strictness) (first second : String) :
    assembledLines strictness (first ++ "\n" ++ second) =
      assembledLines strictness first ++ assembledLines strictness second := by
  rw [assembledLines, sourceLines_concat, List.map_append]
  rfl

/-- A line with `ORG` and an address in decimal. -/
theorem assembledLines_origin (strictness : Strictness) (address : Word) :
    assembledLines strictness ("ORG " ++ toString address.toNat) =
      [{ outcome := .origin address }] := by
  have hline : (Item.origin address).PrintsLine ("ORG " ++ toString address.toNat).toList := by
    have htext : ("ORG " ++ toString address.toNat).toList =
        "ORG".toList ++ (gap 0 ++ Nat.toDigits 10 address.toNat) := by
      rw [String.toList_append, Nat.toString_eq_repr, Nat.toList_repr]
      rfl
    rw [htext]
    exact .mk rfl ⟨_, rfl, Literal.spells_toDigits _⟩ (.last 0 _)
  rw [assembledLines, sourceLines, List.splitOn_eq_singleton (hline.not_mem (by decide)),
    List.map_singleton, hline.assemble_eq]
  rfl

/-- **Concatenated sources.** Behind a source with an `END`, a second source changes nothing.
Otherwise the second source adds its words as they are behind an `ORG` to the address that the first
has come to, and its errors, with the lines of the first source added to their numbers, in the
field as in the message. -/
theorem assemble_concat (strictness : Strictness) (first second : String) :
    (.halt ∈ outcomes strictness first →
      assemble strictness (first ++ "\n" ++ second) = assemble strictness first ∧
        (Pass.run strictness (first ++ "\n" ++ second)).events =
          (Pass.run strictness first).events) ∧
    (.halt ∉ outcomes strictness first →
      (assemble strictness (first ++ "\n" ++ second)).words =
        (assemble strictness first).words ++
          (assemble strictness ("ORG " ++ toString (Pass.run strictness first).address.toNat ++
            "\n" ++ second)).words ∧
      (assemble strictness (first ++ "\n" ++ second)).errors =
        (assemble strictness first).errors ++
          (assemble strictness second).errors.map (·.shift (sourceLines first).length) ∧
      ∀ diagnostic ∈ (assemble strictness second).errors,
        ∃ rest, diagnostic.message = "Línea " ++ toString diagnostic.line ++ ": " ++ rest ∧
          (diagnostic.shift (sourceLines first).length).message =
            "Línea " ++ toString (diagnostic.line + (sourceLines first).length) ++ ": " ++
              rest) := by
  refine ⟨fun h => ?_, fun h => ?_⟩
  · have htrace : trace strictness (first ++ "\n" ++ second) = trace strictness first := by
      rw [trace_eq_visits, assembledLines_concat,
        visits_append_of_halt (halt_mem_outcomes_iff.1 h), trace_eq_visits]
    rw [assemble_eq_trace, assemble_eq_trace, Pass.run_eq_extend, Pass.run_eq_extend, htrace]
    exact ⟨rfl, rfl⟩
  · have hlines := outcome_ne_halt h
    refine ⟨?_, ?_, fun diagnostic _ => diagnostic.exists_message_shift _⟩
    · simp only [assemble_eq_from, assembledLines_concat, assembledLines_origin,
        wordsFrom_append hlines, run_address h, List.singleton_append]
      rw [wordsFrom_cons (by rfl) (by simp)]
      rfl
    · have hlength : (assembledLines strictness first).length = (sourceLines first).length :=
        List.length_map _
      simp only [assemble_eq_from, assembledLines_concat, errorsFrom_append hlines, errorsFrom_add,
        hlength]

/-- The address wraps between two sources; and nothing follows an `END`. -/
theorem assemble_concat_wrapped :
    .halt ∉ outcomes .full "ORG 0xFFFF\nNOP" ∧
      (assemble .full ("ORG 0xFFFF\nNOP" ++ "\n" ++ "NOP\nMOVLW")).words =
        (assemble .full "ORG 0xFFFF\nNOP").words ++
          (assemble .full ("ORG " ++ toString (0 : Word).toNat ++ "\n" ++ "NOP\nMOVLW")).words ∧
      (assemble .full ("ORG 0xFFFF\nNOP" ++ "\n" ++ "NOP\nMOVLW")).errors =
        [⟨4, .missingOperand⟩] ∧
      .halt ∈ outcomes {} "FOO\nend ; here" ∧
      assemble {} ("FOO\nend ; here" ++ "\n" ++ "NOP") = assemble {} "FOO\nend ; here" := by
  have hrun : .halt ∉ outcomes .full "ORG 0xFFFF\nNOP" := by decide
  have hend : .halt ∈ outcomes {} "FOO\nend ; here" := by decide
  have haddress : (Pass.run .full "ORG 0xFFFF\nNOP").address = 0 := by decide
  obtain ⟨hwords, herrors, -⟩ := (assemble_concat .full "ORG 0xFFFF\nNOP" "NOP\nMOVLW").2 hrun
  rw [haddress] at hwords
  refine ⟨hrun, hwords, ?_, hend, ((assemble_concat {} "FOO\nend ; here" "NOP").1 hend).1⟩
  rw [herrors]
  decide

end Midrange
