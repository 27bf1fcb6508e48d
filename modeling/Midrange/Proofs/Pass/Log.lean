import Mathlib.Data.List.Forall2
import Midrange.Proofs.Line.Warning
import Midrange.Proofs.Pass.ClosedForm

/-!
# The log of a pass

The log tells of every line that a pass visits, in order: a line that is skipped leaves no record,
and any other line one record at debug level under its number, behind a warning if there is one.
Nothing is lost on the way: words and errors can be read off the debug records.

* `log strictness source`: the records of a source.
* `Accounts strictness line number records`: what the records of one line have to tell.
  `Visit.accounts` is the step, `forall₂_accounts` the run.
* `readPlaced`, `readError`, `readProgram`: a program read off records. `Visit.filterMap_readPlaced`
  and `Visit.filterMap_readError` read the records of one line.
* `log_accounts`: both for every source.
-/

namespace Midrange

open Event ClosedForm

/-- The records of the pass over a source. -/
def log (strictness : Strictness) (source : String) : List Record :=
  (Pass.run strictness source).events.toList.map record

/-- The lines that the pass over a source visits, with their numbers: those up to and including the
first `END`. -/
def visitedLines (strictness : Strictness) (source : String) : List (List Char × Nat) :=
  ((sourceLines source).take (haltIndex (outcomes strictness source) + 1)).zipIdx 1

/-! ## The records of one line -/

namespace Visit

/-- The records of a line. -/
def records (visit : Visit) : List Record :=
  visit.events.map record

theorem records_eq (visit : Visit) :
    visit.records = (visit.assembled.warning.map (warningRecord visit.line)).toList ++
      (visit.effect?.map record).toList := by
  obtain ⟨address, line, outcome, warning⟩ := visit
  cases warning <;> cases outcome <;> rfl

theorem effect?_eq_none_iff {visit : Visit} : visit.effect? = none ↔ visit.outcome = .skipped := by
  unfold effect?
  cases visit.outcome <;> simp

/-- The record of the effect of a line is at debug level and carries the number of the line. -/
theorem record_of_effect {visit : Visit} {event : Event} (h : visit.effect? = some event) :
    event.record.level = .debug ∧ event.record.fields = [("line", toString visit.line)] := by
  obtain ⟨address, line, outcome, warning⟩ := visit
  cases outcome with
  | skipped => cases h
  | origin | halt | emitted | failed =>
    obtain rfl := Option.some.inj h
    exact ⟨rfl, rfl⟩

end Visit

theorem level_warningRecord (number : Nat) (warning : Warning) :
    (warningRecord number warning).level = .warn := by
  cases warning <;> rfl

/-! ## Accounts -/

/-- What the records of a line with a given number tell of it. -/
structure Accounts (strictness : Strictness) (line : List Char) (number : Nat)
    (records : List Record) : Prop where
  /-- A line that is skipped leaves no record. -/
  skipped : (Line.assemble strictness line).outcome = .skipped → records = []
  /-- Any other line leaves one debug record under its number, behind at most one warning. -/
  told : (Line.assemble strictness line).outcome ≠ .skipped →
    ∃ (warning : Option Record) (effect : Record), records = warning.toList ++ [effect] ∧
      (∀ record ∈ warning, record.level = .warn) ∧
      effect.level = .debug ∧ effect.fields = [("line", toString number)]
  /-- The warning about `ORG` occurs where it should. -/
  origin_iff : (∃ record ∈ records, record.level = .warn ∧
      record.message = "ORG argument is not a number, using 0") ↔
    ∃ argument, Line.IsNonNumericOrigin strictness line argument
  /-- The warning about `ORG` is followed by an `ORG` to 0. -/
  origin_told : ∀ argument, Line.IsNonNumericOrigin strictness line argument →
    records = [warningRecord number (.originNotNumber argument), lineRecord number "ORG 0x0000"]
  /-- The warning about a destination occurs where it should. -/
  destination_iff : (∃ record ∈ records, record.level = .warn ∧
      record.message = "destination outside 0/1 is not masked") ↔
    ∃ spill, Line.IsSpilling strictness line spill
  /-- The warning about a destination is followed by the word of the line. -/
  destination_told : ∀ spill, Line.IsSpilling strictness line spill →
    ∃ address word, (Line.assemble strictness line).outcome = .emitted word ∧
      records = [warningRecord number (.destinationSpill spill),
        lineRecord number (hexWord address ++ ": " ++ hexWord word)]

namespace Visit

variable {strictness : Strictness} {line : List Char} {visit : Visit}

/-- A warning among the records of a line is the warning of the line. -/
theorem exists_warn_iff {message : String} :
    (∃ record ∈ visit.records, record.level = .warn ∧ record.message = message) ↔
      ∃ warning, visit.assembled.warning = some warning ∧
        (warningRecord visit.line warning).message = message := by
  rw [records_eq]
  constructor
  · rintro ⟨record, hmem, hlevel, hmessage⟩
    rcases List.mem_append.1 hmem with hmem | hmem
    · obtain ⟨warning, hwarning, rfl⟩ := Option.map_eq_some_iff.1 (Option.mem_toList.1 hmem)
      exact ⟨warning, hwarning, hmessage⟩
    · obtain ⟨event, hevent, rfl⟩ := Option.map_eq_some_iff.1 (Option.mem_toList.1 hmem)
      simp [(record_of_effect hevent).1] at hlevel
  · rintro ⟨warning, hwarning, hmessage⟩
    exact ⟨_, by simp [hwarning], level_warningRecord visit.line warning, hmessage⟩

theorem exists_warn_origin_iff (h : visit.assembled = Line.assemble strictness line) :
    (∃ record ∈ visit.records, record.level = .warn ∧
      record.message = "ORG argument is not a number, using 0") ↔
    ∃ argument, Line.IsNonNumericOrigin strictness line argument := by
  simp only [exists_warn_iff, h, ← Line.warning_origin_iff]
  constructor
  · rintro ⟨warning, hwarning, hmessage⟩
    cases warning with
    | originNotNumber argument => exact ⟨argument, hwarning⟩
    | destinationSpill spill => simp [warningRecord] at hmessage
  · rintro ⟨argument, hwarning⟩
    exact ⟨_, hwarning, rfl⟩

theorem exists_warn_destination_iff (h : visit.assembled = Line.assemble strictness line) :
    (∃ record ∈ visit.records, record.level = .warn ∧
      record.message = "destination outside 0/1 is not masked") ↔
    ∃ spill, Line.IsSpilling strictness line spill := by
  simp only [exists_warn_iff, h, ← Line.warning_spill_iff]
  constructor
  · rintro ⟨warning, hwarning, hmessage⟩
    cases warning with
    | originNotNumber argument => simp [warningRecord] at hmessage
    | destinationSpill spill => exact ⟨spill, hwarning⟩
  · rintro ⟨spill, hwarning⟩
    exact ⟨_, hwarning, rfl⟩

/-- **The records of a line account for it.** -/
theorem accounts (h : visit.assembled = Line.assemble strictness line) :
    Accounts strictness line visit.line visit.records where
  skipped hskipped := by
    have hwarning := Line.warning_of_skipped hskipped
    have heffect : visit.effect? = none := effect?_eq_none_iff.2 (by rw [outcome, h, hskipped])
    rw [records_eq, h, hwarning, heffect]
    rfl
  told htold := by
    have heffect : visit.effect? ≠ none := by
      rw [Ne, effect?_eq_none_iff, outcome, h]
      exact htold
    obtain ⟨event, hevent⟩ := Option.ne_none_iff_exists'.1 heffect
    refine ⟨visit.assembled.warning.map (warningRecord visit.line), event.record, ?_, ?_,
      record_of_effect hevent⟩
    · rw [records_eq, hevent]
      rfl
    · intro record hrecord
      obtain ⟨warning, -, rfl⟩ := Option.map_eq_some_iff.1 hrecord
      exact level_warningRecord _ _
  origin_iff := exists_warn_origin_iff h
  origin_told argument horigin := by
    have houtcome := Line.outcome_of_isNonNumericOrigin horigin
    rw [← Line.warning_origin_iff] at horigin
    rw [records_eq, effect?, outcome, h, horigin, houtcome]
    rfl
  destination_iff := exists_warn_destination_iff h
  destination_told spill hspilling := by
    obtain ⟨word, houtcome⟩ := Line.outcome_of_isSpilling hspilling
    rw [← Line.warning_spill_iff] at hspilling
    refine ⟨visit.address, word, houtcome, ?_⟩
    rw [records_eq, effect?, outcome, h, hspilling, houtcome]
    rfl

end Visit

/-! ## The records of a source -/

/-- **A pass visits the lines up to and including the first `END`**, under their numbers. -/
theorem forall₂_visits_lines (strictness : Strictness) (address : Word) (number : Nat)
    (lines : List (List Char)) :
    List.Forall₂ (fun (entry : List Char × Nat) (visit : Visit) =>
        visit.line = entry.2 ∧ visit.assembled = Line.assemble strictness entry.1)
      ((lines.take (haltIndex (lines.map fun line => (Line.assemble strictness line).outcome) +
        1)).zipIdx number)
      (visits address number (lines.map (Line.assemble strictness))) := by
  induction lines generalizing address number with
  | nil => exact .nil
  | cons line rest ih =>
    rw [List.map_cons, List.map_cons, List.take_succ_cons, List.zipIdx_cons, visits]
    refine .cons ⟨rfl, rfl⟩ ?_
    by_cases hhalt : (Line.assemble strictness line).outcome = .halt
    · rw [if_pos hhalt, hhalt, haltIndex_cons_halt]
      exact .nil
    · rw [if_neg hhalt, haltIndex_cons_of_ne hhalt]
      exact ih _ _

theorem log_eq_flatten (strictness : Strictness) (source : String) :
    log strictness source = ((trace strictness source).map Visit.records).flatten := by
  rw [log, events_eq_trace, List.map_flatMap, ← List.flatMap_def]
  rfl

theorem forall₂_accounts (strictness : Strictness) (source : String) :
    List.Forall₂ (fun entry records => Accounts strictness entry.1 entry.2 records)
      (visitedLines strictness source) ((trace strictness source).map Visit.records) := by
  rw [List.forall₂_map_right_iff]
  refine (forall₂_visits_lines strictness 0 1 (sourceLines source)).imp ?_
  rintro entry visit ⟨hline, hassembled⟩
  rw [← hline]
  exact Visit.accounts hassembled

/-! ## Reading a program off the records -/

/-- A word, read off four hexadecimal digits. -/
def readWord (digits : List Char) : Option Word :=
  if digits.length = 4 ∧ digits.all (Text.isDigit 16) then
    some (BitVec.ofNat 16 (Literal.positional 16 digits))
  else none

/-- A word at its address, read off a message `0xaaaa: 0xvvvv`. -/
def readPlaced (record : Record) : Option Placed :=
  match record.message.toList with
  | '0' :: 'x' :: a :: b :: c :: d :: ':' :: ' ' :: '0' :: 'x' :: digits => do
    return ⟨← readWord [a, b, c, d], ← readWord digits⟩
  | _ => none

/-- An error with its line, read off a record whose message starts with `Línea `. The number of the
line is the one in the field of the record. -/
def readError (record : Record) : Option (Nat × String) :=
  if "Línea ".toList <+: record.message.toList then
    (record.fields.lookup "line").map fun field =>
      (Literal.positional 10 field.toList, record.message)
  else none

/-- The words and the errors that the debug records among some records tell of. -/
def readProgram (records : List Record) : List Placed × List (Nat × String) :=
  let told := records.filter (·.level = .debug)
  (told.filterMap readPlaced, told.filterMap readError)

theorem readWord_hex (w : Word) : readWord w.hex = some w := by
  have hnumeral := Literal.isNumeral_hex w
  have hall : w.hex.all (Text.isDigit 16) = true := List.all_eq_true.2 hnumeral.isDigit
  rw [readWord, if_pos ⟨rfl, hall⟩, hnumeral.value, BitVec.ofNat_toNat, BitVec.setWidth_eq]

theorem readPlaced_emitted (line : Nat) (placed : Placed) :
    readPlaced (Event.emitted line placed).record = some placed := by
  have hmessage : (Event.emitted line placed).record.message.toList =
      '0' :: 'x' :: (placed.address.hex ++ ':' :: ' ' :: '0' :: 'x' :: placed.value.hex) := by
    simp [record, lineRecord, hexWord]
  obtain ⟨a, b, c, d, haddress⟩ : ∃ a b c d, placed.address.hex = [a, b, c, d] :=
    ⟨_, _, _, _, rfl⟩
  have hread := readWord_hex placed.address
  rw [haddress] at hread
  rw [readPlaced, hmessage, haddress]
  simp [hread, readWord_hex]

theorem readError_failed (diagnostic : Diagnostic) :
    readError (Event.failed diagnostic).record = some (diagnostic.line, diagnostic.message) := by
  have hmessage : "Línea ".toList <+: (Event.failed diagnostic).record.message.toList := by
    simp only [record, lineRecord, Diagnostic.message, String.toList_append, List.append_assoc]
    exact List.prefix_append _ _
  have hvalue : Literal.positional 10 (Nat.toDigits 10 diagnostic.line) = diagnostic.line :=
    (Literal.isNumeral_toDigits (by omega) (by omega) _).value
  rw [readError, if_pos hmessage]
  simp [record, lineRecord, hvalue]

/-- A placed word is read only off a message that starts with `0`. -/
theorem readPlaced_eq_none {record : Record} (h : record.message.toList.head? ≠ some '0') :
    readPlaced record = none := by
  unfold readPlaced
  split
  · rename_i hmessage
    simp [hmessage] at h
  · rfl

/-- An error is read only off a message that starts with `L`. -/
theorem readError_eq_none {record : Record} (h : record.message.toList.head? ≠ some 'L') :
    readError record = none := by
  rw [readError, if_neg]
  rintro ⟨rest, hrest⟩
  simp [← hrest] at h

namespace Visit

theorem filter_debug (visit : Visit) :
    visit.records.filter (·.level = .debug) = (visit.effect?.map record).toList := by
  have hwarning : ∀ record ∈ (visit.assembled.warning.map (warningRecord visit.line)).toList,
      ¬decide (record.level = .debug) = true := by
    intro record hmem
    obtain ⟨warning, -, rfl⟩ := Option.map_eq_some_iff.1 (Option.mem_toList.1 hmem)
    simp [level_warningRecord]
  have heffect : ∀ record ∈ (visit.effect?.map Event.record).toList,
      decide (record.level = .debug) = true := by
    intro record hmem
    obtain ⟨event, hevent, rfl⟩ := Option.map_eq_some_iff.1 (Option.mem_toList.1 hmem)
    simp [record_of_effect hevent]
  rw [records_eq, List.filter_append, List.filter_eq_nil_iff.2 hwarning,
    List.filter_eq_self.2 heffect, List.nil_append]

theorem filterMap_readPlaced (visit : Visit) :
    (visit.records.filter (·.level = .debug)).filterMap readPlaced = visit.placed?.toList := by
  rw [filter_debug]
  obtain ⟨address, line, outcome, warning⟩ := visit
  -- The four kinds of message are told apart by their first character.
  cases outcome with
  | skipped => rfl
  | origin target =>
    exact List.filterMap_cons_none (readPlaced_eq_none (by simp [record, lineRecord]))
  | halt => exact List.filterMap_cons_none (readPlaced_eq_none (by simp [record, lineRecord]))
  | emitted value =>
    exact List.filterMap_cons_some (readPlaced_emitted line ⟨address, value⟩)
  | failed fault =>
    exact List.filterMap_cons_none
      (readPlaced_eq_none (by simp [record, lineRecord, Diagnostic.message]))

theorem filterMap_readError (visit : Visit) :
    (visit.records.filter (·.level = .debug)).filterMap readError =
      (visit.diagnostic?.map fun diagnostic => (diagnostic.line, diagnostic.message)).toList := by
  rw [filter_debug]
  obtain ⟨address, line, outcome, warning⟩ := visit
  cases outcome with
  | skipped => rfl
  | origin target =>
    exact List.filterMap_cons_none (readError_eq_none (by simp [record, lineRecord]))
  | halt => exact List.filterMap_cons_none (readError_eq_none (by simp [record, lineRecord]))
  | emitted value =>
    exact List.filterMap_cons_none (readError_eq_none (by simp [record, lineRecord, hexWord]))
  | failed fault => exact List.filterMap_cons_some (readError_failed ⟨line, fault⟩)

end Visit

/-- **The program of some visits is read off their records.** -/
theorem readProgram_records (vs : List Visit) :
    readProgram (vs.map Visit.records).flatten =
      (vs.filterMap Visit.placed?,
        (vs.filterMap Visit.diagnostic?).map fun diagnostic =>
          (diagnostic.line, diagnostic.message)) := by
  induction vs with
  | nil => rfl
  | cons visit rest ih =>
    simp only [readProgram, Prod.mk.injEq] at ih
    simp only [readProgram, List.map_cons, List.flatten_cons, List.filter_append,
      List.filterMap_append, Visit.filterMap_readPlaced, Visit.filterMap_readError, ih]
    rw [List.filterMap_cons, List.filterMap_cons]
    cases visit.placed? <;> cases visit.diagnostic? <;> rfl

/-- **The log is a faithful account of the pass.** It consists of the records of the lines up to and
including the first `END`, in order, each line being accounted for; and the words and the errors of
the program can be read off its debug records. -/
theorem log_accounts (strictness : Strictness) (source : String) :
    (∃ blocks, log strictness source = blocks.flatten ∧
      List.Forall₂ (fun entry records => Accounts strictness entry.1 entry.2 records)
        (visitedLines strictness source) blocks) ∧
    readProgram (log strictness source) =
      ((assemble strictness source).words,
        (assemble strictness source).errors.map fun diagnostic =>
          (diagnostic.line, diagnostic.message)) := by
  refine ⟨⟨_, log_eq_flatten strictness source, forall₂_accounts strictness source⟩, ?_⟩
  rw [log_eq_flatten, readProgram_records, assemble_eq_trace]

/-- Two lines with a warning, one with an error, and nothing about what follows `END`. -/
example : (log {} "ORG x\nMOVF 1, 2\n; MOVF\nMOVF\nEND\nNOP").map (·.message) =
    ["ORG argument is not a number, using 0", "ORG 0x0000",
      "destination outside 0/1 is not masked", "0x0000: 0x0901",
      "Línea 4: Falta operando", "END"] := by
  decide

end Midrange
