import Midrange.Proofs.Pass.ClosedForm
import Midrange.Proofs.Source.Concatenation

/-!
# Editing a source

A line that fails leaves nothing behind but its error: with a blank line in its place a source has
the same words at the same addresses, and the other errors. A blank line that is put in somewhere
moves the errors behind it down by one line and changes nothing else.

* `Line.IsBlank line`: a line of separators and perhaps a comment. `Line.assemble_of_isBlank`: it is
  skipped.
* `replaceLine`, `insertLine`: the two edits, both by `spliceLine`. `assembledLines_spliceLine` and
  `errors_spliceLine` say what a blank line makes of a source.
* `wordsFrom_append_idle`: a line that is skipped or fails does not touch the words.
* `line_of_mem_errorsFrom`: the errors of some lines carry the numbers of these lines.
* `assemble_blank_line`: both edits, at every line up to the first `END`.
-/

namespace Midrange

/-! ## Blank lines -/

/-- A line of separators, and a comment behind them if there is one. -/
def Line.IsBlank (line : List Char) : Prop :=
  ∃ blanks comment, line = blanks ++ comment ∧ (∀ c ∈ blanks, isSeparator c = true) ∧
    (comment = [] ∨ ∃ rest, comment = ';' :: rest)

theorem Line.code_of_isBlank {line : List Char} (h : IsBlank line) :
    ∀ c ∈ code line, isSeparator c = true := by
  obtain ⟨blanks, comment, rfl, hblanks, hcomment⟩ := h
  have hne : ∀ c ∈ blanks, (c != ';') = true := by
    intro c hc
    rw [bne_iff_ne]
    rintro rfl
    exact absurd (hblanks _ hc) (by decide)
  have hcode : code (blanks ++ comment) = blanks := by
    rw [code, List.takeWhile_append_of_pos hne]
    rcases hcomment with rfl | ⟨rest, rfl⟩ <;> simp
  rwa [hcode]

/-- A blank line is skipped. -/
theorem Line.assemble_of_isBlank {line : List Char} (h : IsBlank line) (strictness : Strictness) :
    assemble strictness line = { outcome := .skipped } := by
  have htokens : tokens line = [] := by
    simpa [tokens] using Text.fields_gap_append (code_of_isBlank h) []
  rw [assemble, htokens]
  rfl

/-! ## Edits -/

/-- The text with the given lines. -/
def joinLines (lines : List (List Char)) : String :=
  String.ofList (['\n'].intercalate lines)

theorem sourceLines_joinLines {lines : List (List Char)} (h : ∀ line ∈ lines, '\n' ∉ line)
    (hne : lines ≠ []) : sourceLines (joinLines lines) = lines := by
  rw [sourceLines, joinLines, String.toList_ofList, List.splitOn_intercalate '\n' h hne]

/-- A source with a line put in before the line of index `i`, in the place of some lines. -/
def spliceLine (source : String) (i removed : Nat) (text : List Char) : String :=
  joinLines ((sourceLines source).take i ++ text :: (sourceLines source).drop (i + removed))

/-- A source with another text in its line of index `i`. -/
def replaceLine (source : String) (i : Nat) (text : List Char) : String :=
  spliceLine source i 1 text

/-- A source with a line put in before its line of index `i`. -/
def insertLine (source : String) (i : Nat) (text : List Char) : String :=
  spliceLine source i 0 text

variable {strictness : Strictness} {source : String} {i : Nat} {text : List Char}

theorem assembledLines_spliceLine (htext : '\n' ∉ text) (hblank : Line.IsBlank text)
    (removed : Nat) :
    assembledLines strictness (spliceLine source i removed text) =
      (assembledLines strictness source).take i ++
        { outcome := .skipped } :: (assembledLines strictness source).drop (i + removed) := by
  have hlines : ∀ line ∈ (sourceLines source).take i ++
      text :: (sourceLines source).drop (i + removed), '\n' ∉ line := by
    simp only [List.mem_append, List.mem_cons]
    rintro line (hline | rfl | hline)
    · exact not_mem_of_mem_sourceLines (List.mem_of_mem_take hline)
    · exact htext
    · exact not_mem_of_mem_sourceLines (List.mem_of_mem_drop hline)
  rw [assembledLines, spliceLine, sourceLines_joinLines hlines (by simp), List.map_append,
    List.map_cons, Line.assemble_of_isBlank hblank, List.map_take, List.map_drop]
  rfl

/-! ## Errors by line -/

theorem line_of_mem_visits {address : Word} {line : Nat} {lines : List Assembled} {visit : Visit}
    (h : visit ∈ visits address line lines) :
    line ≤ visit.line ∧ visit.line < line + lines.length := by
  induction lines generalizing address line with
  | nil => simp [visits] at h
  | cons assembled rest ih =>
    rw [visits, List.mem_cons] at h
    rw [List.length_cons]
    rcases h with rfl | h
    · dsimp only
      omega
    · split_ifs at h with hhalt
      · simp at h
      · have hrest := ih h
        omega

theorem line_of_mem_errorsFrom {line : Nat} {lines : List Assembled} {diagnostic : Diagnostic}
    (h : diagnostic ∈ errorsFrom line lines) :
    line ≤ diagnostic.line ∧ diagnostic.line < line + lines.length := by
  obtain ⟨visit, hvisit, hdiagnostic⟩ := List.mem_filterMap.1 h
  obtain ⟨fault, -, rfl⟩ := Option.map_eq_some_iff.1 hdiagnostic
  exact line_of_mem_visits hvisit

theorem errorsFrom_cons {assembled : Assembled} (h : assembled.outcome ≠ .halt) (line : Nat)
    (rest : List Assembled) :
    errorsFrom line (assembled :: rest) =
      (assembled.outcome.fault?.map (Diagnostic.mk line)).toList ++ errorsFrom (line + 1) rest := by
  rw [errorsFrom, visits, if_neg h, List.filterMap_cons, filterMap_diagnostic?_visits_eq]
  simp only [Visit.diagnostic?, Visit.outcome_mk]
  cases assembled.outcome.fault? <;> rfl

/-! ## Lines without effect -/

/-- A line that neither places a word nor moves the counter nor ends the pass. -/
def Outcome.IsIdle (outcome : Outcome) : Prop :=
  outcome = .skipped ∨ ∃ fault, outcome = .failed fault

theorem Outcome.IsIdle.ne_halt {outcome : Outcome} (h : outcome.IsIdle) : outcome ≠ .halt := by
  rcases h with rfl | ⟨fault, rfl⟩ <;> simp

/-- **Words are not touched by an idle line.** -/
theorem wordsFrom_append_idle {before : List Assembled} (h : ∀ a ∈ before, a.outcome ≠ .halt)
    {assembled : Assembled} (hidle : assembled.outcome.IsIdle) (address : Word)
    (after : List Assembled) :
    wordsFrom address (before ++ assembled :: after) = wordsFrom address (before ++ after) := by
  have hword : assembled.outcome.word? = none := by
    rcases hidle with heq | ⟨fault, heq⟩ <;> rw [heq] <;> rfl
  have hadvance : ∀ counter : Word, assembled.outcome.advance counter = counter := by
    intro counter
    rcases hidle with heq | ⟨fault, heq⟩ <;> rw [heq] <;> rfl
  rw [wordsFrom_append h, wordsFrom_append h, wordsFrom_cons hword hidle.ne_halt, hadvance]

/-! ## Edited programs -/

open ClosedForm

theorem drop_eq_cons_of_failed {fault : Fault}
    (hfault : (outcomes strictness source)[i]? = some (.failed fault)) :
    ∃ assembled : Assembled, assembled.outcome = .failed fault ∧
      (assembledLines strictness source).drop i =
        assembled :: (assembledLines strictness source).drop (i + 1) := by
  rw [← map_outcome_assemble, List.getElem?_map] at hfault
  obtain ⟨assembled, hassembled, houtcome⟩ := Option.map_eq_some_iff.1 hfault
  obtain ⟨hlt, hget⟩ := List.getElem?_eq_some_iff.1 hassembled
  refine ⟨assembled, houtcome, ?_⟩
  rw [← hget]
  exact List.drop_eq_getElem_cons hlt

section Edited

variable (hi : i ≤ haltIndex (outcomes strictness source))

include hi

/-- Before the first `END` there is none. -/
theorem outcome_ne_halt_of_mem_take :
    ∀ a ∈ (assembledLines strictness source).take i, a.outcome ≠ .halt := by
  intro a ha
  obtain ⟨j, hj, rfl⟩ := List.mem_take_iff_getElem.1 ha
  have hne := List.not_of_lt_findIdx (show j < haltIndex (outcomes strictness source) by omega)
  simpa [outcomes, assembledLines] using hne

theorem length_take_assembledLines : ((assembledLines strictness source).take i).length = i := by
  have hle : haltIndex (outcomes strictness source) ≤ (outcomes strictness source).length :=
    List.findIdx_le_length
  have hlength : (assembledLines strictness source).length =
      (outcomes strictness source).length := by
    simp [outcomes, assembledLines]
  rw [List.length_take]
  omega

/-- The errors of a source before the line of index `i`, and from it on. -/
theorem errors_eq_append :
    (assemble strictness source).errors =
      errorsFrom 1 ((assembledLines strictness source).take i) ++
        errorsFrom (i + 1) ((assembledLines strictness source).drop i) := by
  have happend := errorsFrom_append (outcome_ne_halt_of_mem_take hi) 1
    ((assembledLines strictness source).drop i)
  rw [List.take_append_drop, length_take_assembledLines hi, Nat.add_comm 1 i] at happend
  rw [assemble_eq_from]
  exact happend

/-- The errors before the line of index `i` have smaller numbers. -/
theorem line_le_of_mem_take :
    ∀ diagnostic ∈ errorsFrom 1 ((assembledLines strictness source).take i),
      diagnostic.line ≤ i := by
  intro diagnostic hmem
  have hline := line_of_mem_errorsFrom hmem
  rw [length_take_assembledLines hi] at hline
  omega

variable (htext : '\n' ∉ text) (hblank : Line.IsBlank text)

include htext hblank

/-- The words of a source with a blank line put in: the blank line is as good as none. -/
theorem words_spliceLine (removed : Nat) :
    (assemble strictness (spliceLine source i removed text)).words =
      wordsFrom 0 ((assembledLines strictness source).take i ++
        (assembledLines strictness source).drop (i + removed)) := by
  rw [assemble_eq_from, assembledLines_spliceLine htext hblank]
  exact wordsFrom_append_idle (outcome_ne_halt_of_mem_take hi) (.inl rfl) 0 _

/-- The errors of a source with a blank line put in: the blank line counts. -/
theorem errors_spliceLine (removed : Nat) :
    (assemble strictness (spliceLine source i removed text)).errors =
      errorsFrom 1 ((assembledLines strictness source).take i) ++
        errorsFrom (i + 2) ((assembledLines strictness source).drop (i + removed)) := by
  rw [assemble_eq_from, assembledLines_spliceLine htext hblank,
    errorsFrom_append (outcome_ne_halt_of_mem_take hi), length_take_assembledLines hi,
    errorsFrom_cons (by simp), Nat.add_comm 1 i]
  rfl

/-! ### A line put in -/

theorem words_insertLine :
    (assemble strictness (insertLine source i text)).words =
      (assemble strictness source).words := by
  rw [insertLine, words_spliceLine hi htext hblank, Nat.add_zero, List.take_append_drop,
    assemble_eq_from]

theorem errors_insertLine :
    (assemble strictness (insertLine source i text)).errors =
      (assemble strictness source).errors.map fun diagnostic =>
        if diagnostic.line ≤ i then diagnostic else diagnostic.shift 1 := by
  rw [insertLine, errors_spliceLine hi htext hblank, errors_eq_append hi, List.map_append,
    errorsFrom_add (i + 1) 1]
  congr 1
  · refine (List.map_id _).symm.trans (List.map_congr_left fun diagnostic hmem => ?_)
    rw [if_pos (line_le_of_mem_take hi diagnostic hmem), id]
  · refine List.map_congr_left fun diagnostic hmem => ?_
    have hline := line_of_mem_errorsFrom hmem
    rw [if_neg (by omega)]

/-! ### A line replaced -/

theorem words_replaceLine {fault : Fault}
    (hfault : (outcomes strictness source)[i]? = some (.failed fault)) :
    (assemble strictness (replaceLine source i text)).words =
      (assemble strictness source).words := by
  obtain ⟨assembled, houtcome, hdrop⟩ := drop_eq_cons_of_failed hfault
  -- The line that failed is as good as none, too.
  have hidle := wordsFrom_append_idle (outcome_ne_halt_of_mem_take hi) (.inr ⟨fault, houtcome⟩) 0
    ((assembledLines strictness source).drop (i + 1))
  rw [← hdrop, List.take_append_drop] at hidle
  rw [replaceLine, words_spliceLine hi htext hblank, ← hidle, assemble_eq_from]

theorem errors_replaceLine {fault : Fault}
    (hfault : (outcomes strictness source)[i]? = some (.failed fault)) :
    ∃ before after, (assemble strictness source).errors = before ++ ⟨i + 1, fault⟩ :: after ∧
      (assemble strictness (replaceLine source i text)).errors = before ++ after ∧
      ∀ diagnostic ∈ before ++ after, diagnostic.line ≠ i + 1 := by
  obtain ⟨assembled, houtcome, hdrop⟩ := drop_eq_cons_of_failed hfault
  refine ⟨_, _, ?_, errors_spliceLine hi htext hblank 1, ?_⟩
  · rw [errors_eq_append hi, hdrop, errorsFrom_cons (by simp [houtcome]), houtcome]
    rfl
  · intro diagnostic hmem
    rcases List.mem_append.1 hmem with hmem | hmem
    · have hline := line_le_of_mem_take hi diagnostic hmem
      omega
    · have hline := line_of_mem_errorsFrom hmem
      omega

end Edited

/-- **Lines that fail and blank lines keep to themselves.** Let the line of index `i` not stand
after the first `END`. If it fails, a blank line in its place keeps the words, and the errors but
for the one of that line. A blank line put in before it keeps the words, and moves the errors from
there on down by one line, in the field as in the message. -/
theorem assemble_blank_line (strictness : Strictness) (source : String) {i : Nat}
    (hi : i ≤ haltIndex (outcomes strictness source)) {text : List Char} (htext : '\n' ∉ text)
    (hblank : Line.IsBlank text) :
    (∀ fault, (outcomes strictness source)[i]? = some (.failed fault) →
      (assemble strictness (replaceLine source i text)).words =
        (assemble strictness source).words ∧
      ∃ before after, (assemble strictness source).errors = before ++ ⟨i + 1, fault⟩ :: after ∧
        (assemble strictness (replaceLine source i text)).errors = before ++ after ∧
        ∀ diagnostic ∈ before ++ after, diagnostic.line ≠ i + 1) ∧
    (assemble strictness (insertLine source i text)).words = (assemble strictness source).words ∧
    (assemble strictness (insertLine source i text)).errors =
      (assemble strictness source).errors.map
        (fun diagnostic => if diagnostic.line ≤ i then diagnostic else diagnostic.shift 1) ∧
    ∀ diagnostic ∈ (assemble strictness source).errors,
      ∃ rest, diagnostic.message = "Línea " ++ toString diagnostic.line ++ ": " ++ rest ∧
        (diagnostic.shift 1).message =
          "Línea " ++ toString (diagnostic.line + 1) ++ ": " ++ rest :=
  ⟨fun _ hfault => ⟨words_replaceLine hi htext hblank hfault,
      errors_replaceLine hi htext hblank hfault⟩,
    words_insertLine hi htext hblank, errors_insertLine hi htext hblank,
    fun diagnostic _ => diagnostic.exists_message_shift 1⟩

/-- A comment in the place of the second line, which fails, and one before the fourth. -/
theorem assemble_blank_line_comment :
    (outcomes {} "ORG 5\nFOO\nNOP\nMOVLW\nEND\nBAR")[1]? =
        some (.failed (.unknownMnemonic "FOO".toList)) ∧
      (assemble {} (replaceLine "ORG 5\nFOO\nNOP\nMOVLW\nEND\nBAR" 1 "; FOO".toList)).words =
        [⟨5, 0⟩] ∧
      (assemble {} (insertLine "ORG 5\nFOO\nNOP\nMOVLW\nEND\nBAR" 3 "\t;".toList)).errors =
        [⟨2, .unknownMnemonic "FOO".toList⟩, ⟨5, .missingOperand⟩] := by
  have hcomment : Line.IsBlank "; FOO".toList := ⟨[], _, rfl, by simp, .inr ⟨_, rfl⟩⟩
  have hblank : Line.IsBlank "\t;".toList :=
    ⟨['\t'], [';'], rfl, List.forall_mem_singleton.2 (by decide), .inr ⟨_, rfl⟩⟩
  have hfault : (outcomes {} "ORG 5\nFOO\nNOP\nMOVLW\nEND\nBAR")[1]? =
      some (.failed (.unknownMnemonic "FOO".toList)) := by decide
  have hreplace := assemble_blank_line {} "ORG 5\nFOO\nNOP\nMOVLW\nEND\nBAR" (i := 1)
    (by decide) (by decide) hcomment
  have hinsert := assemble_blank_line {} "ORG 5\nFOO\nNOP\nMOVLW\nEND\nBAR" (i := 3)
    (by decide) (by decide) hblank
  refine ⟨hfault, ?_, ?_⟩
  · rw [(hreplace.1 _ hfault).1]
    decide
  · rw [hinsert.2.2.1]
    decide

end Midrange
