import Midrange.Proofs.Basic
import Midrange.Proofs.Pass.Trace
import Midrange.Proofs.Text.LetterCase

/-!
# Letter case never matters

A source in capitals assembles to the same words as the source itself. Its errors stand at the same
lines; of their texts only an invalid literal is quoted in the case in which it was written.

* `inCapitals`, of a fault, an outcome, a warning and an assembled line: what is quoted as written
  is put in capitals.
* `Literal.read_map_toUpper`: a literal is read by its capitals, whatever marks, digits and signs it
  has; `encode_map_toUpper` and `Line.assemble_map_toUpper` follow the tokens through a line.
* `visits_map`: lines with another wording of what they quote are visited in the same way.
* `assemble_flipped`: sources that differ in the case of letters.
-/

namespace Midrange

/-! ## What is quoted as written -/

/-- The fault with the literal that it quotes in capitals. All other texts of a fault are in upper
case anyway. -/
def Fault.inCapitals : Fault → Fault
  | .invalidLiteral token => .invalidLiteral (token.map Char.toUpper)
  | fault => fault

/-- The outcome with its fault in capitals. -/
def Outcome.inCapitals : Outcome → Outcome
  | .failed fault => .failed fault.inCapitals
  | outcome => outcome

/-- The warning with the argument that it quotes in capitals. -/
def Warning.inCapitals : Warning → Warning
  | .originNotNumber argument => .originNotNumber (argument.map Char.toUpper)
  | warning => warning

/-- The assembled line with everything that is quoted from it in capitals. -/
def Assembled.inCapitals (assembled : Assembled) : Assembled where
  outcome := assembled.outcome.inCapitals
  warning := assembled.warning.map Warning.inCapitals

/-! ## Literals -/

namespace Literal

open Text

theorem clean_map_toUpper (token : List Char) :
    clean (token.map Char.toUpper) = (clean token).map Char.toUpper := by
  have hcomma : (fun c : Char => c != ',') ∘ Char.toUpper = fun c => c != ',' :=
    funext fun c => congrArg (!·) (beq_toUpper (by decide) c)
  rw [clean, trim_map_toUpper, List.filter_map, hcomma, clean]

theorem splitSign_map_toUpper (text : List Char) :
    splitSign (text.map Char.toUpper) =
      ((splitSign text).1, (splitSign text).2.map Char.toUpper) := by
  cases text with
  | nil => rfl
  | cons c rest =>
    by_cases hminus : c = '-'
    · subst hminus
      rfl
    by_cases hplus : c = '+'
    · subst hplus
      rfl
    have hminus' : c.toUpper ≠ '-' := mt (toUpper_eq_iff (by decide)).1 hminus
    have hplus' : c.toUpper ≠ '+' := mt (toUpper_eq_iff (by decide)).1 hplus
    simp [splitSign, hminus, hplus, hminus', hplus']

theorem dropHexMark_cons_cons (c d : Char) (rest : List Char) :
    dropHexMark (c :: d :: rest) =
      if c = '0' ∧ d.toUpper = 'X' then rest else c :: d :: rest := by
  have hmark : d.toUpper = 'X' ↔ d = 'x' ∨ d = 'X' := toUpper_eq_capital_iff (by decide)
  unfold dropHexMark
  split
  · simp_all
  · simp_all
  · simp_all

theorem dropHexMark_map_toUpper (text : List Char) :
    dropHexMark (text.map Char.toUpper) = (dropHexMark text).map Char.toUpper := by
  match text with
  | [] => rfl
  | [c] => simp [dropHexMark]
  | c :: d :: rest =>
    have hzero : c.toUpper = '0' ↔ c = '0' := toUpper_eq_iff (by decide)
    simp only [List.map_cons, dropHexMark_cons_cons, toUpper_toUpper, hzero]
    split_ifs <;> rfl

theorem accumulate_map_toUpper (radix : Nat) (digits : List Char) :
    accumulate radix (digits.map Char.toUpper) = accumulate radix digits := by
  simp only [accumulate, List.foldl_map, digitValue_toUpper]

theorem body_map_toUpper (radix : Nat) (text : List Char) :
    body radix (text.map Char.toUpper) = (body radix text).map Char.toUpper := by
  simp only [body, splitSign_map_toUpper, dropHexMark_map_toUpper]
  split_ifs <;> rfl

/-- **A run of digits is read by its capitals.** -/
theorem scan_map_toUpper (radix : Nat) (text : List Char) :
    scan radix (text.map Char.toUpper) = scan radix text := by
  have hdigit : isDigit radix ∘ Char.toUpper = isDigit radix := funext (isDigit_toUpper radix)
  simp only [scan, splitSign_map_toUpper, body_map_toUpper, List.takeWhile_map, hdigit,
    accumulate_map_toUpper, List.length_map, List.isEmpty_map]

theorem endsInHexMark_map_toUpper (text : List Char) :
    endsInHexMark (text.map Char.toUpper) = endsInHexMark text := by
  have hmark : ∀ c : Char, c.toUpper = 'H' ↔ c = 'h' ∨ c = 'H' :=
    fun c => toUpper_eq_capital_iff (by decide)
  have hnone : ∀ c : Char, c.toUpper ≠ 'h' := by
    intro c hc
    have hcapital := toUpper_toUpper c
    rw [hc] at hcapital
    exact absurd hcapital (by decide)
  rw [endsInHexMark, endsInHexMark, List.getLast?_map, Bool.eq_iff_iff]
  cases text.getLast? with
  | none => simp
  | some c => simp [hmark, hnone]

theorem selectBase_cons_cons (c d : Char) (rest : List Char) :
    selectBase (c :: d :: rest) =
      if c = '0' ∧ d.toUpper = 'X' then (16, rest)
      else if c = '0' ∧ d.toUpper = 'B' then (2, rest)
      else if endsInHexMark (c :: d :: rest) then (16, (c :: d :: rest).dropLast)
      else (10, c :: d :: rest) := by
  have hhex : d.toUpper = 'X' ↔ d = 'x' ∨ d = 'X' := toUpper_eq_capital_iff (by decide)
  have hbinary : d.toUpper = 'B' ↔ d = 'b' ∨ d = 'B' := toUpper_eq_capital_iff (by decide)
  unfold selectBase
  split
  · simp_all
  · simp_all
  · simp_all
  · simp_all
  · rename_i hx hX hb hB
    have hfree : ¬(c = '0' ∧ d.toUpper = 'X') := by
      rw [hhex]
      rintro ⟨rfl, rfl | rfl⟩
      · exact hx _ rfl
      · exact hX _ rfl
    have hfree' : ¬(c = '0' ∧ d.toUpper = 'B') := by
      rw [hbinary]
      rintro ⟨rfl, rfl | rfl⟩
      · exact hb _ rfl
      · exact hB _ rfl
    rw [if_neg hfree, if_neg hfree']

theorem selectBase_singleton (c : Char) :
    selectBase [c] = if endsInHexMark [c] then (16, []) else (10, [c]) := by
  simp [selectBase]

/-- The base of a token is selected by its capitals. -/
theorem selectBase_map_toUpper (text : List Char) :
    selectBase (text.map Char.toUpper) =
      ((selectBase text).1, (selectBase text).2.map Char.toUpper) := by
  match text with
  | [] => rfl
  | [c] =>
    have hends := endsInHexMark_map_toUpper [c]
    rw [List.map_singleton] at hends
    simp only [List.map_singleton, selectBase_singleton, hends]
    split_ifs <;> rfl
  | c :: d :: rest =>
    have hzero : c.toUpper = '0' ↔ c = '0' := toUpper_eq_iff (by decide)
    have hends := endsInHexMark_map_toUpper (c :: d :: rest)
    rw [List.map_cons, List.map_cons] at hends
    simp only [List.map_cons, selectBase_cons_cons, toUpper_toUpper, hzero, hends]
    split_ifs <;> simp [List.map_dropLast]

/-- **A literal is read by its capitals.** -/
theorem read_map_toUpper (token : List Char) : read (token.map Char.toUpper) = read token := by
  simp only [read, clean_map_toUpper, List.isEmpty_map, selectBase_map_toUpper, scan_map_toUpper]

theorem value?_map_toUpper (token : List Char) :
    value? (token.map Char.toUpper) = value? token := by
  rw [value?, value?, read_map_toUpper]

theorem exact_map_toUpper (token : List Char) :
    exact (token.map Char.toUpper) = (exact token).mapError Fault.inCapitals := by
  unfold exact
  rw [read_map_toUpper, clean_map_toUpper]
  split <;> rfl

end Literal

/-! ## Operands and lines -/

variable (strictness : Strictness)

namespace Encoding

theorem literal_map_toUpper (token : List Char) :
    literal strictness (token.map Char.toUpper) =
      (literal strictness token).mapError Fault.inCapitals := by
  unfold literal
  split_ifs
  · rw [Literal.exact_map_toUpper]
    cases Literal.exact token <;> rfl
  · rw [Literal.value?_map_toUpper]
    rfl

theorem operand_map_toUpper (token : Option (List Char)) :
    operand strictness (token.map (List.map Char.toUpper)) =
      (operand strictness token).mapError Fault.inCapitals := by
  cases token with
  | none => rfl
  | some token => exact literal_map_toUpper strictness token

/-- A destination is looked at, and quoted, in upper case only. -/
theorem destination_map_toUpper (token : Option (List Char)) :
    destination strictness (token.map (List.map Char.toUpper)) =
      (destination strictness token).mapError Fault.inCapitals := by
  cases token with
  | none => rfl
  | some token =>
    simp only [Option.map_some, destination, Literal.clean_map_toUpper, Text.upper_map_toUpper]
    split_ifs
    · rfl
    · rfl
    · rfl
    · cases Literal.scan 10 (Text.upper (Literal.clean token)) <;> rfl

end Encoding

open Encoding in
/-- **An instruction is encoded by the capitals of its operands.** -/
theorem encode_map_toUpper (format : Format) (operands : List (List Char)) :
    encode strictness format (operands.map (List.map Char.toUpper)) =
      (encode strictness format operands).mapError Fault.inCapitals := by
  unfold encode
  cases format.category with
  | inherent => rfl
  | target | literal =>
    simp only [List.getElem?_map, operand_map_toUpper, mapError_bind]
    rfl
  | bitOriented =>
    simp only [List.getElem?_map, operand_map_toUpper, mapError_bind]
    rfl
  | byteOriented =>
    simp only [List.getElem?_map, operand_map_toUpper, mapError_bind]
    split_ifs
    · simp only [destination_map_toUpper, mapError_bind]
      rfl
    · rfl

namespace Line

theorem tokens_map_toUpper (line : List Char) :
    tokens (line.map Char.toUpper) = (tokens line).map (List.map Char.toUpper) := by
  have hcomment : (fun c : Char => c != ';') ∘ Char.toUpper = fun c => c != ';' :=
    funext fun c => congrArg (!·) (Text.beq_toUpper (by decide) c)
  rw [tokens, code, List.takeWhile_map, hcomment, Text.fields_map Text.isSeparator_toUpper]
  rfl

theorem origin_map_toUpper (argument : List Char) :
    origin strictness (argument.map Char.toUpper) = (origin strictness argument).inCapitals := by
  unfold origin
  split_ifs
  · rw [Literal.exact_map_toUpper]
    cases Literal.exact argument <;> rfl
  · rw [Literal.value?_map_toUpper]
    cases Literal.value? argument <;> rfl

theorem instruction_map_toUpper (format : Format) (operands : List (List Char)) :
    instruction strictness format (operands.map (List.map Char.toUpper)) =
      (instruction strictness format operands).inCapitals := by
  unfold instruction
  rw [encode_map_toUpper]
  cases encode strictness format operands with
  | error fault => rfl
  | ok encoded => cases h : encoded.spill <;> simp [Except.mapError, Assembled.inCapitals, h,
      Outcome.inCapitals, Warning.inCapitals]

/-- **A line is assembled by its capitals.** -/
theorem assemble_map_toUpper (line : List Char) :
    assemble strictness (line.map Char.toUpper) = (assemble strictness line).inCapitals := by
  rw [assemble, tokens_map_toUpper, assemble]
  cases tokens line with
  | nil => rfl
  | cons first rest =>
    simp only [List.map_cons, assembleTokens, Text.upper_map_toUpper]
    cases Head.classify (Text.upper first) with
    | origin =>
      rw [← origin_map_toUpper]
      cases rest <;> rfl
    | halt => rfl
    | instruction i => exact instruction_map_toUpper strictness i.toFormat rest
    | unknown name => rfl

end Line

/-! ## Messages -/

theorem Fault.map_toUpper_message (fault : Fault) :
    fault.inCapitals.message.toList.map Char.toUpper = fault.message.toList.map Char.toUpper := by
  cases fault with
  | invalidLiteral token =>
    have htoken : (token.map Char.toUpper).map Char.toUpper = token.map Char.toUpper := by
      rw [List.map_map]
      exact List.map_congr_left fun c _ => Text.toUpper_toUpper c
    simp only [inCapitals, message, quoting, String.toList_append, String.toList_ofList,
      List.map_append, htoken]
  | unknownMnemonic | missingOperand | invalidDestination => rfl

/-- Faults that are the same in capitals are told by texts that are. -/
theorem Fault.flipped_message {fault fault' : Fault} (h : fault.inCapitals = fault'.inCapitals)
    (line : Nat) : Text.Flipped (Diagnostic.mk line fault).message.toList
      (Diagnostic.mk line fault').message.toList := by
  have hfault : fault.message.toList.map Char.toUpper = fault'.message.toList.map Char.toUpper := by
    rw [← fault.map_toUpper_message, h, fault'.map_toUpper_message]
  rw [Text.flipped_iff]
  simp only [Diagnostic.message, String.toList_append, List.map_append, hfault]

/-- The same effect, up to the case of letters in the text of an error. -/
inductive Outcome.SameButCase : Outcome → Outcome → Prop where
  | skipped : SameButCase .skipped .skipped
  | origin (address : Word) : SameButCase (.origin address) (.origin address)
  | halt : SameButCase .halt .halt
  | emitted (word : Word) : SameButCase (.emitted word) (.emitted word)
  | failed {fault fault' : Fault} (h : ∀ line, Text.Flipped
      (Diagnostic.mk line fault).message.toList (Diagnostic.mk line fault').message.toList) :
      SameButCase (.failed fault) (.failed fault')

theorem Outcome.sameButCase_of_inCapitals {outcome outcome' : Outcome}
    (h : outcome.inCapitals = outcome'.inCapitals) : outcome.SameButCase outcome' := by
  cases outcome <;> cases outcome' <;> simp only [inCapitals, reduceCtorEq, origin.injEq,
    emitted.injEq, failed.injEq] at h
  · exact .skipped
  · exact h ▸ .origin _
  · exact .halt
  · exact h ▸ .emitted _
  · exact .failed fun line => Fault.flipped_message h line

/-! ## Passes -/

/-- **Lines with another wording are visited in the same way**, if they move the counter and end the
pass as before. -/
theorem visits_map {f : Assembled → Assembled}
    (hhalt : ∀ a, (f a).outcome = .halt ↔ a.outcome = .halt)
    (hadvance : ∀ a address, (f a).outcome.advance address = a.outcome.advance address)
    (address : Word) (line : Nat) (lines : List Assembled) :
    visits address line (lines.map f) =
      (visits address line lines).map fun visit =>
        { visit with assembled := f visit.assembled } := by
  induction lines generalizing address line with
  | nil => rfl
  | cons a rest ih =>
    simp only [List.map_cons, visits, hhalt, hadvance]
    split_ifs
    · rfl
    · rw [ih]

/-- The source in capitals. -/
def inCapitals (source : String) : String :=
  String.ofList (source.toList.map Char.toUpper)

theorem sourceLines_inCapitals (source : String) :
    sourceLines (inCapitals source) = (sourceLines source).map (List.map Char.toUpper) := by
  rw [sourceLines, inCapitals, String.toList_ofList, List.splitOn_eq_splitOnP,
    Text.splitOnP_map fun c => Text.beq_toUpper (by decide) c, ← List.splitOn_eq_splitOnP]
  rfl

theorem trace_inCapitals (source : String) :
    trace strictness (inCapitals source) = (trace strictness source).map fun visit =>
      { visit with assembled := visit.assembled.inCapitals } := by
  have hlines : (Line.assemble strictness) ∘ List.map Char.toUpper =
      Assembled.inCapitals ∘ Line.assemble strictness :=
    funext (Line.assemble_map_toUpper strictness)
  rw [trace, sourceLines_inCapitals, List.map_map, hlines, ← List.map_map]
  refine visits_map ?_ ?_ 0 1 _
  · rintro ⟨outcome, warning⟩
    cases outcome <;> simp [Assembled.inCapitals, Outcome.inCapitals]
  · rintro ⟨outcome, warning⟩ address
    cases outcome <;> rfl

/-- **A source in capitals assembles to the same words**, and to its errors in capitals. -/
theorem assemble_inCapitals (source : String) :
    assemble strictness (inCapitals source) =
      { words := (assemble strictness source).words
        errors := (assemble strictness source).errors.map fun diagnostic =>
          { diagnostic with fault := diagnostic.fault.inCapitals } } := by
  have hplaced : ∀ visit : Visit,
      Visit.placed? { visit with assembled := visit.assembled.inCapitals } = visit.placed? := by
    rintro ⟨address, line, outcome, warning⟩
    cases outcome <;> rfl
  have hdiagnostic : ∀ visit : Visit,
      Visit.diagnostic? { visit with assembled := visit.assembled.inCapitals } =
        visit.diagnostic?.map fun diagnostic =>
          { diagnostic with fault := diagnostic.fault.inCapitals } := by
    rintro ⟨address, line, outcome, warning⟩
    cases outcome <;> rfl
  simp only [assemble_eq_trace, trace_inCapitals, List.filterMap_map, List.map_filterMap,
    Function.comp_def, hplaced, hdiagnostic]

open Text in
/-- **Letter case never matters.** When the case of some ASCII letters is flipped, a line has the
same kind of outcome, with the same address or word, and a source the same words, at the same
addresses, and errors at the same lines with messages that are equal up to the case of letters. -/
theorem assemble_flipped :
    (∀ line line', Flipped line line' →
      (Line.assemble strictness line).outcome.SameButCase
        (Line.assemble strictness line').outcome) ∧
    ∀ source source' : String, Flipped source.toList source'.toList →
      (assemble strictness source').words = (assemble strictness source).words ∧
      List.Forall₂ (fun d d' => d'.line = d.line ∧ Flipped d.message.toList d'.message.toList)
        (assemble strictness source).errors (assemble strictness source').errors := by
  refine ⟨fun line line' h => ?_, fun source source' h => ?_⟩
  · have hline := congrArg (Line.assemble strictness) (flipped_iff.1 h)
    rw [Line.assemble_map_toUpper, Line.assemble_map_toUpper] at hline
    exact Outcome.sameButCase_of_inCapitals (congrArg (·.outcome) hline)
  · have hsource : inCapitals source = inCapitals source' :=
      congrArg String.ofList (flipped_iff.1 h)
    have hprogram := congrArg (assemble strictness) hsource
    rw [assemble_inCapitals, assemble_inCapitals, Program.mk.injEq] at hprogram
    obtain ⟨hwords, herrors⟩ := hprogram
    refine ⟨hwords.symm, ?_⟩
    rw [← List.forall₂_eq_eq_eq, List.forall₂_map_left_iff, List.forall₂_map_right_iff] at herrors
    refine herrors.imp ?_
    rintro ⟨line, fault⟩ ⟨line', fault'⟩ heq
    rw [Diagnostic.mk.injEq] at heq
    obtain ⟨rfl, hfault⟩ := heq
    exact ⟨rfl, Fault.flipped_message hfault line⟩

/-- All letters of a source flipped, a mark behind a sign and a literal that is refused among
them. -/
theorem assemble_flipped_marks :
    (assemble .full "oRG 0X10\nMovLW -0X1fH\nBSF 0b11, 5\nMOVLW 0xfG\nfoo").words =
      (assemble .full "Org 0x10\nmOVlw -0x1Fh\nbsf 0B11, 5\nmovlw 0XFg\nFOO").words ∧
    (assemble .full "oRG 0X10\nMovLW -0X1fH\nBSF 0b11, 5\nMOVLW 0xfG\nfoo").errors =
      [⟨4, .invalidLiteral "0xfG".toList⟩, ⟨5, .unknownMnemonic "FOO".toList⟩] ∧
    (assemble .full "Org 0x10\nmOVlw -0x1Fh\nbsf 0B11, 5\nmovlw 0XFg\nFOO").errors =
      [⟨4, .invalidLiteral "0XFg".toList⟩, ⟨5, .unknownMnemonic "FOO".toList⟩] := by
  have hflipped : Text.Flipped
      "Org 0x10\nmOVlw -0x1Fh\nbsf 0B11, 5\nmovlw 0XFg\nFOO".toList
      "oRG 0X10\nMovLW -0X1fH\nBSF 0b11, 5\nMOVLW 0xfG\nfoo".toList :=
    Text.flipped_iff.2 (by decide)
  exact ⟨((assemble_flipped .full).2 _ _ hflipped).1, by decide, by decide⟩

end Midrange
