import Mathlib.Data.List.TakeWhile
import Midrange.Proofs.Encoding.Spelling
import Midrange.Proofs.Pass.Trace

/-!
# Printed programs

A program can be written down item by item, an `ORG` or an instruction on each line, with a choice
of letter case, of the notation of each number and of the width of each gap. Assembling undoes the
printing, whatever was chosen.

* `Item`: an origin, or an instruction of the set with fields of its layout.
* `Item.PrintsLine item line` and `Prints items text`: the lines of an item, and the texts of a
  list of items. Every list of items has one (`exists_prints`).
* `placed address items`: the words of the items, at their addresses.
* `Item.PrintsLine.assemble_eq`: one line; `Places.cons` and `places_of_prints`: the whole pass.
* `assemble_of_prints`: a printed program assembles to its words, without errors and warnings.
-/

namespace Midrange

/-! ## Items -/

/-- A line of a program to be printed. -/
inductive Item where
  /-- The address counter becomes this address. -/
  | origin (address : Word)
  /-- An instruction of the set with the values of its fields. -/
  | instruction (i : Instruction) (fields : Fields) (mem : i ∈ Instruction.table)
      (fits : fields.Fits i.toFormat)

namespace Item

/-- The first token of the line, in upper case. -/
def name : Item → List Char
  | .origin _ => ['O', 'R', 'G']
  | .instruction i .. => i.mnemonic.toList

/-- Operands that spell what the item holds. -/
def SpelledBy : Item → List (List Char) → Prop
  | .origin address, operands => ∃ text, operands = [text] ∧ Literal.Spells address.toNat text
  | .instruction _ fields .., operands => fields.SpelledBy operands

/-- The effect that the line ought to have. -/
def outcome : Item → Outcome
  | .origin address => .origin address
  | .instruction i fields .. => .emitted (i.opcode ||| fields.bits)

end Item

/-- The words of items: they are counted from an address on, and from the address of each origin
again. -/
def placed (address : Word) : List Item → List Placed
  | [] => []
  | .origin target :: rest => placed target rest
  | .instruction i fields .. :: rest =>
    ⟨address, i.opcode ||| fields.bits⟩ :: placed (address + 1) rest

/-! ## Printing -/

/-- One space, and as many more as given. -/
def gap (more : Nat) : List Char :=
  List.replicate (more + 1) ' '

/-- Operands as they stand behind the name: each after a gap, and a comma between two of them. -/
inductive PrintsOperands : List (List Char) → List Char → Prop where
  | none : PrintsOperands [] []
  | last (more : Nat) (operand : List Char) : PrintsOperands [operand] (gap more ++ operand)
  | before (more : Nat) (operand : List Char) {next : List Char} {rest : List (List Char)}
      {text : List Char} (h : PrintsOperands (next :: rest) text) :
      PrintsOperands (operand :: next :: rest) (gap more ++ (operand ++ ',' :: text))

/-- A line that holds an item: its name with letters of either case, and its operands. -/
inductive Item.PrintsLine (item : Item) : List Char → Prop where
  | mk {head tail : List Char} {operands : List (List Char)}
      (hname : head.map Char.toUpper = item.name) (hspelled : item.SpelledBy operands)
      (htail : PrintsOperands operands tail) : item.PrintsLine (head ++ tail)

/-- A text that holds items, one on each line. The last line may have a line feed or not. -/
inductive Prints : List Item → List Char → Prop where
  | nil : Prints [] []
  | last {item : Item} {line : List Char} (h : item.PrintsLine line) : Prints [item] line
  | cons {item : Item} {items : List Item} {line text : List Char} (h : item.PrintsLine line)
      (hrest : Prints items text) : Prints (item :: items) (line ++ '\n' :: text)

/-! ## The tokens of a printed line -/

theorem isSeparator_of_mem_gap {more : Nat} : ∀ c ∈ gap more, Line.isSeparator c = true := by
  intro c hc
  rw [List.eq_of_mem_replicate hc]
  decide

namespace PrintsOperands

variable {operands : List (List Char)} {text : List Char}

theorem head?_isSeparator (h : PrintsOperands operands text) :
    ∀ c ∈ text.head?, Line.isSeparator c = true := by
  have hgap : ∀ more rest, ∀ c ∈ (gap more ++ rest).head?, Line.isSeparator c = true := by
    intro more rest c hc
    obtain rfl : ' ' = c := by simpa [gap, List.replicate_succ] using hc
    decide
  cases h with
  | none => simp
  | last more operand => exact hgap more _
  | before more operand h => exact hgap more _

/-- The tokens of printed operands are the operands, up to commas. -/
theorem map_clean_fields (h : PrintsOperands operands text)
    (hwords : ∀ operand ∈ operands, Text.IsWord operand) :
    (Text.fields Line.isSeparator text).map Literal.clean = operands := by
  induction h with
  | none => simp
  | last more operand =>
    have hword : Text.IsWord operand := hwords operand (by simp)
    rw [Text.fields_gap_append isSeparator_of_mem_gap,
      Text.fields_of_forall hword.isSeparator hword.ne_nil, List.map_singleton, hword.clean_eq]
  | @before more operand next rest text h ih =>
    have hword : Text.IsWord operand := hwords operand (by simp)
    have hrun : ∀ c ∈ operand ++ [','], Line.isSeparator c = false := by
      simp only [List.mem_append, List.mem_singleton]
      rintro c (hc | rfl)
      · exact hword.isSeparator c hc
      · decide
    rw [Text.fields_gap_append isSeparator_of_mem_gap, List.append_cons,
      Text.fields_run_append hrun (by simp) h.head?_isSeparator, List.map_cons, hword.clean_comma,
      ih fun o ho => hwords o (List.mem_cons_of_mem _ ho)]

theorem mem_text (h : PrintsOperands operands text)
    (hwords : ∀ operand ∈ operands, Text.IsWord operand) :
    ∀ c ∈ text, Text.isDigit 36 c = true ∨ c = ' ' ∨ c = ',' := by
  induction h with
  | none => simp
  | last more operand =>
    intro c hc
    rcases List.mem_append.1 hc with hc | hc
    · exact .inr (.inl (List.eq_of_mem_replicate hc))
    · exact .inl ((hwords operand (by simp)).isDigit c hc)
  | before more operand h ih =>
    intro c hc
    simp only [List.mem_append, List.mem_cons] at hc
    rcases hc with hc | hc | rfl | hc
    · exact .inr (.inl (List.eq_of_mem_replicate hc))
    · exact .inl ((hwords operand (by simp)).isDigit c hc)
    · exact .inr (.inr rfl)
    · exact ih (fun o ho => hwords o (List.mem_cons_of_mem _ ho)) c hc

end PrintsOperands

/-! ## Assembling a printed line -/

theorem classify_mnemonic :
    ∀ i ∈ Instruction.table, Head.classify i.mnemonic.toList = .instruction i := by
  decide +kernel

theorem isWord_mnemonic : ∀ i ∈ Instruction.table, Text.IsWord i.mnemonic.toList := by
  decide +kernel

theorem Line.origin_of_spells (strictness : Strictness) {address : Word} {text token : List Char}
    (h : Literal.Spells address.toNat text) (htoken : Literal.clean token = text) :
    Line.origin strictness token = { outcome := .origin address } := by
  have hvalue : (BitVec.ofNat 64 address.toNat).setWidth 16 = address :=
    Encoding.setWidth_value (by omega) address
  unfold Line.origin
  split_ifs
  · simp only [h.exact_eq htoken, hvalue]
  · simp only [h.value?_eq htoken, hvalue]

namespace Item

theorem isWord_name (item : Item) : Text.IsWord item.name := by
  cases item with
  | origin address => exact (by decide : Text.IsWord ['O', 'R', 'G'])
  | instruction i fields mem fits => exact isWord_mnemonic i mem

theorem isWord_head {item : Item} {head : List Char} (h : head.map Char.toUpper = item.name) :
    Text.IsWord head := by
  apply Text.IsWord.of_map_toUpper
  rw [h]
  exact item.isWord_name

theorem SpelledBy.isWord {item : Item} {operands : List (List Char)}
    (h : item.SpelledBy operands) : ∀ operand ∈ operands, Text.IsWord operand := by
  cases item with
  | origin address =>
    obtain ⟨text, rfl, htext⟩ := h
    simpa using htext.isWord
  | instruction i fields mem fits => exact Fields.SpelledBy.isWord h

/-- Tokens with the name of an item and operands that spell it. -/
theorem assembleTokens_of_spelledBy (strictness : Strictness) {item : Item} {head : List Char}
    {tokens operands : List (List Char)} (hname : Text.upper head = item.name)
    (hspelled : item.SpelledBy operands) (htokens : tokens.map Literal.clean = operands) :
    Line.assembleTokens strictness (head :: tokens) = { outcome := item.outcome } := by
  unfold Line.assembleTokens
  cases item with
  | origin address =>
    obtain ⟨text, rfl, htext⟩ := hspelled
    obtain ⟨token, rfl, htoken⟩ := List.map_eq_singleton_iff.1 htokens
    simp only [hname, name, Head.classify, if_true]
    exact Line.origin_of_spells strictness htext htoken
  | instruction i fields mem fits =>
    simp only [hname, name, classify_mnemonic i mem, Line.instruction,
      encode_of_spelledBy strictness fits hspelled htokens, Option.map_none, outcome]

variable {item : Item} {line : List Char}

theorem PrintsLine.mem_line (h : item.PrintsLine line) :
    ∀ c ∈ line, Text.isDigit 36 c = true ∨ c = ' ' ∨ c = ',' := by
  cases h with
  | @mk head tail operands hname hspelled htail =>
    have hhead : Text.IsWord head := isWord_head hname
    intro c hc
    rcases List.mem_append.1 hc with hc | hc
    · exact .inl (hhead.isDigit c hc)
    · exact htail.mem_text hspelled.isWord c hc

theorem PrintsLine.not_mem (h : item.PrintsLine line) {c : Char}
    (hc : ¬(Text.isDigit 36 c = true ∨ c = ' ' ∨ c = ',')) : c ∉ line :=
  fun hmem => hc (h.mem_line c hmem)

/-- **A printed line assembles to its item,** under all switches and without a warning. -/
theorem PrintsLine.assemble_eq (h : item.PrintsLine line) (strictness : Strictness) :
    Line.assemble strictness line = { outcome := item.outcome } := by
  have hcode : Line.code line = line := by
    rw [Line.code, List.takeWhile_eq_self_iff]
    intro c hc
    simpa using ne_of_mem_of_not_mem hc (h.not_mem (by decide))
  rw [Line.assemble, Line.tokens, hcode]
  cases h with
  | @mk head tail operands hname hspelled htail =>
    have hhead : Text.IsWord head := isWord_head hname
    rw [Text.fields_run_append hhead.isSeparator hhead.ne_nil htail.head?_isSeparator]
    exact assembleTokens_of_spelledBy strictness (hhead.upper_eq.trans hname) hspelled
      (htail.map_clean_fields hspelled.isWord)

end Item

/-! ## Every program can be printed -/

theorem exists_printsOperands (operands : List (List Char)) :
    ∃ text, PrintsOperands operands text := by
  induction operands with
  | nil => exact ⟨_, .none⟩
  | cons operand rest ih =>
    obtain ⟨text, htext⟩ := ih
    cases rest with
    | nil => exact ⟨_, .last 0 operand⟩
    | cons next rest => exact ⟨_, .before 0 operand htext⟩

theorem map_toUpper_mnemonic :
    ∀ i ∈ Instruction.table, i.mnemonic.toList.map Char.toUpper = i.mnemonic.toList := by
  decide +kernel

theorem Item.exists_printsLine (item : Item) : ∃ line, item.PrintsLine line := by
  have hname : item.name.map Char.toUpper = item.name := by
    cases item with
    | origin address => rfl
    | instruction i fields mem fits => exact map_toUpper_mnemonic i mem
  obtain ⟨operands, hspelled⟩ : ∃ operands, item.SpelledBy operands := by
    cases item with
    | origin address => exact ⟨_, _, rfl, Literal.spells_toDigits _⟩
    | instruction i fields mem fits => exact fields.exists_spelledBy
  obtain ⟨tail, htail⟩ := exists_printsOperands operands
  exact ⟨_, .mk hname hspelled htail⟩

theorem exists_prints (items : List Item) : ∃ text, Prints items text := by
  induction items with
  | nil => exact ⟨_, .nil⟩
  | cons item items ih =>
    obtain ⟨text, htext⟩ := ih
    obtain ⟨line, hline⟩ := item.exists_printsLine
    exact ⟨_, .cons hline htext⟩

/-! ## Assembling a printed program -/

/-- A visit without an error and without a warning. -/
def Visit.IsQuiet (visit : Visit) : Prop :=
  visit.diagnostic? = none ∧ visit.assembled.warning = none

theorem Visit.IsQuiet.level_ne_warn {visit : Visit} (h : visit.IsQuiet) :
    ∀ event ∈ visit.events, event.record.level ≠ .warn := by
  obtain ⟨address, line, outcome, warning⟩ := visit
  obtain rfl : warning = none := h.2
  cases outcome <;> simp [Visit.events, Visit.effect?, Event.record, Event.lineRecord]

/-- Visits that place the words of items, without errors and warnings. -/
structure Places (address : Word) (items : List Item) (vs : List Visit) : Prop where
  words : vs.filterMap Visit.placed? = placed address items
  quiet : ∀ visit ∈ vs, visit.IsQuiet

/-- **One item more:** its visit is quiet and places the word of the item. -/
theorem Places.cons {item : Item} {items : List Item} {address : Word} {number : Nat}
    {rest : List Assembled}
    (h : Places (item.outcome.advance address) items
      (visits (item.outcome.advance address) (number + 1) rest)) :
    Places address (item :: items)
      (visits address number ({ outcome := item.outcome } :: rest)) := by
  cases item with
  | origin target => exact ⟨h.words, List.forall_mem_cons.2 ⟨⟨rfl, rfl⟩, h.quiet⟩⟩
  | instruction i fields mem fits =>
    refine ⟨?_, List.forall_mem_cons.2 ⟨⟨rfl, rfl⟩, h.quiet⟩⟩
    exact congrArg (⟨address, i.opcode ||| fields.bits⟩ :: ·) h.words

/-- **The pass over a printed program,** from any address and line number on. -/
theorem places_of_prints (strictness : Strictness) {items : List Item} {text : List Char}
    (h : Prints items text) (address : Word) (number : Nat) :
    Places address items
      (visits address number ((text.splitOn '\n').map (Line.assemble strictness))) := by
  induction h generalizing address number with
  | nil =>
    -- The empty text is one blank line.
    exact ⟨rfl, List.forall_mem_singleton.2 ⟨rfl, rfl⟩⟩
  | @last item line h =>
    rw [List.splitOn_eq_singleton (h.not_mem (by decide)), List.map_singleton,
      h.assemble_eq strictness]
    exact .cons ⟨rfl, List.forall_mem_nil _⟩
  | @cons item items line text h hrest ih =>
    rw [List.splitOn_append_cons_self_of_not_mem (h.not_mem (by decide)), List.map_cons,
      h.assemble_eq strictness]
    exact .cons (ih _ _)

/-- **Assembling undoes printing.** Every list of items can be printed. However that is done, and
under all switches, the text assembles without errors and warnings to the words of the items, at the
addresses counted from 0 and from each origin on. -/
theorem assemble_of_prints (strictness : Strictness) (items : List Item) :
    (∃ source : String, Prints items source.toList) ∧
      ∀ source : String, Prints items source.toList →
        assemble strictness source = { words := placed 0 items, errors := [] } ∧
          ∀ event ∈ (Pass.run strictness source).events.toList, event.record.level ≠ .warn := by
  constructor
  · obtain ⟨text, htext⟩ := exists_prints items
    exact ⟨String.ofList text, by rwa [String.toList_ofList]⟩
  · intro source h
    have hplaces : Places 0 items (trace strictness source) := places_of_prints strictness h 0 1
    have herrors : (trace strictness source).filterMap Visit.diagnostic? = [] :=
      List.filterMap_eq_nil_iff.2 fun visit hvisit => (hplaces.quiet visit hvisit).1
    refine ⟨?_, ?_⟩
    · rw [assemble_eq_trace, hplaces.words, herrors]
    · intro event hevent
      rw [events_eq_trace, List.mem_flatMap] at hevent
      obtain ⟨visit, hvisit, hevent⟩ := hevent
      exact (hplaces.quiet visit hvisit).level_ne_warn event hevent

open Literal in
/-- An origin in hexadecimal, and an instruction with its register in the suffixed notation. -/
theorem assemble_of_prints_addwf :
    assemble .full "org 0x1F\nAddWf Ch,  f" = { words := [⟨0x1F, 0x078C⟩], errors := [] } := by
  let addwf : Item := .instruction ⟨⟨0x0700, 2, .byteOriented⟩, "ADDWF", "Sumar W y f"⟩
    (.destined 0x0C true) (by decide) ⟨rfl, rfl⟩
  have haddress : Spells (0x1F : Word).toNat "0x1F".toList :=
    .hex (.inl rfl) (by decide)
  have hfile : Spells (0x0C : BitVec 7).toNat (['C'] ++ ['h']) :=
    .suffixed (.inl rfl) (by decide) (by decide)
  have hfirst : (Item.origin 0x1F).PrintsLine ("org".toList ++ (gap 0 ++ "0x1F".toList)) :=
    .mk (by decide) ⟨_, rfl, haddress⟩ (.last 0 _)
  have hsecond : addwf.PrintsLine
      ("AddWf".toList ++ (gap 0 ++ (['C', 'h'] ++ ',' :: (gap 1 ++ ['f'])))) :=
    .mk (by decide) (Fields.SpelledBy.destined hfile (.file (.inr (.inl rfl))))
      (.before 0 _ (.last 1 _))
  have hprints : Prints [.origin 0x1F, addwf] "org 0x1F\nAddWf Ch,  f".toList :=
    .cons hfirst (.last hsecond)
  exact ((assemble_of_prints .full [.origin 0x1F, addwf]).2 _ hprints).1

end Midrange
