import Midrange.Proofs.Json.Layout
import Midrange.Proofs.Line.Head
import Midrange.Proofs.Line.Tokens
import Midrange.Proofs.Source.Printing
import Midrange.Reference

/-!
# The reference and the assembler agree

The reference shows the card of an instruction just where the assembler assembles it. The one trims
a name and the other cuts it out of a line, but a token has nothing to be trimmed.

* `Catalog.Card.text`: the text of a card in a format. The cards of two instructions differ in both
  formats (`Catalog.eq_of_text_eq`).
* `Catalog.Card.datum`: the JSON value of a card. Different cards have different ones.
* `Reference.run_card_eq_ok_iff`, `Reference.run_card_eq_error_iff`: what is answered about a name.
* `Catalog.find_of_mem_tokens`: a token is found as it is looked up.
* `reference_agrees`: what a first token is to the one and to the other.
-/

namespace Midrange

/-! ## Cards -/

namespace Catalog

open Json (Value units)

/-- The text of a card in a format. -/
def Card.text (card : Card) : OutputFormat → String
  | .text => card.render
  | .json => card.toJson.pretty

/-- The name on a card ends at the first space, unless it leaves no room for one. -/
theorem Card.takeWhile_render {card : Card} (hname : ' ' ∉ card.name.toList)
    (hlength : card.name.toList.length < 8) :
    card.render.toList.takeWhile (· != ' ') = card.name.toList := by
  obtain ⟨n, hn⟩ : ∃ n, 8 - card.name.toList.length = n + 1 :=
    Nat.exists_eq_succ_of_ne_zero (by omega)
  have hkeep : ∀ c ∈ card.name.toList, (c != ' ') = true := by
    intro c hc
    rw [bne_iff_ne]
    rintro rfl
    exact hname hc
  simp only [render, padded, hn, List.replicate_succ, String.toList_append, String.toList_ofList,
    List.append_assoc, List.cons_append]
  rw [List.takeWhile_append_of_pos hkeep]
  simp

/-- A card as a value. -/
def Card.datum (card : Card) : Value :=
  .object [(units "name".toList, .string (units card.name.toList)),
    (units "opcode".toList, .string (units card.opcode.toList)),
    (units "description".toList, .string (units card.description.toList)),
    (units "operands".toList, .number card.operands)]

theorem Card.toValue_toJson (card : Card) : card.toJson.toValue = card.datum := rfl

/-- **Different cards have different values.** -/
theorem Card.datum_injective : Function.Injective Card.datum := by
  have hunits : ∀ {text text' : String}, units text.toList = units text'.toList → text = text' :=
    fun h => String.toList_injective (Json.units_injective h)
  rintro ⟨name, opcode, description, operands⟩ ⟨name', opcode', description', operands'⟩ h
  obtain ⟨hname, hopcode, hdescription, rfl⟩ : units name.toList = units name'.toList ∧
      units opcode.toList = units opcode'.toList ∧
      units description.toList = units description'.toList ∧ operands = operands' := by
    simpa [datum] using h
  rw [hunits hname, hunits hopcode, hunits hdescription]

/-- **The JSON text of a card says everything about it.** -/
theorem Card.eq_of_pretty_eq {card card' : Card} (h : card.toJson.pretty = card'.toJson.pretty) :
    card = card' := by
  have htext := Json.isText_pretty card.toJson Json.spaces_nil
  rw [h, Json.isText_pretty_iff _ Json.spaces_nil, toValue_toJson, toValue_toJson] at htext
  exact datum_injective htext

theorem length_mnemonic : ∀ i ∈ Instruction.table, i.mnemonic.toList.length < 8 := by
  decide +kernel

theorem eq_of_mnemonic_eq {i j : Instruction} (hi : i ∈ Instruction.table)
    (hj : j ∈ Instruction.table) (h : i.mnemonic = j.mnemonic) : i = j := by
  have hhead := classify_mnemonic i hi
  rw [h, classify_mnemonic j hj] at hhead
  exact (Head.instruction.inj hhead).symm

theorem mnemonic_eq_of_render_eq {i j : Instruction} (hi : i ∈ Instruction.table)
    (hj : j ∈ Instruction.table) (h : (card i).render = (card j).render) :
    i.mnemonic = j.mnemonic := by
  have hname : ∀ k ∈ Instruction.table,
      (card k).render.toList.takeWhile (· != ' ') = k.mnemonic.toList := by
    intro k hk
    have hblank : ' ' ∉ k.mnemonic.toList :=
      fun hmem => absurd ((isWord_mnemonic k hk).isSeparator _ hmem) (by decide)
    exact Card.takeWhile_render hblank (length_mnemonic k hk)
  apply String.toList_injective
  rw [← hname i hi, h, hname j hj]

/-- **The cards of two instructions differ**, in either format. -/
theorem eq_of_text_eq {i j : Instruction} (hi : i ∈ Instruction.table)
    (hj : j ∈ Instruction.table) {format : OutputFormat}
    (h : (card i).text format = (card j).text format) : i = j := by
  cases format with
  | text => exact eq_of_mnemonic_eq hi hj (mnemonic_eq_of_render_eq hi hj h)
  | json => exact eq_of_mnemonic_eq hi hj (congrArg Card.name (Card.eq_of_pretty_eq h))

theorem mem_table_of_find {name : List Char} {i : Instruction} (h : find name = some i) :
    i ∈ Instruction.table := by
  unfold find Instruction.lookup at h
  exact List.mem_of_find?_eq_some h

/-- **A token of a line is found as it is looked up**: there is nothing to trim. -/
theorem find_of_mem_tokens {line token : List Char} (h : token ∈ Line.tokens line) :
    find token = Instruction.lookup (Text.upper token) := by
  have hblank : ∀ c ∈ token, Text.isBlank c = false := fun c hc =>
    Text.isBlank_of_isSeparator (Line.isSeparator_of_mem_tokens h hc)
  rw [find, Text.trim_of_forall hblank]

end Catalog

/-! ## Answers -/

namespace Reference

open Catalog

variable {mnemonic : String} {format : OutputFormat}

theorem run_card (mnemonic : String) (format : OutputFormat) :
    run ⟨.card mnemonic, format⟩ =
      match find mnemonic.toList with
      | none => .error (.unknownMnemonic (Text.upper mnemonic.toList))
      | some i => .ok ((card i).text format) := by
  cases hfind : find mnemonic.toList with
  | none => simp [run, hfind]
  | some i => cases format <;> simp [run, hfind, Card.text]

/-- A card is printed just for the instruction that is found. -/
theorem run_card_eq_ok_iff {i : Instruction} (hi : i ∈ Instruction.table) :
    run ⟨.card mnemonic, format⟩ = .ok ((card i).text format) ↔ find mnemonic.toList = some i := by
  rw [run_card]
  cases hfind : find mnemonic.toList with
  | none => simp
  | some j =>
    simp only [Except.ok.injEq, Option.some.injEq]
    constructor
    · exact eq_of_text_eq (mem_table_of_find hfind) hi
    · rintro rfl
      rfl

/-- A name is refused just if no instruction is found. -/
theorem run_card_eq_error_iff {fault : Fault} :
    run ⟨.card mnemonic, format⟩ = .error fault ↔
      find mnemonic.toList = none ∧ fault = .unknownMnemonic (Text.upper mnemonic.toList) := by
  rw [run_card]
  cases find mnemonic.toList <;> simp [eq_comm]

end Reference

open Catalog in
/-- **The reference knows the instructions of the assembler, and no others.** Let a line have a
first token. It is assembled as an instruction just if the reference finds this instruction under
the token, that is, prints its card, in either format. If the token is reported as unknown, then the
reference refuses it with the text of this report behind the number of the line. The tokens that the
reference refuses and the assembler does not report as unknown are the directives. -/
theorem reference_agrees (strictness : Strictness) {line code first : List Char}
    {rest : List (List Char)} (hcode : Line.IsCode line code)
    (hruns : Text.IsRuns Line.isSeparator code (first :: rest)) :
    (∀ i, (Head.classify (Text.upper first) = .instruction i ↔ find first = some i) ∧
      (find first = some i →
        Line.assemble strictness line = Line.instruction strictness i.toFormat rest)) ∧
    (∀ i ∈ Instruction.table, ∀ format, find first = some i ↔
      Reference.run ⟨.card (String.ofList first), format⟩ = .ok ((card i).text format)) ∧
    (∀ name, (Line.assemble strictness line).outcome = .failed (.unknownMnemonic name) →
      ∀ number format, ∃ fault,
        Reference.run ⟨.card (String.ofList first), format⟩ = .error fault ∧
        (Diagnostic.mk number (.unknownMnemonic name)).message =
          "Línea " ++ toString number ++ ": " ++ fault.message) ∧
    ∀ format, ((∃ fault, Reference.run ⟨.card (String.ofList first), format⟩ = .error fault) ∧
        ¬∃ name, (Line.assemble strictness line).outcome = .failed (.unknownMnemonic name)) ↔
      Text.upper first = ['O', 'R', 'G'] ∨ Text.upper first = ['E', 'N', 'D'] := by
  have htokens : Line.tokens line = first :: rest := hcode.tokens_eq hruns
  have hmem : first ∈ Line.tokens line := by simp [htokens]
  have hfind : find first = Instruction.lookup (Text.upper first) := find_of_mem_tokens hmem
  have hclassify : ∀ i,
      Head.classify (Text.upper first) = .instruction i ↔ find first = some i := by
    intro i
    rw [Head.classify_eq_instruction_iff, hfind]
  refine ⟨fun i => ⟨hclassify i, fun h => ?_⟩, fun i hi format => ?_,
    fun name h number format => ?_, fun format => ?_⟩
  · rw [Line.assemble, htokens, Line.assembleTokens, (hclassify i).2 h]
  · rw [Reference.run_card_eq_ok_iff hi, String.toList_ofList]
  · rw [Line.assemble, htokens, Line.outcome_eq_unknown_iff, Head.classify_eq_unknown_iff] at h
    obtain ⟨rfl, hlookup, -, -⟩ := h
    refine ⟨.unknownMnemonic (Text.upper first), ?_, rfl⟩
    rw [Reference.run_card_eq_error_iff, String.toList_ofList]
    exact ⟨hfind.trans hlookup, rfl⟩
  · simp only [Line.assemble, htokens, Line.outcome_eq_unknown_iff, Head.classify_eq_unknown_iff,
      Reference.run_card_eq_error_iff, String.toList_ofList, hfind]
    constructor
    · rintro ⟨⟨-, hlookup, -⟩, hknown⟩
      by_contra hdirective
      rw [not_or] at hdirective
      exact hknown ⟨_, rfl, hlookup, hdirective⟩
    · rintro (h | h)
      · rw [h]
        exact ⟨⟨_, Head.lookup_directive.1, rfl⟩, by simp⟩
      · rw [h]
        exact ⟨⟨_, Head.lookup_directive.2, rfl⟩, by simp⟩

open Catalog in
/-- A mnemonic behind a byte-order mark, and a name that neither of the two knows. -/
theorem reference_agrees_movlw :
    Reference.run ⟨.card (String.ofList "movLW".toList), .json⟩ =
        .ok ((card ⟨⟨0x3000, 1, .literal⟩, "MOVLW", "Mover literal a W"⟩).text .json) ∧
      ∃ fault, Reference.run ⟨.card (String.ofList "movß".toList), .text⟩ = .error fault ∧
        (Diagnostic.mk 7 (.unknownMnemonic "MOVSS".toList)).message =
          "Línea " ++ toString 7 ++ ": " ++ fault.message := by
  have hcode : Line.IsCode "\uFEFFmovLW 5;".toList "\uFEFFmovLW 5".toList :=
    ⟨by decide, .inr ⟨[], by decide⟩⟩
  have hruns : Text.IsRuns Line.isSeparator "\uFEFFmovLW 5".toList ["movLW".toList, "5".toList] :=
    Text.fields_eq_iff.1 (by decide)
  have hcode' : Line.IsCode "\tmovß".toList "\tmovß".toList := ⟨by decide, .inl rfl⟩
  have hruns' : Text.IsRuns Line.isSeparator "\tmovß".toList ["movß".toList] :=
    Text.fields_eq_iff.1 (by decide)
  obtain ⟨-, hcard, -⟩ := reference_agrees .full hcode hruns
  obtain ⟨-, -, hunknown, -⟩ := reference_agrees .full hcode' hruns'
  exact ⟨(hcard _ (by decide) .json).1 (by decide), hunknown _ (by decide +kernel) 7 .text⟩

end Midrange
