import Mathlib.Data.List.Forall2
import Midrange.Proofs.Line.Tokens
import Midrange.Proofs.Source.Concatenation

/-!
# Layout never matters

A line is assembled by its tokens. So the layout of a source can be changed without a change of its
program, as long as the tokens of its lines stay what they are.

* `Relaid text text'`: the changes of the layout of a text, from carriage returns at the ends of
  lines to other separators in the place of some.
* `map_tokens_piece`: a piece of a line in the place of another one.
* `Relaid.map_tokens`: another layout keeps the tokens of every line; `Relaid.trace_eq` follows them
  through a pass.
* `assemble_layout`: the same tokens make the same line, and another layout the same program.
-/

namespace Midrange

/-! ## Other layouts of a text -/

/-- The second text is the first one with carriage returns before some of its line feeds. -/
inductive AddsReturns : List Char → List Char → Prop where
  | nil : AddsReturns [] []
  | keep (c : Char) {text text' : List Char} (h : AddsReturns text text') :
      AddsReturns (c :: text) (c :: text')
  | add {text text' : List Char} (h : AddsReturns text text') :
      AddsReturns ('\n' :: text) ('\r' :: '\n' :: text')

/-- The second text is the first one in another layout. -/
inductive Relaid : List Char → List Char → Prop where
  /-- Some lines end in a carriage return and a line feed. -/
  | returns {text text' : List Char} (h : AddsReturns text text') : Relaid text text'
  /-- A line feed stands at the end. -/
  | lineFeed (text : List Char) : Relaid text (text ++ ['\n'])
  /-- A byte-order mark stands at the start. -/
  | byteOrderMark (text : List Char) : Relaid text ('\uFEFF' :: text)
  /-- A line ends in a comment. -/
  | comment (before : List Char) {comment after : List Char} (hcomment : '\n' ∉ comment)
      (hafter : ∀ c ∈ after.head?, c = '\n') :
      Relaid (before ++ after) (before ++ (';' :: comment ++ after))
  /-- Separators stand in the place of others. -/
  | gap (before : List Char) {gap gap' : List Char} (hgap : Line.IsGap gap)
      (hgap' : Line.IsGap gap') (after : List Char) :
      Relaid (before ++ (gap ++ after)) (before ++ (gap' ++ after))

theorem AddsReturns.forall₂_splitOn {text text' : List Char} (h : AddsReturns text text') :
    List.Forall₂ (fun line line' => line' = line ∨ line' = line ++ ['\r'])
      (text.splitOn '\n') (text'.splitOn '\n') := by
  induction h with
  | nil => exact .cons (.inl rfl) .nil
  | @keep c text text' _ ih =>
    rw [List.splitOn_cons_eq_if_modifyHead, List.splitOn_cons_eq_if_modifyHead]
    generalize text.splitOn '\n' = lines, text'.splitOn '\n' = lines' at ih ⊢
    split_ifs with hc
    · exact .cons (.inl rfl) ih
    · cases ih with
      | nil => exact .nil
      | cons hline hrest =>
        refine .cons ?_ hrest
        rcases hline with rfl | rfl
        · exact .inl rfl
        · exact .inr rfl
  | add _ ih => exact .cons (.inr rfl) ih

theorem AddsReturns.map_tokens {text text' : List Char} (h : AddsReturns text text') :
    (text'.splitOn '\n').map Line.tokens = (text.splitOn '\n').map Line.tokens := by
  rw [← List.forall₂_eq_eq_eq, List.forall₂_map_left_iff, List.forall₂_map_right_iff]
  refine h.forall₂_splitOn.flip.imp fun line' line hline => ?_
  rcases hline with rfl | rfl
  · rfl
  · exact Line.tokens_return line

/-- A piece of a line may be replaced by another one that leaves the tokens of the line alone. -/
theorem map_tokens_piece {piece piece' : List Char} (h : '\n' ∉ piece) (h' : '\n' ∉ piece')
    (before : List Char) {after stop : List Char} {lines : List (List Char)}
    (hafter : after.splitOn '\n' = stop :: lines)
    (htokens : ∀ start, Line.tokens (start ++ (piece' ++ stop)) =
      Line.tokens (start ++ (piece ++ stop))) :
    ((before ++ (piece' ++ after)).splitOn '\n').map Line.tokens =
      ((before ++ (piece ++ after)).splitOn '\n').map Line.tokens := by
  obtain ⟨lines₀, start, hlines⟩ := exists_splitOn_append before
  rw [hlines (splitOn_append_of_not_mem h hafter), hlines (splitOn_append_of_not_mem h' hafter),
    List.map_append, List.map_append, List.map_cons, List.map_cons, htokens]

/-- **Another layout keeps the tokens of every line.** At most it adds a line without tokens. -/
theorem Relaid.map_tokens {text text' : List Char} (h : Relaid text text') :
    (text'.splitOn '\n').map Line.tokens = (text.splitOn '\n').map Line.tokens ∨
      (text'.splitOn '\n').map Line.tokens = (text.splitOn '\n').map Line.tokens ++ [[]] := by
  cases h with
  | returns h => exact .inl h.map_tokens
  | lineFeed text =>
    right
    rw [List.splitOn_append_cons_self, List.map_append]
    rfl
  | byteOrderMark text =>
    left
    obtain ⟨first, rest, hsplit⟩ := List.exists_cons_of_ne_nil (List.splitOn_ne_nil '\n' text)
    rw [List.splitOn_cons_eq_if_modifyHead, if_neg (by decide), hsplit]
    simp [Line.tokens_byteOrderMark]
  | @comment before comment after hcomment hafter =>
    left
    have hnone : '\n' ∉ ([] : List Char) := by simp
    have hpiece : '\n' ∉ ';' :: comment := by simp [hcomment]
    -- The line ends where the comment is put.
    obtain ⟨lines, hlines⟩ : ∃ lines, after.splitOn '\n' = [] :: lines := by
      cases after with
      | nil => exact ⟨[], rfl⟩
      | cons c after =>
        obtain rfl : c = '\n' := hafter c rfl
        exact ⟨after.splitOn '\n', rfl⟩
    refine map_tokens_piece hnone hpiece before hlines fun start => ?_
    simpa using Line.tokens_comment start comment
  | gap before hgap hgap' after =>
    left
    obtain ⟨stop, lines, hlines⟩ := List.exists_cons_of_ne_nil (List.splitOn_ne_nil '\n' after)
    refine map_tokens_piece hgap.not_mem hgap'.not_mem before hlines fun start => ?_
    rw [Line.tokens_gap hgap, Line.tokens_gap hgap']

/-! ## Programs in another layout -/

/-- Lines are assembled by their tokens. -/
theorem assembledLines_eq_map_tokens (strictness : Strictness) (source : String) :
    assembledLines strictness source =
      ((sourceLines source).map Line.tokens).map (Line.assembleTokens strictness) := by
  rw [List.map_map]
  rfl

theorem Visit.eq_none_of_skipped {visit : Visit} (h : visit.assembled = { outcome := .skipped }) :
    visit.placed? = none ∧ visit.diagnostic? = none ∧ visit.events = [] := by
  obtain ⟨address, line, assembled⟩ := visit
  obtain rfl : assembled = { outcome := .skipped } := h
  exact ⟨rfl, rfl, rfl⟩

/-- A blank line at the end is visited at most, and leaves nothing behind. -/
theorem visits_concat_skipped (address : Word) (line : Nat) (lines : List Assembled) :
    ∃ vs : List Visit, (∀ visit ∈ vs, visit.assembled = { outcome := .skipped }) ∧
      visits address line (lines ++ [{ outcome := .skipped }]) =
        visits address line lines ++ vs := by
  by_cases h : ∃ a ∈ lines, a.outcome = .halt
  · exact ⟨[], by simp, by rw [visits_append_of_halt h, List.append_nil]⟩
  · push Not at h
    exact ⟨_, by simp [visits], visits_append h address line _⟩

theorem Relaid.trace_eq {source source' : String} (h : Relaid source.toList source'.toList)
    (strictness : Strictness) :
    ∃ vs : List Visit, (∀ visit ∈ vs, visit.assembled = { outcome := .skipped }) ∧
      trace strictness source' = trace strictness source ++ vs := by
  rw [trace_eq_visits, trace_eq_visits, assembledLines_eq_map_tokens, assembledLines_eq_map_tokens,
    sourceLines, sourceLines]
  rcases h.map_tokens with htokens | htokens
  · exact ⟨[], by simp, by rw [htokens, List.append_nil]⟩
  · rw [htokens, List.map_append]
    exact visits_concat_skipped 0 1 _

/-- **Layout never matters.** Lines whose code consists of the same runs of non-separators assemble
to the same, with the same warning, and so have the same effect on a pass at any line. A source in
another layout, with other line ends, other separators or other comments, assembles to the same
program, with the same log. -/
theorem assemble_layout (strictness : Strictness) :
    (∀ line line' code code' runs, Line.IsCode line code → Line.IsCode line' code' →
      Text.IsRuns Line.isSeparator code runs → Text.IsRuns Line.isSeparator code' runs →
        Line.assemble strictness line' = Line.assemble strictness line ∧
          ∀ pass, Pass.step strictness pass line' = Pass.step strictness pass line) ∧
    ∀ source source' : String, Relaid source.toList source'.toList →
      assemble strictness source' = assemble strictness source ∧
        (Pass.run strictness source').events = (Pass.run strictness source).events := by
  refine ⟨fun line line' code code' runs hcode hcode' hruns hruns' => ?_,
    fun source source' h => ?_⟩
  · have hline : Line.assemble strictness line' = Line.assemble strictness line := by
      rw [Line.assemble, hcode'.tokens_eq hruns', Line.assemble, hcode.tokens_eq hruns]
    exact ⟨hline, fun pass => by rw [Pass.step, hline, Pass.step]⟩
  · obtain ⟨vs, hvs, htrace⟩ := h.trace_eq strictness
    have hplaced : vs.filterMap Visit.placed? = [] :=
      List.filterMap_eq_nil_iff.2 fun visit hvisit =>
        (Visit.eq_none_of_skipped (hvs visit hvisit)).1
    have hdiagnostic : vs.filterMap Visit.diagnostic? = [] :=
      List.filterMap_eq_nil_iff.2 fun visit hvisit =>
        (Visit.eq_none_of_skipped (hvs visit hvisit)).2.1
    have hevents : vs.flatMap Visit.events = [] :=
      List.flatMap_eq_nil_iff.2 fun visit hvisit =>
        (Visit.eq_none_of_skipped (hvs visit hvisit)).2.2
    rw [assemble_eq_trace, assemble_eq_trace, Pass.run_eq_extend, Pass.run_eq_extend, htrace]
    simp [Pass.extend, hplaced, hdiagnostic, hevents]

/-- A line with other separators and without its comment, a source with another gap in its second
line, and one with a carriage return. -/
theorem assemble_layout_blanks :
    Line.assemble {} "\uFEFF\tMOVF\u3000 7,\u00A03 \r".toList =
        Line.assemble {} "MOVF 7, 3; to 3".toList ∧
      assemble {} "ORG 5\nMOVF 7,\u3000\r3" = assemble {} "ORG 5\nMOVF 7, 3" ∧
      assemble {} "NOP\r\nF" = assemble {} "NOP\nF" := by
  have hcode : Line.IsCode "MOVF 7, 3; to 3".toList "MOVF 7, 3".toList :=
    ⟨by decide, .inr ⟨" to 3".toList, by decide⟩⟩
  have hcode' : Line.IsCode "\uFEFF\tMOVF\u3000 7,\u00A03 \r".toList
      "\uFEFF\tMOVF\u3000 7,\u00A03 \r".toList := ⟨by decide, .inl rfl⟩
  have hruns : Text.IsRuns Line.isSeparator "MOVF 7, 3".toList
      ["MOVF".toList, "7,".toList, "3".toList] := Text.fields_eq_iff.1 (by decide)
  have hruns' : Text.IsRuns Line.isSeparator "\uFEFF\tMOVF\u3000 7,\u00A03 \r".toList
      ["MOVF".toList, "7,".toList, "3".toList] := Text.fields_eq_iff.1 (by decide)
  have hspace : Line.IsGap [' '] := ⟨by simp, List.forall_mem_singleton.2 (by decide)⟩
  have hwide : Line.IsGap ['\u3000', '\r'] :=
    ⟨by simp, List.forall_mem_cons.2 ⟨by decide, List.forall_mem_singleton.2 (by decide)⟩⟩
  have hgap : Relaid "ORG 5\nMOVF 7, 3".toList "ORG 5\nMOVF 7,\u3000\r3".toList :=
    .gap "ORG 5\nMOVF 7,".toList hspace hwide ['3']
  have hreturns : AddsReturns "NOP\nF".toList "NOP\r\nF".toList :=
    .keep 'N' (.keep 'O' (.keep 'P' (.add (.keep 'F' .nil))))
  exact ⟨((assemble_layout {}).1 _ _ _ _ _ hcode hcode' hruns hruns').1,
    ((assemble_layout {}).2 _ _ hgap).1, ((assemble_layout {}).2 _ _ (.returns hreturns)).1⟩

end Midrange
