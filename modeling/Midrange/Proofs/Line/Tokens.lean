import Mathlib.Tactic.SplitIfs
import Midrange.Proofs.Text.Fields

/-!
# The tokens of a line

The tokens of a line are the maximal runs of non-separators before its comment. So neither the
separators between two tokens nor the comment behind them say anything.

* `IsCode line code`: the part of a line before its first `;`. `IsCode.tokens_eq` says what the
  tokens of a line are without a word about how they are cut out.
* `IsGap gap`: separators that stand within a line.
* `tokens_gap`, `tokens_comment`, `tokens_return`, `tokens_byteOrderMark`: the tokens of a line with
  a gap somewhere, a comment or a carriage return at its end, or a byte-order mark at its start.
-/

namespace Midrange.Line

/-- The second text is the part of a line before its first `;`. -/
def IsCode (line code : List Char) : Prop :=
  ';' ∉ code ∧ (line = code ∨ ∃ comment, line = code ++ ';' :: comment)

/-- One separator or several of them, and no line feed among them. -/
def IsGap (gap : List Char) : Prop :=
  gap ≠ [] ∧ ∀ c ∈ gap, isSeparator c = true ∧ c ≠ '\n'

theorem IsGap.not_mem {gap : List Char} (h : IsGap gap) : '\n' ∉ gap :=
  fun hmem => (h.2 _ hmem).2 rfl

@[simp] theorem code_comment (comment : List Char) : code (';' :: comment) = [] := rfl

theorem code_append_of_not_mem {start : List Char} (h : ';' ∉ start) (rest : List Char) :
    code (start ++ rest) = start ++ code rest := by
  refine List.takeWhile_append_of_pos fun c hc => ?_
  rw [bne_iff_ne]
  rintro rfl
  exact h hc

theorem code_of_not_mem {line : List Char} (h : ';' ∉ line) : code line = line := by
  have hcode := code_append_of_not_mem h []
  rwa [List.append_nil, show code [] = [] from rfl, List.append_nil] at hcode

theorem code_append_of_mem {start : List Char} (h : ';' ∈ start) (rest : List Char) :
    code (start ++ rest) = code start := by
  obtain ⟨before, after, rfl, hbefore⟩ := List.eq_append_cons_of_mem h
  rw [List.append_assoc, code_append_of_not_mem hbefore, code_append_of_not_mem hbefore,
    List.cons_append, code_comment, code_comment]

theorem IsCode.code_eq {line part : List Char} (h : IsCode line part) : code line = part := by
  obtain ⟨hpart, rfl | ⟨comment, rfl⟩⟩ := h
  · exact code_of_not_mem hpart
  · rw [code_append_of_not_mem hpart, code_comment, List.append_nil]

/-- The tokens of a line whose code has the given runs. -/
theorem IsCode.tokens_eq {line part : List Char} {runs : List (List Char)} (h : IsCode line part)
    (hruns : Text.IsRuns isSeparator part runs) : tokens line = runs := by
  rw [tokens, h.code_eq, hruns.fields_eq]

/-- **A gap parts tokens, whatever it is made of**, unless it stands in a comment. -/
theorem tokens_gap {gap : List Char} (h : IsGap gap) (start stop : List Char) :
    tokens (start ++ (gap ++ stop)) =
      if ';' ∈ start then tokens start else tokens start ++ tokens stop := by
  split_ifs with hstart
  · rw [tokens, code_append_of_mem hstart, tokens]
  · obtain ⟨c, gap, rfl⟩ := List.exists_cons_of_ne_nil h.1
    have hgap : ∀ d ∈ c :: gap, isSeparator d = true := fun d hd => (h.2 d hd).1
    have hcode : ';' ∉ c :: gap := fun hmem => absurd (hgap _ hmem) (by decide)
    rw [List.forall_mem_cons] at hgap
    rw [tokens, code_append_of_not_mem hstart, code_append_of_not_mem hcode, List.cons_append,
      Text.fields_append_sep hgap.1, Text.fields_gap_append hgap.2, tokens,
      code_of_not_mem hstart, tokens]

/-- A comment adds no tokens. -/
theorem tokens_comment (line comment : List Char) :
    tokens (line ++ ';' :: comment) = tokens line := by
  by_cases h : ';' ∈ line
  · rw [tokens, code_append_of_mem h, tokens]
  · rw [tokens, code_append_of_not_mem h, code_comment, List.append_nil, tokens, code_of_not_mem h]

theorem tokens_return (line : List Char) : tokens (line ++ ['\r']) = tokens line := by
  have hgap : IsGap ['\r'] := ⟨by simp, List.forall_mem_singleton.2 (by decide)⟩
  have htokens := tokens_gap hgap line []
  rwa [show tokens [] = [] from rfl, List.append_nil, List.append_nil, ite_self] at htokens

theorem tokens_byteOrderMark (line : List Char) : tokens ('\uFEFF' :: line) = tokens line := by
  have hcode : code ('\uFEFF' :: line) = '\uFEFF' :: code line := rfl
  rw [tokens, hcode, Text.fields_sep_cons (by decide), tokens]

end Midrange.Line
