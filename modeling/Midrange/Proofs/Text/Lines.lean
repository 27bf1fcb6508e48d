import Midrange.Pass
import Midrange.Proofs.Text.Fields

/-!
# The lines of a text

Where the lines of a source stand in its text.

* `LineAt text number line`: the line of a given number, found by counting line feeds.
* `lineAt_of_getElem?_sourceLines`: the list of lines holds the lines at their numbers.
* `splitOn_append_of_not_mem`, `splitOn_flatMap_append`, `exists_splitOn_append`: the lines of a
  text that is put together.
-/

namespace Midrange

/-- `line` is a line of `text`, from one line feed or end of the text to the next, and its number
is one more than the number of line feeds before it. -/
def LineAt (text : List Char) (number : Nat) (line : List Char) : Prop :=
  ∃ before after, text = before ++ line ++ after ∧ number = 1 + before.count '\n' ∧ '\n' ∉ line ∧
    (before = [] ∨ before.getLast? = some '\n') ∧ (after = [] ∨ after.head? = some '\n')

namespace LineAt

theorem of_not_mem {line : List Char} (h : '\n' ∉ line) : LineAt line 1 line :=
  ⟨[], [], by simp, by simp, h, .inl rfl, .inl rfl⟩

theorem first {line : List Char} (h : '\n' ∉ line) (rest : List Char) :
    LineAt (line ++ '\n' :: rest) 1 line :=
  ⟨[], '\n' :: rest, by simp, by simp, h, .inl rfl, .inr rfl⟩

theorem after_line {first rest line : List Char} {number : Nat} (hfirst : '\n' ∉ first)
    (h : LineAt rest number line) : LineAt (first ++ '\n' :: rest) (number + 1) line := by
  obtain ⟨before, after, rfl, rfl, hline, hbefore, hafter⟩ := h
  refine ⟨first ++ '\n' :: before, after, by simp, ?_, hline, .inr ?_, hafter⟩
  · simp [List.count_append, List.count_eq_zero.2 hfirst]
    omega
  · rcases hbefore with rfl | hbefore
    · simp
    · simp [List.getLast?_append, List.getLast?_cons, hbefore]

end LineAt

theorem lineAt_of_getElem?_intercalate {lines : List (List Char)} (h : ∀ line ∈ lines, '\n' ∉ line)
    {i : Nat} {line : List Char} (hi : lines[i]? = some line) :
    LineAt (['\n'].intercalate lines) (i + 1) line := by
  induction lines generalizing i with
  | nil => simp at hi
  | cons first rest ih =>
    have hfirst : '\n' ∉ first := h first (by simp)
    rcases rest with _ | ⟨second, rest⟩
    · obtain ⟨rfl, rfl⟩ : i = 0 ∧ first = line := by
        cases i <;> simp_all
      simpa using LineAt.of_not_mem hfirst
    · rw [List.intercalate_cons_cons, List.append_assoc, List.singleton_append]
      cases i with
      | zero =>
        obtain rfl : first = line := by simpa using hi
        exact LineAt.first hfirst _
      | succ i =>
        exact (ih (fun l hl => h l (by simp [hl])) (by simpa using hi)).after_line hfirst

theorem not_mem_of_mem_sourceLines {source : String} {line : List Char}
    (h : line ∈ sourceLines source) : '\n' ∉ line := by
  rw [sourceLines, List.splitOn_eq_splitOnP] at h
  intro hmem
  simpa using Text.splitOnP_forall _ _ h _ hmem

/-- **The list of lines holds the lines of the source at their numbers.** -/
theorem lineAt_of_getElem?_sourceLines {source : String} {i : Nat} {line : List Char}
    (h : (sourceLines source)[i]? = some line) : LineAt source.toList (i + 1) line := by
  have hline := lineAt_of_getElem?_intercalate (fun _ => not_mem_of_mem_sourceLines) h
  rwa [sourceLines, List.intercalate_splitOn] at hline

/-! ## Lines of a text that is put together -/

/-- A piece without line feeds goes on with the first line of the text behind it. -/
theorem splitOn_append_of_not_mem {piece : List Char} (h : '\n' ∉ piece) {after stop : List Char}
    {lines : List (List Char)} (hafter : after.splitOn '\n' = stop :: lines) :
    (piece ++ after).splitOn '\n' = (piece ++ stop) :: lines := by
  induction piece with
  | nil => exact hafter
  | cons c piece ih =>
    rw [List.mem_cons, not_or] at h
    have hc : c ≠ '\n' := Ne.symm h.1
    simp [List.splitOn_cons_eq_if_modifyHead, hc, ih h.2]

/-- Lines that are each ended by a line feed are the first lines of a text. -/
theorem splitOn_flatMap_append {lines : List (List Char)} (h : ∀ line ∈ lines, '\n' ∉ line)
    (after : List Char) :
    (lines.flatMap (· ++ ['\n']) ++ after).splitOn '\n' = lines ++ after.splitOn '\n' := by
  induction lines with
  | nil => rfl
  | cons line rest ih =>
    have hrest := ih fun l hl => h l (List.mem_cons_of_mem _ hl)
    rw [List.flatMap_cons, List.append_assoc, List.append_assoc, List.singleton_append,
      List.splitOn_append_cons_self_of_not_mem (h line List.mem_cons_self), hrest, List.cons_append]

/-- **Where two texts meet**, the last line of the one goes on with the first line of the other. -/
theorem exists_splitOn_append (before : List Char) :
    ∃ lines start, ∀ {after stop : List Char} {lines' : List (List Char)},
      after.splitOn '\n' = stop :: lines' →
        (before ++ after).splitOn '\n' = lines ++ (start ++ stop) :: lines' := by
  induction before with
  | nil => exact ⟨[], [], id⟩
  | cons c before ih =>
    obtain ⟨lines, start, hlines⟩ := ih
    by_cases hc : c = '\n'
    · refine ⟨[] :: lines, start, fun hafter => ?_⟩
      simp [List.splitOn_cons_eq_if_modifyHead, hc, hlines hafter]
    · cases lines with
      | nil =>
        refine ⟨[], c :: start, fun hafter => ?_⟩
        simp [List.splitOn_cons_eq_if_modifyHead, hc, hlines hafter]
      | cons first lines =>
        refine ⟨(c :: first) :: lines, start, fun hafter => ?_⟩
        simp [List.splitOn_cons_eq_if_modifyHead, hc, hlines hafter]

end Midrange
