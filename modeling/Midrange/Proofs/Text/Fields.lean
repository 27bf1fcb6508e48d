import Midrange.Line

/-!
# Cutting a text into fields

* `splitOnP_forall`: a piece between separators holds none.
* `fields_append_sep`: a separator parts the fields before it from the fields after it.
* `fields_of_forall`: a non-empty text without separators is one field.
* `fields_gap_append`, `fields_run_append`: the fields of a text, read from the left.
* `IsRuns sep text runs`: the maximal runs of a text, without a word about splitting.
  `fields_eq_iff` says that the fields of a text are its maximal runs.
-/

namespace Midrange.Text

variable {sep : Char → Bool}

theorem splitOnP_forall (text : List Char) :
    ∀ piece ∈ text.splitOnP sep, ∀ c ∈ piece, sep c = false := by
  induction text with
  | nil => simp
  | cons c rest ih =>
    rw [List.splitOnP_cons_eq_if_modifyHead]
    by_cases hc : sep c = true
    · simpa [hc] using ih
    · rcases hsplit : rest.splitOnP sep with _ | ⟨first, others⟩
      · exact absurd hsplit (List.splitOnP_ne_nil sep rest)
      · rw [hsplit, List.forall_mem_cons] at ih
        simpa [hc] using ih

/-! ## Fields -/

@[simp] theorem fields_nil : fields sep [] = [] := by
  simp [fields]

theorem fields_append_sep {c : Char} (hc : sep c = true) (before after : List Char) :
    fields sep (before ++ c :: after) = fields sep before ++ fields sep after := by
  simp [fields, List.splitOnP_append_cons before after hc]

theorem fields_of_forall {text : List Char} (h : ∀ c ∈ text, sep c = false) (hne : text ≠ []) :
    fields sep text = [text] := by
  simp [fields, List.splitOnP_eq_singleton h, hne]

theorem fields_sep_cons {c : Char} (hc : sep c = true) (text : List Char) :
    fields sep (c :: text) = fields sep text := by
  simpa using fields_append_sep hc [] text

/-- Separators in front of a text start no field. -/
theorem fields_gap_append {gap : List Char} (h : ∀ c ∈ gap, sep c = true)
    (text : List Char) : fields sep (gap ++ text) = fields sep text := by
  induction gap with
  | nil => rfl
  | cons c gap ih =>
    rw [List.cons_append, fields_sep_cons (h c (by simp)), ih fun d hd => h d (by simp [hd])]

/-- A run of characters that ends at a separator or at the end of the text is a field. -/
theorem fields_run_append {run text : List Char} (h : ∀ c ∈ run, sep c = false) (hne : run ≠ [])
    (htext : ∀ c ∈ text.head?, sep c = true) :
    fields sep (run ++ text) = run :: fields sep text := by
  cases text with
  | nil => rw [List.append_nil, fields_of_forall h hne, fields_nil]
  | cons c text =>
    have hc : sep c = true := htext c rfl
    rw [fields_append_sep hc, fields_of_forall h hne, fields_sep_cons hc, List.singleton_append]

/-! ## Maximal runs -/

/-- The maximal non-empty runs of characters that are no separators, in order. A run has separators
or the start of the text before it, and a separator or the end of the text behind it. -/
inductive IsRuns (sep : Char → Bool) : List Char → List (List Char) → Prop where
  /-- A text of separators has no runs. -/
  | none {gap : List Char} (hgap : ∀ c ∈ gap, sep c = true) : IsRuns sep gap []
  /-- A run behind separators, if there are any, and the runs of what follows it. -/
  | cons {gap run text : List Char} {runs : List (List Char)} (hgap : ∀ c ∈ gap, sep c = true)
      (hrun : ∀ c ∈ run, sep c = false) (hne : run ≠ []) (htext : ∀ c ∈ text.head?, sep c = true)
      (h : IsRuns sep text runs) : IsRuns sep (gap ++ (run ++ text)) (run :: runs)

theorem IsRuns.fields_eq {text : List Char} {runs : List (List Char)} (h : IsRuns sep text runs) :
    fields sep text = runs := by
  induction h with
  | none hgap => simpa using fields_gap_append hgap []
  | cons hgap hrun hne htext _ ih =>
    rw [fields_gap_append hgap, fields_run_append hrun hne htext, ih]

theorem isRuns_fields (text : List Char) : IsRuns sep text (fields sep text) := by
  induction hlength : text.length using Nat.strongRecOn generalizing text with
  | ind length ih =>
    -- The text is a gap, a run, and a shorter text to which the hypothesis applies.
    have hgap : ∀ c ∈ text.takeWhile sep, sep c = true := List.all_eq_true.1 List.all_takeWhile
    have htext : text.takeWhile sep ++ text.dropWhile sep = text := List.takeWhile_append_dropWhile
    cases hrest : text.dropWhile sep with
    | nil =>
      rw [hrest, List.append_nil] at htext
      rw [htext] at hgap
      have hnone : fields sep text = [] := by simpa using fields_gap_append hgap []
      rw [hnone]
      exact .none hgap
    | cons c rest =>
      have hc : sep c = false := by
        simpa [hrest] using List.head?_dropWhile_not sep text
      have hrun : ∀ d ∈ (c :: rest).takeWhile (!sep ·), sep d = false := by
        simpa using List.all_eq_true.1 (List.all_takeWhile (p := (!sep ·)) (l := c :: rest))
      have hne : (c :: rest).takeWhile (!sep ·) ≠ [] := by simp [hc]
      have hend : ∀ d ∈ ((c :: rest).dropWhile (!sep ·)).head?, sep d = true := by
        intro d hd
        simpa [Option.mem_def.1 hd] using List.head?_dropWhile_not (!sep ·) (c :: rest)
      have hlt : ((c :: rest).dropWhile (!sep ·)).length < length := by
        have hle := (List.dropWhile_sublist (l := rest) (!sep ·)).length_le
        have hsum := congrArg List.length htext
        simp only [hrest, List.length_append, List.length_cons] at hsum
        simp only [hc, Bool.not_false, List.dropWhile_cons_of_pos]
        omega
      rw [← htext, hrest, ← List.takeWhile_append_dropWhile (p := (!sep ·)) (l := c :: rest),
        fields_gap_append hgap, fields_run_append hrun hne hend]
      exact .cons hgap hrun hne hend (ih _ hlt _ rfl)

/-- **The fields of a text are its maximal runs.** -/
theorem fields_eq_iff {text : List Char} {runs : List (List Char)} :
    fields sep text = runs ↔ IsRuns sep text runs :=
  ⟨fun h => h ▸ isRuns_fields text, IsRuns.fields_eq⟩

end Midrange.Text
