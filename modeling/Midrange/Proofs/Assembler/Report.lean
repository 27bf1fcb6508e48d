import Midrange.Proofs.Assembler.Course
import Midrange.Proofs.Line.Quotation
import Midrange.Proofs.Listing.Lines

/-!
# What a run reports

A run that has read its switches and its source says what became of them: the errors line by line, a
remark perhaps, and a failure if there were errors or if the output could not be written. The output
itself is whole, and it is there whether or not the source has errors.

* `HasLines text lines`: the lines of a text, each of which is ended by a line feed.
* `OutputFails options disk program`: there is something to write, and writing it fails.
* `Says`: the status, the failure and the exit code. `Delivers`: where the rendered program is.
* `run_reports`: both hold of every run.
-/

namespace Midrange

/-! ## Empty renderings -/

theorem Json.pretty_ne_empty (value : Json) : value.pretty ≠ "" := by
  have hlayout : layout 0 value ≠ [] := by
    cases value with
    | number n =>
      rw [layout]
      exact (Literal.isNumeral_toDigits (by omega) (by omega) n).ne_nil
    | string text => simp [layout, quoted]
    | array items =>
      rw [layout, block]
      split_ifs <;> simp
    | object members =>
      rw [layout, block]
      split_ifs <;> simp
  simpa [pretty] using hlayout

/-- Only the listing of no words is empty. -/
theorem Program.render_eq_empty_iff {program : Program} {format : OutputFormat} :
    program.render format = "" ↔ format = .text ∧ program.words = [] := by
  cases format with
  | text => simp [render, Listing.render_eq_empty_iff]
  | json => simp [render, Json.pretty_ne_empty]

namespace Assembler

/-! ## Lines -/

/-- A text is made of the given lines, each ended by a line feed. -/
def HasLines (text : String) (lines : List String) : Prop :=
  text.toList.splitOn '\n' = lines.map String.toList ++ [[]]

theorem hasLines_join {lines : List String} (h : ∀ line ∈ lines, '\n' ∉ line.toList) :
    HasLines (String.join (lines.map (· ++ "\n"))) lines := by
  have htext : (String.join (lines.map (· ++ "\n"))).toList =
      (lines.map String.toList).flatMap (· ++ ['\n']) := by
    simp [List.flatMap_map]
  have hsplit := splitOn_flatMap_append (List.forall_mem_map.2 h) []
  rwa [List.append_nil, ← htext] at hsplit

/-! ## What is said -/

/-- There is something to write to a file, and it cannot be written. -/
def OutputFails (options : Options) (disk : Disk) (program : Program) : Prop :=
  ∃ path error, options.output = some path ∧ program.render options.format ≠ "" ∧
    disk.write path (program.render options.format) = .error error

theorem OutputFails.not_nothing {options : Options} {disk : Disk} {program : Program}
    (h : OutputFails options disk program) :
    ¬(options.format = .text ∧ program.words = []) := by
  obtain ⟨path, error, -, hne, -⟩ := h
  rwa [ne_eq, Program.render_eq_empty_iff] at hne

/-- What a run says of the program that it has assembled. -/
structure Says (options : Options) (disk : Disk) (program : Program) (report : Report) :
    Prop where
  /-- The status has the messages of the errors, a line each, and then at most one remark. -/
  status : ∃ remarks : List String,
    HasLines report.status (program.errors.map Diagnostic.message ++ remarks) ∧
    remarks.length ≤ 1 ∧
    remarks ⊆ ["sin instrucciones ensambladas, no hay nada que escribir",
      "✓ Compilación exitosa"] ∧
    ("sin instrucciones ensambladas, no hay nada que escribir" ∈ remarks ↔
      options.format = .text ∧ program.words = []) ∧
    ("✓ Compilación exitosa" ∈ remarks ↔
      ¬OutputFails options disk program ∧ program.errors = [] ∧ program.words ≠ [])
  /-- Unless the output fails, the run fails because of errors, and says how many there are. -/
  failure : ¬OutputFails options disk program → ∀ n : Nat,
    (∃ failure, report.failure = some failure ∧
      failure.message = "⚠ " ++ toString n ++ " error(es) encontrado(s)" ∧
      failure.cause = none) ↔ n = program.errors.length ∧ 0 < n
  exitCode : report.exitCode = 0 ↔ ¬OutputFails options disk program ∧ program.errors = []

/-- The remarks of a run whose output does not fail. -/
def remarks (format : OutputFormat) (program : Program) : List String :=
  if program.words = [] then
    if format = .text then ["sin instrucciones ensambladas, no hay nada que escribir"] else []
  else if program.errors = [] then ["✓ Compilación exitosa"]
  else []

section Remarks

variable {format : OutputFormat} {program : Program}

theorem length_remarks_le : (remarks format program).length ≤ 1 := by
  unfold remarks
  split_ifs <;> simp

theorem remarks_subset : remarks format program ⊆
    ["sin instrucciones ensambladas, no hay nada que escribir", "✓ Compilación exitosa"] := by
  unfold remarks
  split_ifs <;> simp

theorem nothing_mem_remarks_iff :
    "sin instrucciones ensambladas, no hay nada que escribir" ∈ remarks format program ↔
      format = .text ∧ program.words = [] := by
  unfold remarks
  split_ifs with hwords hformat <;> simp_all

theorem success_mem_remarks_iff :
    "✓ Compilación exitosa" ∈ remarks format program ↔
      program.errors = [] ∧ program.words ≠ [] := by
  unfold remarks
  split_ifs with hwords <;> simp_all

theorem not_mem_of_mem_remarks : ∀ remark ∈ remarks format program, '\n' ∉ remark.toList := by
  have hboth : ∀ remark ∈ ["sin instrucciones ensambladas, no hay nada que escribir",
      "✓ Compilación exitosa"], '\n' ∉ remark.toList := by
    simp
  exact fun remark hremark => hboth remark (remarks_subset hremark)

end Remarks

variable {options : Options} {disk : Disk} {strictness : Strictness} {source : String}

/-- The messages of the errors of a program are lines, and lines may follow them. -/
theorem hasLines_errors {lines : List String} (h : ∀ line ∈ lines, '\n' ∉ line.toList) :
    HasLines ((jobOf options strictness source).errorLines ++
        String.join (lines.map (· ++ "\n")))
      ((assemble strictness source).errors.map Diagnostic.message ++ lines) := by
  have hjoin : (jobOf options strictness source).errorLines ++
      String.join (lines.map (· ++ "\n")) =
        String.join (((assemble strictness source).errors.map Diagnostic.message ++ lines).map
          (· ++ "\n")) := by
    rw [Job.errorLines, program_jobOf, List.map_append, List.map_map, String.join_append]
    rfl
  rw [hjoin]
  refine hasLines_join fun line hline => ?_
  rcases List.mem_append.1 hline with hline | hline
  · obtain ⟨diagnostic, hmem, rfl⟩ := List.mem_map.1 hline
    exact not_mem_message hmem
  · exact h line hline

theorem status_conclude (stdout : String) (wrote : List Event) :
    ((jobOf options strictness source).conclude stdout wrote).status =
      (jobOf options strictness source).errorLines ++
        String.join ((remarks options.format (assemble strictness source)).map (· ++ "\n")) := by
  simp only [Job.conclude, rendered_jobOf, program_jobOf, String.isEmpty_iff,
    Program.render_eq_empty_iff, remarks]
  by_cases hwords : (assemble strictness source).words = []
  · by_cases hformat : options.format = .text
    · simp [hwords, hformat, Job.nothingToWrite]
    · simp [hwords, hformat]
  · by_cases herrors : (assemble strictness source).errors = []
    · simp [hwords, herrors, Job.success]
    · simp [hwords, herrors]

theorem hasLines_conclude (stdout : String) (wrote : List Event) :
    HasLines ((jobOf options strictness source).conclude stdout wrote).status
      ((assemble strictness source).errors.map Diagnostic.message ++
        remarks options.format (assemble strictness source)) := by
  rw [status_conclude]
  exact hasLines_errors not_mem_of_mem_remarks

theorem failure_conclude (stdout : String) (wrote : List Event) :
    ((jobOf options strictness source).conclude stdout wrote).failure =
      if (assemble strictness source).errors = [] then none
      else some (.errorsFound (assemble strictness source).errors.length) := by
  simp only [Job.conclude, program_jobOf, List.isEmpty_iff]

/-- The number of errors can be read off the failure that names it. -/
theorem message_errorsFound_iff {count n : Nat} :
    (Failure.errorsFound count).message = "⚠ " ++ toString n ++ " error(es) encontrado(s)" ↔
      count = n := by
  constructor
  · intro h
    have htexts : ("⚠ " ++ toString count ++ " error(es) encontrado(s)").toList =
        ("⚠ " ++ toString n ++ " error(es) encontrado(s)").toList := congrArg String.toList h
    simp only [String.toList_append, Nat.toString_eq_repr, Nat.toList_repr] at htexts
    have hdigits : Nat.toDigits 10 count = Nat.toDigits 10 n :=
      List.append_cancel_left (List.append_cancel_right htexts)
    have hvalue : ∀ m, Literal.positional 10 (Nat.toDigits 10 m) = m :=
      fun m => (Literal.isNumeral_toDigits (by omega) (by omega) m).value
    rw [← hvalue count, hdigits, hvalue n]
  · rintro rfl
    rfl

theorem says_conclude (h : ¬OutputFails options disk (assemble strictness source))
    (stdout : String) (wrote : List Event) :
    Says options disk (assemble strictness source)
      ((jobOf options strictness source).conclude stdout wrote) where
  status := by
    refine ⟨remarks options.format (assemble strictness source), hasLines_conclude stdout wrote,
      length_remarks_le, remarks_subset, nothing_mem_remarks_iff, ?_⟩
    simp [success_mem_remarks_iff, h]
  failure := by
    intro _ n
    rw [failure_conclude]
    by_cases herrors : (assemble strictness source).errors = []
    · simp [herrors]
    · have hpos := List.length_pos_iff.2 herrors
      simp only [if_neg herrors, Option.some.injEq, exists_eq_left', message_errorsFound_iff,
        Failure.cause, and_true]
      omega
  exitCode := by
    rw [Report.exitCode, failure_conclude]
    by_cases herrors : (assemble strictness source).errors = []
    · simp [herrors, h]
    · simp [herrors]

theorem says_reportUnwritten (h : OutputFails options disk (assemble strictness source))
    (path : String) (error : Disk.Error) :
    Says options disk (assemble strictness source)
      ((jobOf options strictness source).reportUnwritten path error) where
  status := by
    refine ⟨[], ?_, by simp, by simp, by simpa using h.not_nothing, by simp [h]⟩
    have hstatus : ((jobOf options strictness source).reportUnwritten path error).status =
        (jobOf options strictness source).errorLines ++ String.join ([].map (· ++ "\n")) := by
      simp [Job.reportUnwritten]
    rw [hstatus]
    exact hasLines_errors (by simp)
  failure hnot := absurd h hnot
  exitCode := by simp [Job.reportUnwritten, Report.exitCode, h]

/-! ## Where the output is -/

/-- Where a run puts the rendered program. -/
structure Delivers (options : Options) (disk : Disk) (program : Program) (report : Report)
    (after : Disk) : Prop where
  nothing : options.format = .text → program.words = [] → report.stdout = "" ∧ after = disk
  printed : ¬(options.format = .text ∧ program.words = []) → options.output = none →
    report.stdout = program.render options.format ++ "\n" ∧ after = disk
  written : ¬(options.format = .text ∧ program.words = []) → ∀ path, options.output = some path →
    report.stdout = "" ∧
      match disk.write path (program.render options.format) with
      | .ok _ => after.read path = .ok (program.render options.format)
      | .error error => after = disk ∧ report.failure = some (.writing path error)

theorem stdout_reportPrinted : (jobOf options strictness source).reportPrinted.stdout =
    if options.format = .text ∧ (assemble strictness source).words = [] then ""
    else (assemble strictness source).render options.format ++ "\n" := by
  simp only [Job.reportPrinted, Job.conclude, rendered_jobOf, String.isEmpty_iff,
    Program.render_eq_empty_iff]

theorem delivers_printed
    (h : (assemble strictness source).render options.format = "" ∨ options.output = none) :
    Delivers options disk (assemble strictness source)
      (jobOf options strictness source).reportPrinted disk where
  nothing hformat hwords := ⟨by rw [stdout_reportPrinted, if_pos ⟨hformat, hwords⟩], rfl⟩
  printed hne _ := ⟨by rw [stdout_reportPrinted, if_neg hne], rfl⟩
  written hne path houtput := by
    rw [← Program.render_eq_empty_iff] at hne
    simp [hne, houtput] at h

variable {path : String} (hne : (assemble strictness source).render options.format ≠ "")
  (houtput : options.output = some path)

include hne houtput

theorem delivers_written {after : Disk}
    (h : disk.write path ((assemble strictness source).render options.format) = .ok after) :
    Delivers options disk (assemble strictness source)
      ((jobOf options strictness source).reportWritten path) after where
  nothing hformat hwords := absurd (Program.render_eq_empty_iff.2 ⟨hformat, hwords⟩) hne
  printed _ hnone := by simp [houtput] at hnone
  written _ path' houtput' := by
    obtain rfl : path = path' := Option.some.inj (houtput.symm.trans houtput')
    rw [h]
    exact ⟨rfl, Disk.read_write h⟩

theorem delivers_unwritten {error : Disk.Error}
    (h : disk.write path ((assemble strictness source).render options.format) = .error error) :
    Delivers options disk (assemble strictness source)
      ((jobOf options strictness source).reportUnwritten path error) disk where
  nothing hformat hwords := absurd (Program.render_eq_empty_iff.2 ⟨hformat, hwords⟩) hne
  printed _ hnone := by simp [houtput] at hnone
  written _ path' houtput' := by
    obtain rfl : path = path' := Option.some.inj (houtput.symm.trans houtput')
    rw [h]
    exact ⟨rfl, rfl, rfl⟩

omit hne houtput

/-! ## Runs -/

theorem Loads.eq_and_eq {strictness' : Strictness} {source' : String}
    (h : Loads options disk strictness source) (h' : Loads options disk strictness' source') :
    strictness = strictness' ∧ source = source' :=
  ⟨Except.ok.inj (h.config.symm.trans h'.config), Except.ok.inj (h.source.symm.trans h'.source)⟩

/-- **A run reports exactly what it did**, once its switches and its source could be read. -/
theorem run_reports (hloads : Loads options disk strictness source) :
    Says options disk (assemble strictness source) (run options disk).1 ∧
      Delivers options disk (assemble strictness source) (run options disk).1
        (run options disk).2 := by
  have hcourse := course_run options disk
  generalize (run options disk).1 = report at hcourse ⊢
  generalize (run options disk).2 = after at hcourse ⊢
  cases hcourse with
  | noConfig h => cases hloads.config.symm.trans h
  | noSource _ h => cases hloads.source.symm.trans h
  | printed hloads' h =>
    obtain ⟨rfl, rfl⟩ := hloads.eq_and_eq hloads'
    refine ⟨says_conclude ?_ _ _, delivers_printed h⟩
    rintro ⟨path, error, houtput, hne, -⟩
    simp [hne, houtput] at h
  | written hloads' hne houtput h =>
    obtain ⟨rfl, rfl⟩ := hloads.eq_and_eq hloads'
    refine ⟨says_conclude ?_ _ _, delivers_written hne houtput h⟩
    rintro ⟨path, error, houtput', -, herror⟩
    obtain rfl := Option.some.inj (houtput.symm.trans houtput')
    cases h.symm.trans herror
  | unwritten hloads' hne houtput h =>
    obtain ⟨rfl, rfl⟩ := hloads.eq_and_eq hloads'
    exact ⟨says_reportUnwritten ⟨_, _, houtput, hne, h⟩ _ _, delivers_unwritten hne houtput h⟩

/-- A run on a source with one word and one error: the word is written, and the run fails. The
source is named from the root, and the result goes to the directory above the working directory. -/
theorem run_reports_partial :
    ∃ disk : Disk, disk.workingDirectory = ["home".toList, "me".toList] ∧
      disk.read "/home/p.asm" = .ok "NOP\nFOO" ∧
      (run { input := "/home/p.asm", output := some "../p.hex" } disk).2.read "../p.hex" =
        .ok (Listing.render [⟨0, 0⟩]) ∧
      (run { input := "/home/p.asm", output := some "../p.hex" } disk).1.exitCode ≠ 0 := by
  let options : Options := { input := "/home/p.asm", output := some "../p.hex" }
  let empty : Disk := { workingDirectory := ["home".toList, "me".toList] }
  let disk : Disk := empty.put ["home".toList, "p.asm".toList] (.file "NOP\nFOO".toUTF8)
  have hwritten : empty.write "/home/p.asm" "NOP\nFOO" = .ok disk := by rfl
  have hread : disk.read "/home/p.asm" = .ok "NOP\nFOO" := Disk.read_write hwritten
  have hprogram : assemble {} "NOP\nFOO" = ⟨[⟨0, 0⟩], [⟨2, .unknownMnemonic "FOO".toList⟩]⟩ := by
    decide
  have hloads : Loads options disk {} "NOP\nFOO" := ⟨rfl, hread⟩
  obtain ⟨hreport, hdelivers⟩ := run_reports hloads
  rw [hprogram] at hreport hdelivers
  exact ⟨disk, rfl, hread, (hdelivers.written (by simp) "../p.hex" rfl).2,
    fun hzero => absurd (hreport.exitCode.1 hzero).2 (by simp)⟩

end Assembler

end Midrange
