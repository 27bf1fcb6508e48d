import Midrange.Proofs.Assembler.Report
import Midrange.Proofs.Json.Layout

/-!
# The two output formats

A run in the one format and a run in the other tell of the same program. The JSON text is a text of
one value only, and the value says everything about the program: its words, and the line and message
of each error.

* `Program.datum`: the value that stands for a program. Different programs have different values
  (`Program.datum_injective`).
* `Program.isText_render_iff`: what the JSON text of a program is a text of.
* `Agree program text json`: two reports on one program, in the two formats.
* `formats_agree`: the reports of two runs that differ in the format.
-/

namespace Midrange

open Json (Value IsText units)

/-! ## Programs as values -/

/-- A placed word as a value. -/
def Placed.datum (placed : Placed) : Value :=
  .object [(units "address".toList, .number placed.address.toNat),
    (units "value".toList, .number placed.value.toNat)]

/-- An error as a value: its line and its message. -/
def Diagnostic.datum (diagnostic : Diagnostic) : Value :=
  .object [(units "line".toList, .number diagnostic.line),
    (units "message".toList, .string (units diagnostic.message.toList))]

/-- A program as a value: its words and its errors. -/
def Program.datum (program : Program) : Value :=
  .object [(units "words".toList, .array (program.words.map Placed.datum)),
    (units "errors".toList, .array (program.errors.map Diagnostic.datum))]

theorem Placed.datum_injective : Function.Injective Placed.datum := by
  rintro ⟨address, value⟩ ⟨address', value'⟩ h
  simpa [datum, BitVec.toNat_inj] using h

theorem Diagnostic.datum_injective : Function.Injective Diagnostic.datum := by
  intro d d' h
  obtain ⟨hline, hmessage⟩ : d.line = d'.line ∧
      units d.message.toList = units d'.message.toList := by
    simpa [datum] using h
  exact eq_of_message_eq hline (String.toList_injective (Json.units_injective hmessage))

/-- **Different programs have different values.** -/
theorem Program.datum_injective : Function.Injective Program.datum := by
  rintro ⟨words, errors⟩ ⟨words', errors'⟩ h
  obtain ⟨hwords, herrors⟩ : words.map Placed.datum = words'.map Placed.datum ∧
      errors.map Diagnostic.datum = errors'.map Diagnostic.datum := by
    simpa [datum] using h
  rw [Placed.datum_injective.list_map hwords, Diagnostic.datum_injective.list_map herrors]

theorem Program.toValue_toJson (program : Program) : program.toJson.toValue = program.datum := by
  have hplaced : ∀ placed : Placed, placed.toJson.toValue = placed.datum := fun _ => rfl
  have hdiagnostic : ∀ d : Diagnostic, d.toJson.toValue = d.datum := fun _ => rfl
  simp [toJson, datum, Json.toValue, Json.toMembers, Json.toValues_eq_map, hplaced, hdiagnostic]

/-- **The JSON text of a program is a text of its value only**, with or without blanks after it. -/
theorem Program.isText_render_iff (program : Program) {after : List Char}
    (hafter : Json.Spaces after) {value : Value} :
    IsText value ((program.render .json).toList ++ after) ↔ value = program.datum := by
  rw [← toValue_toJson]
  exact Json.isText_pretty_iff program.toJson hafter

/-- **Different programs have different JSON texts.** -/
theorem Program.eq_of_render_json_eq {program program' : Program}
    (h : program.render .json = program'.render .json) : program = program' := by
  have htext : IsText program.datum ((program.render .json).toList ++ []) :=
    (program.isText_render_iff Json.spaces_nil).2 rfl
  rw [h, isText_render_iff _ Json.spaces_nil] at htext
  exact datum_injective htext

namespace Assembler

/-! ## Runs in the two formats -/

/-- Two reports on one program agree, the first in text and the second in JSON. -/
structure Agree (program : Program) (text json : Report) : Prop where
  failure : text.failure = json.failure
  textStatus : HasLines text.status
    (program.errors.map Diagnostic.message ++ remarks .text program)
  jsonStatus : HasLines json.status
    (program.errors.map Diagnostic.message ++ remarks .json program)
  textStdout : text.stdout =
    if program.words = [] then "" else Listing.render program.words ++ "\n"
  /-- The JSON text has the value of the program and no other. -/
  jsonStdout : ∀ value, IsText value json.stdout.toList ↔ value = program.datum
  /-- No other program has this value. -/
  lossless : ∀ other : Program, IsText other.datum json.stdout.toList → other = program

variable {options : Options} {disk : Disk} {strictness : Strictness} {source : String}

theorem isText_stdout_iff {value : Value} :
    IsText value
        (jobOf { options with format := .json } strictness source).reportPrinted.stdout.toList ↔
      value = (assemble strictness source).datum := by
  rw [stdout_reportPrinted, if_neg (by simp), String.toList_append]
  exact Program.isText_render_iff _ (by simp [Json.Spaces, Json.isSpace])

theorem agree_reportPrinted (options : Options) (strictness : Strictness) (source : String) :
    Agree (assemble strictness source)
      (jobOf { options with format := .text } strictness source).reportPrinted
      (jobOf { options with format := .json } strictness source).reportPrinted where
  failure := by rw [Job.reportPrinted, Job.reportPrinted, failure_conclude, failure_conclude]
  textStatus := hasLines_conclude _ _
  jsonStatus := hasLines_conclude _ _
  textStdout := by
    rw [stdout_reportPrinted]
    simp [Program.render]
  jsonStdout _ := isText_stdout_iff
  lossless _ h := Program.datum_injective (isText_stdout_iff.1 h)

/-- A run that cannot read its switches or its source stops before the format matters. -/
theorem run_eq_of_not_loads (h : ∀ strictness source, ¬Loads options disk strictness source)
    (format : OutputFormat) : run { options with format } disk = run options disk := by
  cases hconfig : loadStrictness options disk.read with
  | error failure =>
    have hconfig' : loadStrictness { options with format } disk.read = .error failure := hconfig
    simp only [run, gather, hconfig, hconfig']
  | ok strictness =>
    have hconfig' : loadStrictness { options with format } disk.read = .ok strictness := hconfig
    cases hsource : disk.read options.input with
    | error error => simp only [run, gather, hconfig, hconfig', hsource]
    | ok source => exact absurd ⟨hconfig, hsource⟩ (h strictness source)

/-- **The two formats tell of the same program.** Runs that print their result and differ in the
format succeed or fail alike. If switches and source can be read, both report the errors in the same
lines, the JSON text is a text of the assembled program and of no other value, and the listing is
that of its words; if not, the runs do not differ at all. No two programs have the same JSON
text. -/
theorem formats_agree (options : Options) (disk : Disk) (houtput : options.output = none) :
    (run { options with format := .text } disk).1.failure =
        (run { options with format := .json } disk).1.failure ∧
      (∀ strictness source, Loads options disk strictness source →
        Agree (assemble strictness source) (run { options with format := .text } disk).1
          (run { options with format := .json } disk).1) ∧
      ((∀ strictness source, ¬Loads options disk strictness source) →
        run { options with format := .text } disk = run { options with format := .json } disk) ∧
      ∀ program program' : Program,
        program.render .json = program'.render .json → program = program' := by
  have hagree : ∀ strictness source, Loads options disk strictness source →
      Agree (assemble strictness source) (run { options with format := .text } disk).1
        (run { options with format := .json } disk).1 := by
    intro strictness source hloads
    have hprinted : ∀ format, run { options with format } disk =
        ((jobOf { options with format } strictness source).reportPrinted, disk) :=
      fun format => run_printed ⟨hloads.config, hloads.source⟩ (.inr houtput)
    rw [hprinted, hprinted]
    exact agree_reportPrinted options strictness source
  have hstopped : (∀ strictness source, ¬Loads options disk strictness source) →
      run { options with format := .text } disk = run { options with format := .json } disk := by
    intro h
    rw [run_eq_of_not_loads h .text, run_eq_of_not_loads h .json]
  refine ⟨?_, hagree, hstopped, fun _ _ => Program.eq_of_render_json_eq⟩
  by_cases h : ∃ strictness source, Loads options disk strictness source
  · obtain ⟨strictness, source, hloads⟩ := h
    exact (hagree strictness source hloads).failure
  · push Not at h
    rw [hstopped h]

/-- A source with a word, and with a quote and a backslash in an error. It lies beside the working
directory. -/
theorem formats_agree_quote :
    ∃ disk : Disk, disk.workingDirectory = ["home".toList] ∧
      disk.read "../src/p.asm" = .ok "NOP\nF\"\\" ∧
      (run { input := "../src/p.asm", format := .text } disk).1.stdout =
        Listing.render [⟨0, 0⟩] ++ "\n" ∧
      IsText (Program.datum ⟨[⟨0, 0⟩], [⟨2, .unknownMnemonic ['F', '"', '\\']⟩]⟩)
        (run { input := "../src/p.asm", format := .json } disk).1.stdout.toList := by
  let empty : Disk :=
    { entries := [(["src".toList], .directory)], workingDirectory := ["home".toList] }
  let disk : Disk := empty.put ["src".toList, "p.asm".toList] (.file "NOP\nF\"\\".toUTF8)
  have hwritten : empty.write "../src/p.asm" "NOP\nF\"\\" = .ok disk := by rfl
  have hread : disk.read "../src/p.asm" = .ok "NOP\nF\"\\" := Disk.read_write hwritten
  have hprogram : assemble {} "NOP\nF\"\\" =
      ⟨[⟨0, 0⟩], [⟨2, .unknownMnemonic ['F', '"', '\\']⟩]⟩ := by
    decide
  have hagree : Agree (assemble {} "NOP\nF\"\\")
      (run { input := "../src/p.asm", format := .text } disk).1
      (run { input := "../src/p.asm", format := .json } disk).1 :=
    (formats_agree { input := "../src/p.asm" } disk rfl).2.1 {} _ ⟨rfl, hread⟩
  rw [hprogram] at hagree
  have htext := hagree.textStdout
  rw [if_neg (by simp)] at htext
  have hjson := (hagree.jsonStdout _).2 rfl
  exact ⟨disk, rfl, hread, htext, hjson⟩

end Assembler

end Midrange
