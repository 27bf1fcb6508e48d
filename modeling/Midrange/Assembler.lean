import Midrange.CommandLine
import Midrange.Disk
import Midrange.Pass
import Midrange.Rendering
import Midrange.Strictness.Reader

/-!
# The assembler command

The command assembles one source file. The result goes to a file or to the standard output, error
lines and remarks to the status stream.

* `Assembler.parse`: the options that the arguments make.
* `Assembler.gather`: reads the switches and the source, in this order, and assembles.
* `Job.output?` and `Job.report`: what is to be written to a file, and what the run says once that
  was tried.
* `Assembler.run`: all of it on a disk. The standard output and the status stream take whatever is
  written to them.

The listing of a source with errors is still written; the run fails afterwards.
-/

namespace Midrange.Assembler

open CommandLine

/-- What a run is asked to do. -/
structure Options where
  /-- The source file. -/
  input : String
  /-- Where the result goes instead of the standard output. -/
  output : Option String := none
  /-- Both switches on, whatever the settings file says. -/
  strict : Bool := false
  /-- The file with the switches. -/
  config : Option String := none
  /-- The format of the result. -/
  format : OutputFormat := .text
  deriving DecidableEq, Repr

/-! ## Failures and reports -/

/-- Why a run fails. -/
inductive Failure where
  /-- The file with the switches cannot be read. -/
  | readingConfig (path : String) (error : Disk.Error)
  /-- It does not hold switches. -/
  | parsingConfig (path : String) (problem : Json.Problem)
  /-- The source cannot be read. -/
  | readingSource (path : String) (error : Disk.Error)
  /-- The result cannot be written. -/
  | writing (path : String) (error : Disk.Error)
  /-- The source has errors. -/
  | errorsFound (count : Nat)
  deriving DecidableEq, Repr

/-- What made a step of a run fail. -/
inductive Cause where
  | disk (error : Disk.Error)
  | json (problem : Json.Problem)
  deriving DecidableEq, Repr

namespace Failure

/-- What failed. -/
def message : Failure → String
  | .readingConfig path _ => "reading config " ++ path
  | .parsingConfig path _ => "parsing config " ++ path
  | .readingSource path _ => "reading " ++ path
  | .writing path _ => "writing " ++ path
  | .errorsFound count => "⚠ " ++ toString count ++ " error(es) encontrado(s)"

/-- Why it failed, if that is not said already. -/
def cause : Failure → Option Cause
  | .readingConfig _ error => some (.disk error)
  | .parsingConfig _ problem => some (.json problem)
  | .readingSource _ error => some (.disk error)
  | .writing _ error => some (.disk error)
  | .errorsFound _ => none

end Failure

/-- A cause in words. -/
def Cause.message : Cause → String
  | .disk error => error.message
  | .json .mismatched => "a value of the wrong kind"
  | .json .truncated => "the text ends too early"
  | .json .malformed => "not a JSON text"

/-- What a run leaves behind apart from files. -/
structure Report where
  /-- What went to the standard output. -/
  stdout : String := ""
  /-- What went to the status stream. -/
  status : String := ""
  /-- The log. -/
  events : List Event := []
  /-- Why the run failed, if it did. -/
  failure : Option Failure := none
  deriving DecidableEq, Repr

/-- The exit code of a run. -/
def Report.exitCode (report : Report) : Nat :=
  if report.failure.isSome then 1 else 0

/-- A failure as it is shown last. -/
def Failure.display (failure : Failure) : String :=
  "Error: " ++ failure.message ++
    (match failure.cause with
    | some cause => "\n\nCaused by:\n    " ++ cause.message
    | none => "") ++ "\n"

/-- What the standard error shows in the end: the status and the failure. -/
def Report.stderr (report : Report) : String :=
  report.status ++
    match report.failure with
    | some failure => failure.display
    | none => ""

/-! ## Inputs -/

/-- The switches of a run. The settings file is read even if both switches are on anyway. -/
def loadStrictness (options : Options) (read : String → Except Disk.Error String) :
    Except Failure Strictness :=
  match options.config with
  | none => .ok (if options.strict then .full else {})
  | some path =>
    match read path with
    | .error error => .error (.readingConfig path error)
    | .ok text =>
      match Strictness.ofJson text.toList with
      | .error problem => .error (.parsingConfig path problem)
      | .ok strictness => .ok (if options.strict then .full else strictness)

/-- A source that has been assembled. -/
structure Job where
  /-- What was asked for. -/
  options : Options
  /-- The switches. -/
  strictness : Strictness
  /-- The finished pass. -/
  pass : Pass
  deriving DecidableEq, Repr

/-- Reads what a run needs and assembles it; or the report of a run that could not. -/
def gather (options : Options) (read : String → Except Disk.Error String) : Except Report Job :=
  match loadStrictness options read with
  | .error failure => .error { failure := some failure }
  | .ok strictness =>
    match read options.input with
    | .error error =>
      .error
        { events := [.options strictness]
          failure := some (.readingSource options.input error) }
    | .ok source => .ok { options, strictness, pass := Pass.run strictness source }

/-! ## Outputs -/

namespace Job

/-- The assembled program. -/
def program (job : Job) : Program :=
  job.pass.program

/-- The program in the format that was asked for. -/
def rendered (job : Job) : String :=
  job.program.render job.options.format

/-- The path and text of the file that is to be written. A text without characters is not. -/
def output? (job : Job) : Option (String × String) :=
  if job.rendered.isEmpty then none else job.options.output.map (·, job.rendered)

/-- The messages of the errors, a line each. -/
def errorLines (job : Job) : String :=
  String.join (job.program.errors.map fun diagnostic => diagnostic.message ++ "\n")

/-- Said when there is nothing to write. -/
def nothingToWrite : String :=
  "sin instrucciones ensambladas, no hay nada que escribir\n"

/-- Said when words were assembled without errors. -/
def success : String :=
  "✓ Compilación exitosa\n"

/-- The log up to the output. -/
def events (job : Job) : List Event :=
  .options job.strictness :: job.pass.events.toList

/-- The report of a run whose output did not fail: what went to the standard output, and whether a
file was written. -/
def conclude (job : Job) (stdout : String) (wrote : List Event) : Report where
  stdout
  status := job.errorLines ++ (if job.rendered.isEmpty then nothingToWrite else "") ++
    (if job.program.errors.isEmpty && !job.program.words.isEmpty then success else "")
  events := job.events ++ wrote
  failure :=
    if job.program.errors.isEmpty then none else some (.errorsFound job.program.errors.length)

/-- The report of a run that wrote no file. -/
def reportPrinted (job : Job) : Report :=
  job.conclude (if job.rendered.isEmpty then "" else job.rendered ++ "\n") []

/-- The report of a run that wrote the file at a path. -/
def reportWritten (job : Job) (path : String) : Report :=
  job.conclude "" [.wrote path job.program.words.length]

/-- The report of a run that could not write the file at a path. -/
def reportUnwritten (job : Job) (path : String) (error : Disk.Error) : Report where
  status := job.errorLines
  events := job.events
  failure := some (.writing path error)

end Job

/-- Runs the command on a disk. Only the disk can fail: what is written to the standard output or to
the status stream always arrives there, so a run that is cut short by one of them has no
counterpart. -/
def run (options : Options) (disk : Disk) : Report × Disk :=
  match gather options disk.read with
  | .error report => (report, disk)
  | .ok job =>
    match job.output? with
    | none => (job.reportPrinted, disk)
    | some (path, text) =>
      match disk.write path text with
      | .ok written => (job.reportWritten path, written)
      | .error error => (job.reportUnwritten path error, disk)

/-! ## Arguments -/

/-- What the arguments give values to. -/
inductive Key where
  | input
  | output
  | strict
  | config
  | format
  deriving DecidableEq, Repr

/-- A path must not be empty, and a format has to be one of the two. -/
def accepts : Key → String → Bool
  | .strict, _ => true
  | .format, value => (OutputFormat.ofName? value).isSome
  | _, path => !path.isEmpty

/-- The arguments of the command. -/
def grammar : Grammar Key where
  switches :=
    [⟨"output", some 'o', .value .output⟩, ⟨"strict", none, .flag .strict⟩,
     ⟨"config", none, .value .config⟩, ⟨"format", none, .value .format⟩,
     ⟨"help", some 'h', .help⟩, ⟨"version", some 'V', .version⟩]
  operands := [.input]
  accepts

/-- The options that the arguments make. -/
def parse (arguments : List String) : Except Stop Options := do
  let given ← grammar.parse arguments
  return {
    input := (given.lookup .input).getD ""
    output := given.lookup .output
    strict := (given.lookup .strict).isSome
    config := given.lookup .config
    format := ((given.lookup .format).bind OutputFormat.ofName?).getD .text }

end Midrange.Assembler
