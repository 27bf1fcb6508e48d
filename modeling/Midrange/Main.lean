import Midrange.Assembler
import Midrange.Reference

/-!
# The command line

`midrange asm …` runs the assembler on real files and `midrange ref …` the instruction reference.
Everything that is decided is decided by the two tools; here files are read and written and streams
are printed.
-/

namespace Midrange.Main

/-- The error of the library that an error of the system stands for, if there is one. -/
def diskError? : IO.Error → Option Disk.Error
  | .noFileOrDirectory .. => some .notFound
  | .inappropriateType _ code _ =>
    if code.toNat = 20 ∨ code.toNat = 0xFFFFFFEC then some .notDirectory else some .isDirectory
  | _ => none

/-- Runs an action on a file. Errors that the library has no name for are passed on. -/
def attempt {α : Type} (action : IO α) : IO (Except Disk.Error α) := do
  try
    return .ok (← action)
  catch error =>
    match diskError? error with
    | some e => return .error e
    | none => throw error

/-- Reads a text file. -/
def readText (path : String) : IO (Except Disk.Error String) := do
  match ← attempt (IO.FS.readBinFile path) with
  | .error error => return .error error
  | .ok content =>
    match String.fromUTF8? content with
    | some text => return .ok text
    | none => return .error .notText

/-- Says what is wrong with the arguments. Help and version are no errors. -/
def explain (stop : CommandLine.Stop) : IO UInt32 := do
  match stop with
  | .helpAsked =>
    IO.println "midrange asm [-o FILE] [--strict] [--config FILE] [--format text|json] ASMFILE"
    IO.println "midrange ref [--format text|json] list | search TEXT | show MNEMONIC"
    return 0
  | .versionAsked =>
    IO.println "midrange 0.1.0"
    return 0
  | _ =>
    IO.eprintln "error: the arguments are not understood; see --help"
    return 2

/-- Prints a report. -/
def publish (report : Assembler.Report) : IO UInt32 := do
  IO.print report.stdout
  IO.eprint report.stderr
  return report.exitCode.toUInt32

/-- Runs the assembler on real files. -/
def assembleFile (options : Assembler.Options) : IO UInt32 := do
  let config ← options.config.mapM fun path => return (path, ← readText path)
  let source ← readText options.input
  let read (path : String) : Except Disk.Error String :=
    match config with
    | some (name, content) => if path = name then content else source
    | none => source
  match Assembler.gather options read with
  | .error report => publish report
  | .ok job =>
    match job.output? with
    | none => publish job.reportPrinted
    | some (path, text) =>
      match ← attempt (IO.FS.writeFile path text) with
      | .ok _ => publish (job.reportWritten path)
      | .error error => publish (job.reportUnwritten path error)

/-- Runs the instruction reference. -/
def consult (request : Reference.Request) : IO UInt32 := do
  let result := Reference.execute request
  IO.print result.stdout
  IO.eprint result.stderr
  return result.exitCode.toUInt32

end Midrange.Main

open Midrange in
/-- The first argument selects the tool. -/
def main (arguments : List String) : IO UInt32 :=
  match arguments with
  | "asm" :: rest =>
    match Assembler.parse rest with
    | .ok options => Main.assembleFile options
    | .error stop => Main.explain stop
  | "ref" :: rest =>
    match Reference.parse rest with
    | .ok request => Main.consult request
    | .error stop => Main.explain stop
  | ["--help"] => Main.explain .helpAsked
  | _ => Main.explain .nothingGiven
