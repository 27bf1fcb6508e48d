import Midrange.Assembler
import Midrange.Proofs.Disk.Writing

/-!
# The course of a run

A run reads the switches, then the source, then assembles, and writes last; it stops at the first of
these steps that fails. So a run changes no file but the one that it is told to write, and this one
only when everything before has succeeded.

* `Loads options disk strictness source`: switches and source can be read. `ConfigFails` says why
  the switches cannot.
* `Course options disk report after`: the five courses that a run can take. `course_run` says that
  every run takes one of them.
* `Course.of_entryAt_ne`: what a course has done if an entry has changed.
* `run_touches_output_only`: what a run leaves as it was.
-/

namespace Midrange.Assembler

/-! ## The course of a run -/

/-- The switches and the source of a run can be read. -/
structure Loads (options : Options) (disk : Disk) (strictness : Strictness) (source : String) :
    Prop where
  config : loadStrictness options disk.read = .ok strictness
  source : disk.read options.input = .ok source

/-- The job of a run with the given switches and source. -/
def jobOf (options : Options) (strictness : Strictness) (source : String) : Job :=
  { options, strictness, pass := Pass.run strictness source }

theorem program_jobOf (options : Options) (strictness : Strictness) (source : String) :
    (jobOf options strictness source).program = assemble strictness source := rfl

theorem rendered_jobOf (options : Options) (strictness : Strictness) (source : String) :
    (jobOf options strictness source).rendered =
      (assemble strictness source).render options.format := rfl

/-- What a run can do: the five courses that it can take, with what it reports and the disk that it
leaves behind. -/
inductive Course (options : Options) (disk : Disk) : Report → Disk → Prop where
  /-- The switches cannot be read. -/
  | noConfig {failure : Failure} (h : loadStrictness options disk.read = .error failure) :
      Course options disk { failure := some failure } disk
  /-- The source cannot be read. -/
  | noSource {strictness : Strictness} {error : Disk.Error}
      (hconfig : loadStrictness options disk.read = .ok strictness)
      (h : disk.read options.input = .error error) :
      Course options disk
        { events := [.options strictness]
          failure := some (.readingSource options.input error) } disk
  /-- There is nothing to write, or no file to write it to. -/
  | printed {strictness : Strictness} {source : String}
      (hloads : Loads options disk strictness source)
      (h : (assemble strictness source).render options.format = "" ∨ options.output = none) :
      Course options disk (jobOf options strictness source).reportPrinted disk
  /-- The file is written. -/
  | written {strictness : Strictness} {source path : String} {after : Disk}
      (hloads : Loads options disk strictness source)
      (hne : (assemble strictness source).render options.format ≠ "")
      (houtput : options.output = some path)
      (h : disk.write path ((assemble strictness source).render options.format) = .ok after) :
      Course options disk ((jobOf options strictness source).reportWritten path) after
  /-- The file cannot be written. -/
  | unwritten {strictness : Strictness} {source path : String} {error : Disk.Error}
      (hloads : Loads options disk strictness source)
      (hne : (assemble strictness source).render options.format ≠ "")
      (houtput : options.output = some path)
      (h : disk.write path ((assemble strictness source).render options.format) = .error error) :
      Course options disk ((jobOf options strictness source).reportUnwritten path error) disk

theorem output?_jobOf (options : Options) (strictness : Strictness) (source : String) :
    (jobOf options strictness source).output? =
      if (assemble strictness source).render options.format = "" then none
      else options.output.map (·, (assemble strictness source).render options.format) := by
  simp only [Job.output?, rendered_jobOf, String.isEmpty_iff]
  rfl

section Loaded

variable {options : Options} {disk : Disk} {strictness : Strictness} {source : String}
  (hloads : Loads options disk strictness source)

include hloads

theorem gather_eq_ok : gather options disk.read = .ok (jobOf options strictness source) := by
  simp only [gather, hloads.config, hloads.source, jobOf]

theorem run_printed
    (h : (assemble strictness source).render options.format = "" ∨ options.output = none) :
    run options disk = ((jobOf options strictness source).reportPrinted, disk) := by
  have hnone : (jobOf options strictness source).output? = none := by
    rw [output?_jobOf]
    rcases h with h | h <;> simp [h]
  simp only [run, gather_eq_ok hloads, hnone]

variable {path : String} (hne : (assemble strictness source).render options.format ≠ "")
  (houtput : options.output = some path)

include hne houtput

theorem run_written {after : Disk}
    (h : disk.write path ((assemble strictness source).render options.format) = .ok after) :
    run options disk = ((jobOf options strictness source).reportWritten path, after) := by
  simp only [run, gather_eq_ok hloads, output?_jobOf, if_neg hne, houtput, Option.map_some, h]

theorem run_unwritten {error : Disk.Error}
    (h : disk.write path ((assemble strictness source).render options.format) = .error error) :
    run options disk = ((jobOf options strictness source).reportUnwritten path error, disk) := by
  simp only [run, gather_eq_ok hloads, output?_jobOf, if_neg hne, houtput, Option.map_some, h]

end Loaded

/-- **Every run takes one of the five courses.** -/
theorem course_run (options : Options) (disk : Disk) :
    Course options disk (run options disk).1 (run options disk).2 := by
  cases hconfig : loadStrictness options disk.read with
  | error failure =>
    simp only [run, gather, hconfig]
    exact .noConfig hconfig
  | ok strictness =>
    cases hsource : disk.read options.input with
    | error error =>
      simp only [run, gather, hconfig, hsource]
      exact .noSource hconfig hsource
    | ok source =>
      have hloads : Loads options disk strictness source := ⟨hconfig, hsource⟩
      by_cases hempty : (assemble strictness source).render options.format = ""
      · rw [run_printed hloads (.inl hempty)]
        exact .printed hloads (.inl hempty)
      cases houtput : options.output with
      | none =>
        rw [run_printed hloads (.inr houtput)]
        exact .printed hloads (.inr houtput)
      | some path =>
        cases hwrite : disk.write path ((assemble strictness source).render options.format) with
        | ok after =>
          rw [run_written hloads hempty houtput hwrite]
          exact .written hloads hempty houtput hwrite
        | error error =>
          rw [run_unwritten hloads hempty houtput hwrite]
          exact .unwritten hloads hempty houtput hwrite

/-! ## What a run leaves as it was -/

/-- Why the switches of a run cannot be loaded. -/
inductive ConfigFails (options : Options) (disk : Disk) : Failure → Prop where
  /-- The file with the switches cannot be read, or is no text. -/
  | reading {path : String} {error : Disk.Error} (hpath : options.config = some path)
      (h : disk.read path = .error error) : ConfigFails options disk (.readingConfig path error)
  /-- It does not hold switches. -/
  | parsing {path text : String} {problem : Json.Problem} (hpath : options.config = some path)
      (htext : disk.read path = .ok text) (h : Strictness.ofJson text.toList = .error problem) :
      ConfigFails options disk (.parsingConfig path problem)

theorem loadStrictness_eq_error_iff {options : Options} {disk : Disk} {failure : Failure} :
    loadStrictness options disk.read = .error failure ↔ ConfigFails options disk failure := by
  constructor
  · intro h
    unfold loadStrictness at h
    split at h
    · cases h
    rename_i path hpath
    split at h
    · rename_i error herror
      obtain rfl := Except.error.inj h
      exact .reading hpath herror
    rename_i text htext
    split at h
    · rename_i problem hproblem
      obtain rfl := Except.error.inj h
      exact .parsing hpath htext hproblem
    · cases h
  · rintro (⟨hpath, h⟩ | ⟨hpath, htext, h⟩)
    · simp only [loadStrictness, hpath, h]
    · simp only [loadStrictness, hpath, htext, h]

/-- The failure depends on nothing but the file with the switches. -/
theorem ConfigFails.of_read_eq {options : Options} {disk disk' : Disk} {failure : Failure}
    (h : ConfigFails options disk failure)
    (hread : ∀ path ∈ options.config, disk'.read path = disk.read path) :
    ConfigFails options disk' failure := by
  cases h with
  | reading hpath h =>
    refine .reading hpath ?_
    rw [hread _ hpath, h]
  | parsing hpath htext h =>
    refine .parsing hpath ?_ h
    rw [hread _ hpath, htext]

/-- A run stops with a failure: every file is as before, and nothing was said. -/
structure StopsWith (options : Options) (disk : Disk) (failure : Failure) : Prop where
  disk_eq : (run options disk).2 = disk
  stdout_eq : (run options disk).1.stdout = ""
  status_eq : (run options disk).1.status = ""
  failure_eq : (run options disk).1.failure = some failure

variable {options : Options} {disk : Disk}

theorem run_of_configFails {failure : Failure} (h : ConfigFails options disk failure) :
    run options disk = ({ failure := some failure }, disk) := by
  simp only [run, gather, loadStrictness_eq_error_iff.2 h]

theorem exists_config {options : Options} {disk : Disk}
    (h : ∀ failure, ¬ConfigFails options disk failure) :
    ∃ strictness, loadStrictness options disk.read = .ok strictness := by
  cases hconfig : loadStrictness options disk.read with
  | error failure => exact absurd (loadStrictness_eq_error_iff.1 hconfig) (h failure)
  | ok strictness => exact ⟨strictness, rfl⟩

theorem stopsWith_of_source {error : Disk.Error}
    (hconfig : ∀ failure, ¬ConfigFails options disk failure)
    (hsource : disk.read options.input = .error error) :
    StopsWith options disk (.readingSource options.input error) := by
  obtain ⟨strictness, hstrictness⟩ := exists_config hconfig
  constructor <;> simp only [run, gather, hstrictness, hsource]

section Course

variable {report : Report} {after : Disk} (h : Course options disk report after)

include h

theorem Course.workingDirectory_eq : after.workingDirectory = disk.workingDirectory := by
  cases h with
  | noConfig | noSource | printed | unwritten => rfl
  | written _ _ _ h => exact Disk.workingDirectory_write h

/-- Only one of the five courses changes an entry, and it changes one only. -/
theorem Course.of_entryAt_ne {location : Location}
    (hchanged : after.entryAt location ≠ disk.entryAt location) :
    ∃ path strictness source, options.output = some path ∧
      disk.target path = .ok location ∧ Loads options disk strictness source ∧
      (assemble strictness source).render options.format ≠ "" ∧
      after.entryAt location =
        some (.file ((assemble strictness source).render options.format).toUTF8) := by
  cases h with
  | noConfig | noSource | printed | unwritten => exact absurd rfl hchanged
  | written hloads hne houtput h =>
    rcases Disk.entryAt_write h location with hsame | ⟨htarget, hentry⟩
    · exact absurd hsame hchanged
    · exact ⟨_, _, _, houtput, htarget, hloads, hne, hentry⟩

end Course

/-- **A run touches nothing but its output.** It stays in its working directory. An entry of the
disk that has changed is the file that the run was told to write; it holds the whole rendering of
the source as the source was before. A run that cannot load its switches stops before it looks at
the source, and one that cannot read its source stops too. One that gets as far as writing has
written the whole rendering, or has failed to and changed nothing. -/
theorem run_touches_output_only (options : Options) (disk : Disk) :
    (run options disk).2.workingDirectory = disk.workingDirectory ∧
    (∀ location, (run options disk).2.entryAt location ≠ disk.entryAt location →
      ∃ path strictness source, options.output = some path ∧
        disk.target path = .ok location ∧ Loads options disk strictness source ∧
        (assemble strictness source).render options.format ≠ "" ∧
        (run options disk).2.entryAt location =
          some (.file ((assemble strictness source).render options.format).toUTF8)) ∧
    (∀ failure, ConfigFails options disk failure → StopsWith options disk failure ∧
      ∀ disk' : Disk, (∀ path ∈ options.config, disk'.read path = disk.read path) →
        (run options disk').1 = (run options disk).1) ∧
    (∀ error, (∀ failure, ¬ConfigFails options disk failure) →
      disk.read options.input = .error error →
      StopsWith options disk (.readingSource options.input error)) ∧
    ∀ strictness source path, Loads options disk strictness source →
      (assemble strictness source).render options.format ≠ "" → options.output = some path →
      match disk.write path ((assemble strictness source).render options.format) with
      | .ok _ =>
        (run options disk).2.read path = .ok ((assemble strictness source).render options.format)
      | .error error =>
        (run options disk).2 = disk ∧ (run options disk).1.stdout = "" ∧
          (run options disk).1.failure = some (.writing path error) := by
  refine ⟨(course_run options disk).workingDirectory_eq,
    fun location hchanged => (course_run options disk).of_entryAt_ne hchanged,
    fun failure hfailure => ⟨?_, fun disk' hread => ?_⟩, fun error => stopsWith_of_source,
    fun strictness source path hloads hne houtput => ?_⟩
  · constructor <;> rw [run_of_configFails hfailure]
  · rw [run_of_configFails hfailure, run_of_configFails (hfailure.of_read_eq hread)]
  · cases h : disk.write path ((assemble strictness source).render options.format) with
    | ok after =>
      rw [run_written hloads hne houtput h]
      exact Disk.read_write h
    | error error =>
      rw [run_unwritten hloads hne houtput h]
      exact ⟨rfl, rfl, rfl⟩

/-- A run that writes over its own source, which it reads by another path; and a run that finds
neither its switches nor its source. -/
theorem run_touches_output_only_source :
    (∃ disk : Disk, disk.workingDirectory = ["home".toList, "me".toList] ∧
      disk.read "../p.asm" = .ok "NOP" ∧
      (run { input := "../p.asm", output := some "/home/p.asm" } disk).2.read "/home/p.asm" =
        .ok ((assemble {} "NOP").render .text)) ∧
    StopsWith { input := "p.asm", config := some "/c.json" } {}
      (.readingConfig "/c.json" .notFound) := by
  constructor
  · let options : Options := { input := "../p.asm", output := some "/home/p.asm" }
    let empty : Disk := { workingDirectory := ["home".toList, "me".toList] }
    let disk : Disk := empty.put ["home".toList, "p.asm".toList] (.file "NOP".toUTF8)
    have hwritten : empty.write "../p.asm" "NOP" = .ok disk := by rfl
    have hread : disk.read "../p.asm" = .ok "NOP" := Disk.read_write hwritten
    have hne : (assemble {} "NOP").render .text ≠ "" := by decide
    exact ⟨disk, rfl, hread, (run_touches_output_only options disk).2.2.2.2 {} "NOP" "/home/p.asm"
      ⟨rfl, hread⟩ hne rfl⟩
  · exact ((run_touches_output_only _ _).2.2.1 _ (.reading rfl (by rfl))).1

end Midrange.Assembler
