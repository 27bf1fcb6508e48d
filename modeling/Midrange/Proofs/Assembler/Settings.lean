import Midrange.Proofs.Assembler.Course
import Midrange.Proofs.Json.Layout
import Midrange.Proofs.Strictness.Settings

/-!
# Runs with a settings file

The settings file is read first, and it decides nothing but the switches. When both switches are
turned on anyway, a file that can be read leaves no trace in the run; a file that cannot be read
ends the run all the same.

* `run_eq_of_loadStrictness`: a run depends on its settings file through the switches only.
* `ConfigFails.of_config_eq`: why the file cannot be read does not depend on the other options.
* `settings_decide_switches`: what every settings file gives, and what it does to a run.
-/

namespace Midrange.Assembler

/-- **A run depends on its settings file through the switches only.** -/
theorem run_eq_of_loadStrictness (options : Options) {disk : Disk} {strict : Bool}
    {config : Option String}
    (h : loadStrictness { options with strict, config } disk.read =
      loadStrictness options disk.read) :
    run { options with strict, config } disk = run options disk := by
  cases hload : loadStrictness options disk.read with
  | error failure => simp only [run, gather, h, hload]
  | ok strictness =>
    cases hsource : disk.read options.input with
    | error error => simp only [run, gather, h, hload, hsource]
    | ok source =>
      -- The two jobs differ in what was asked for, but not in the output or the format.
      simp only [run, gather, h, hload, hsource]
      rfl

variable {options : Options} {disk : Disk}

theorem ConfigFails.of_config_eq {options' : Options} {failure : Failure}
    (h : ConfigFails options disk failure) (hconfig : options'.config = options.config) :
    ConfigFails options' disk failure := by
  cases h with
  | reading hpath h => exact .reading (hconfig.trans hpath) h
  | parsing hpath htext h => exact .parsing (hconfig.trans hpath) htext h

/-- With both switches on, a file that gives switches gives nothing new. -/
theorem loadStrictness_strict {path text : String} {strictness : Strictness}
    (hstrict : options.strict = true) (hconfig : options.config = some path)
    (htext : disk.read path = .ok text) (h : Strictness.ofJson text.toList = .ok strictness) :
    loadStrictness options disk.read = .ok .full := by
  simp [loadStrictness, hstrict, hconfig, htext, h]

/-- **Settings files.** Whatever else an object holds, wherever its members stand and however it is
written, a switch is what the object gives, and off if the object does not give it; so only the
members of the switches count. With both switches on, a run with such a file is the run without it.
A run with a file that cannot be read, or that does not hold switches, fails with the same failure
whether the switches are turned on or not. -/
theorem settings_decide_switches :
    (∀ given members text, Strictness.IsSettings given members text →
      Strictness.ofJson text =
        .ok ⟨given.literals.getD false, given.destination.getD false⟩ ∧
      ∀ members' text', Strictness.IsObject members' text' →
        (members'.filter Strictness.isSwitch).Perm (members.filter Strictness.isSwitch) →
        Strictness.ofJson text' = Strictness.ofJson text) ∧
    ∀ (options : Options) (disk : Disk) (path : String),
      (∀ given members text, disk.read path = .ok text →
        Strictness.IsSettings given members text.toList →
        run { options with strict := true, config := some path } disk =
          run { options with strict := true, config := none } disk) ∧
      ∀ failure, ConfigFails { options with config := some path } disk failure → ∀ strict,
        run { options with strict, config := some path } disk =
          ({ failure := some failure }, disk) := by
  refine ⟨fun given members text h => ⟨Strictness.ofJson_eq h, fun members' text' h' hperm => ?_⟩,
    fun options disk path => ⟨fun given members text htext h => ?_, fun failure h strict => ?_⟩⟩
  · rw [Strictness.ofJson_eq h, Strictness.ofJson_eq (h.of_perm h' hperm)]
  · have hfile : loadStrictness { options with strict := true, config := some path } disk.read =
        .ok .full :=
      loadStrictness_strict rfl rfl htext (Strictness.ofJson_eq h)
    exact run_eq_of_loadStrictness { options with strict := true, config := none } hfile
  · exact run_of_configFails (h.of_config_eq rfl)

open Json in
/-- A file with an escape in the name of a switch, and with a member that holds an object of its
own; and a run whose file is missing. Neither path stays in the working directory. -/
theorem settings_decide_switches_escaped :
    Strictness.ofJson "\x7b\"x\":[\x7b\x7d], \"strict\\u005fliterals\" : true\x7d\n".toList =
      .ok { literals := true } ∧
    ∃ disk : Disk, disk.workingDirectory = ["home".toList] ∧ disk.read "p.asm" = .ok "NOP" ∧
      run { input := "p.asm", strict := true, config := some "/etc/c.json" } disk =
        run { input := "p.asm", strict := true } disk ∧
      ∀ strict, run { input := "p.asm", strict, config := some "../etc/d.json" } disk =
        ({ failure := some (.readingConfig "../etc/d.json" .notFound) }, disk) := by
  let text := "\x7b\"x\":[\x7b\x7d], \"strict\\u005fliterals\" : true\x7d\n"
  have hblank : Spaces [' '] := by simp [Spaces, isSpace]
  have hnewline : Spaces ['\n'] := by simp [Spaces, isSpace]
  have hname : Characters (units Strictness.literalsName) "strict\\u005fliterals".toList :=
    characters_flatMap_append "strict".toList
      (.hex ⟨by simp, List.all_eq_true.1 (by decide), by decide⟩
        (characters_flatMap "literals".toList))
  have hswitch := Writes.lastMember hblank hname hblank (.element hblank .trueWord spaces_nil)
  have hitem := Writes.lastItem (.element spaces_nil (.emptyObject spaces_nil) spaces_nil)
  have hmembers := Writes.member spaces_nil (characters_flatMap ['x']) spaces_nil
    (.element spaces_nil (.array hitem) spaces_nil) hswitch
  have hsettings : Strictness.IsSettings { literals := some true }
      [(units ['x'], .array [.object []]), (units Strictness.literalsName, .boolean true)]
      text.toList := by
    refine ⟨⟨?_, ?_⟩, ?_, ?_⟩
    · rw [IsText]
      convert Writes.element spaces_nil (.object hmembers) hnewline using 1
      decide
    · simp
    · rfl
    · rfl
  let source : Disk :=
    { entries := [(["etc".toList], .directory),
        (["home".toList, "p.asm".toList], .file "NOP".toUTF8)]
      workingDirectory := ["home".toList] }
  let disk : Disk := source.put ["etc".toList, "c.json".toList] (.file text.toUTF8)
  have hwritten : source.write "/etc/c.json" text = .ok disk := by rfl
  have hfails : ConfigFails { input := "p.asm", config := some "../etc/d.json" } disk
      (.readingConfig "../etc/d.json" .notFound) := .reading rfl (by rfl)
  refine ⟨(settings_decide_switches.1 _ _ _ hsettings).1, disk, rfl, by rfl, ?_, fun strict => ?_⟩
  · exact (settings_decide_switches.2 { input := "p.asm" } disk "/etc/c.json").1 _ _ text
      (Disk.read_write hwritten) hsettings
  · exact (settings_decide_switches.2 { input := "p.asm" } disk "../etc/d.json").2 _ hfails strict

end Midrange.Assembler
