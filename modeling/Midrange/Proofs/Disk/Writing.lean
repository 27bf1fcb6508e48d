import Mathlib.Tactic.SplitIfs
import Midrange.Disk
import Midrange.Proofs.Basic

/-!
# Writing a file

A write replaces or creates the file at one location and leaves every other entry of the disk as it
is, and the working directory too. The path that was written still leads to that location, so what
is read there is what was written.

* `Target disk path start location`: a write to a path goes to a location. `exists_target` reads it
  off `Disk.target`.
* `entryAt_put_self`, `entryAt_put_of_ne`: the disk with an entry put at a location.
* `follow_put`: a path that was followed before is followed to the same location.
* `read_write`, `entryAt_write`: the file that was written, and everything else.
-/

namespace Midrange.Disk

variable {disk : Disk} {path : String} {location : Location}

/-! ## Steps -/

theorem enter_eq_ok_iff {next : Location} {name : List Char} :
    disk.enter location name = .ok next ↔
      disk.entryAt location = some .directory ∧ child location name = next := by
  unfold enter
  split <;> simp_all

theorem follow_concat (start : Location) (names : List (List Char)) (name : List Char) :
    disk.follow start (names ++ [name]) =
      disk.follow start names >>= fun parent => disk.enter parent name := by
  simp only [follow, List.foldlM_append, List.foldlM_cons, List.foldlM_nil, bind_pure]

/-! ## Where a write goes -/

/-- A path leads to a location at which a file may be written: there is no directory there. -/
structure Target (disk : Disk) (path : String) (start location : Location) : Prop where
  start_eq : disk.start (Path.parse path) = .ok start
  follow_eq : disk.follow start (Path.parse path).names = .ok location
  not_slashed : (Path.parse path).slashed = false
  ne_directory : disk.entryAt location ≠ some .directory

/-- **Where a write goes.** -/
theorem exists_target (h : disk.target path = .ok location) :
    ∃ start, Target disk path start location := by
  obtain ⟨start, hstart, h⟩ := bind_eq_ok_iff.1 h
  split at h
  · cases h
  rename_i name hname
  obtain ⟨parent, hparent, h⟩ := bind_eq_ok_iff.1 h
  obtain ⟨found, hfound, h⟩ := bind_eq_ok_iff.1 h
  split_ifs at h with hlast
  split at h
  · cases h
  rename_i hentry
  obtain rfl : found = location := by simpa [pure, Except.pure] using h
  have hnames : (Path.parse path).names.dropLast ++ [name] = (Path.parse path).names :=
    List.dropLast_append_getLast? name hname
  refine ⟨start, hstart, ?_, by simpa using (not_or.1 hlast).1, hentry⟩
  rw [← hnames, follow_concat, hparent]
  exact hfound

/-! ## Entries after a write -/

theorem entryAt_put_self (h : disk.entryAt location ≠ some .directory) (entry : Entry) :
    (disk.put location entry).entryAt location = some entry := by
  have hnot : ¬location.isPrefixOf disk.workingDirectory = true := fun hprefix => h (if_pos hprefix)
  rw [entryAt, put, if_neg hnot, List.lookup_cons_self]

theorem entryAt_put_of_ne {other : Location} (h : other ≠ location) (entry : Entry) :
    (disk.put location entry).entryAt other = disk.entryAt other := by
  have hkey : (other == location) = false := beq_eq_false_iff_ne.2 h
  simp only [entryAt, put, List.lookup_cons, hkey, lookup_filter_ne h]

/-! ## Paths after a write -/

section Put

variable (hlocation : disk.entryAt location ≠ some .directory) (entry : Entry)

include hlocation

/-- What is left is a directory, and so it is not where the file was put. -/
theorem enter_put {above next : Location} {name : List Char}
    (h : disk.enter above name = .ok next) :
    (disk.put location entry).enter above name = .ok next := by
  rw [enter_eq_ok_iff] at h ⊢
  have hne : above ≠ location := by
    rintro rfl
    exact hlocation h.1
  rwa [entryAt_put_of_ne hne]

/-- **Names are followed as before** when a file is put where no directory was. -/
theorem follow_put {start last : Location} {names : List (List Char)}
    (h : disk.follow start names = .ok last) :
    (disk.put location entry).follow start names = .ok last := by
  induction names generalizing start with
  | nil => exact h
  | cons name rest ih =>
    obtain ⟨next, hnext, hrest⟩ := bind_eq_ok_iff.1 h
    exact bind_eq_ok_iff.2 ⟨next, enter_put hlocation entry hnext, ih hrest⟩

end Put

theorem Target.read_put {start : Location} (h : Target disk path start location) (text : String) :
    (disk.put location (.file text.toUTF8)).read path = .ok text := by
  have hstart : (disk.put location (.file text.toUTF8)).start (Path.parse path) = .ok start :=
    h.start_eq
  have hfollow := follow_put h.ne_directory (.file text.toUTF8) h.follow_eq
  have hdecode : String.fromUTF8? text.toUTF8 = some text :=
    dif_pos text.isValidUTF8
  simp only [read, hstart, hfollow, bind, Except.bind, entryAt_put_self h.ne_directory,
    h.not_slashed, hdecode]
  rfl

/-! ## Writes -/

theorem write_eq_ok_iff {text : String} {written : Disk} :
    disk.write path text = .ok written ↔
      ∃ location, disk.target path = .ok location ∧
        disk.put location (.file text.toUTF8) = written := by
  simp only [write, bind_eq_ok_iff, pure, Except.pure, Except.ok.injEq]

/-- **What was written is read back.** -/
theorem read_write {text : String} {written : Disk} (h : disk.write path text = .ok written) :
    written.read path = .ok text := by
  obtain ⟨location, htarget, rfl⟩ := write_eq_ok_iff.1 h
  obtain ⟨start, hpath⟩ := exists_target htarget
  exact hpath.read_put text

theorem workingDirectory_write {text : String} {written : Disk}
    (h : disk.write path text = .ok written) :
    written.workingDirectory = disk.workingDirectory := by
  obtain ⟨location, -, rfl⟩ := write_eq_ok_iff.1 h
  rfl

/-- **Nothing else changes**, and what stands at the target of the write is a file of the text. -/
theorem entryAt_write {text : String} {written : Disk} (h : disk.write path text = .ok written)
    (location : Location) : written.entryAt location = disk.entryAt location ∨
      disk.target path = .ok location ∧
        written.entryAt location = some (.file text.toUTF8) := by
  obtain ⟨target, htarget, rfl⟩ := write_eq_ok_iff.1 h
  obtain ⟨start, hpath⟩ := exists_target htarget
  by_cases hlocation : location = target
  · subst hlocation
    exact .inr ⟨htarget, entryAt_put_self hpath.ne_directory _⟩
  · exact .inl (entryAt_put_of_ne hlocation _)

end Midrange.Disk
