import DocPages.Proofs.OutputPlaces
import DocPages.Proofs.RunOutcome

/-! A run that is repeated leaves the files as it found them. What the first run has made or written
is a directory or a file then, and neither stops the second one: a directory that is there need not
be made, and a file is replaced by what it was replaced by before. Where the first run stopped, the
second stops too. -/
namespace DocPages.RepeatedRuns
open FileSystem Generation HostSteps DirectoryMaking FileWriting SiteWriting RunOutcome
open OutputPlaces (IsChild isChild_of_located)

variable {fs before after final : FileSystem} {place home : Location} {output : String}
  {files : List Site.File}

/-! ## File systems -/

theorem set_root (free : fs.get? place ≠ some .directory) (entry : Entry) :
    (fs.set place entry).entries[([] : Location)]? = fs.entries[([] : Location)]? := by
  have below : place ≠ [] := by
    rintro rfl
    exact free (by simp [get?])
  have apart : compare place [] ≠ .eq := fun same => below (Std.LawfulEqOrd.eq_of_compare same)
  simp [FileSystem.set, Std.ExtTreeMap.getElem?_insert, apart]

/-- What stands at the root does not show, so it has to be the same for itself. -/
theorem eq_of_get (same : ∀ place, before.get? place = after.get? place)
    (root : before.entries[([] : Location)]? = after.entries[([] : Location)]?) :
    before = after := by
  have entries : before.entries = after.entries := by
    apply Std.ExtTreeMap.ext_getElem?
    intro place
    by_cases top : place = []
    · rw [top, root]
    · simpa [get?, top] using same place
  cases before
  cases after
  exact congrArg FileSystem.mk entries

def SameDirectories (before after : FileSystem) : Prop :=
  ∀ place, before.get? place = some .directory ↔ after.get? place = some .directory

theorem SameDirectories.set (same : SameDirectories before after)
    (free : before.get? place ≠ some .directory) (entry : Entry) :
    SameDirectories (before.set place entry) (after.set place entry) := by
  intro other
  have free' : after.get? place ≠ some .directory := (same place).not.mp free
  rw [get?_set_at free, get?_set_at free']
  split
  · rfl
  · exact same other

/-! ## Making directories again -/

/-- A step to a directory makes nothing. -/
theorem makeSteps_step (fits : step.utf8ByteSize ≤ nameLimit)
    (next : IsOpen fs (stepped place step)) (made : Bool) (later : List String) :
    fs.makeSteps place made (step :: later) = fs.makeSteps (stepped place step) made later := by
  by_cases dot : step = "."
  · simp [makeSteps, stepped, dot]
  by_cases dots : step = ".."
  · simp [makeSteps, stepped, dots]
  have entered : stepped place step = step :: place := by simp [stepped, dot, dots]
  rw [entered] at next ⊢
  rw [makeSteps, if_neg dot, if_neg dots, if_neg (Nat.not_lt.mpr fits), next.directory]

/-- Making directories goes on from where a step leads, whether there was one or one was made, or it
fails at the step and does so again. -/
theorem makeSteps_next (isOpen : IsOpen fs place) (made : Bool) (step : String)
    (later : List String) :
    (∃ next madeNext, step.utf8ByteSize ≤ nameLimit ∧ IsOpen next (stepped place step) ∧
      fs.makeSteps place made (step :: later) =
        next.makeSteps (stepped place step) madeNext later) ∨
    ∃ cause, fs.makeSteps place made (step :: later) = (fs, some cause) ∧
      FailsAgain fs place (step :: later) cause := by
  rcases makeSteps_cases isOpen made step later with
    ⟨fits, next, same⟩ | ⟨fits, entered, vacant, same⟩ | fails
  · exact .inl ⟨fs, made, fits, next, same⟩
  · refine .inl ⟨fs.set (step :: place) .directory, true, fits, ?_, ?_⟩ <;> rw [entered]
    · exact open_made isOpen vacant
    · exact same
  · exact .inr fails

/-- Where all directories have been made, none is made again. -/
theorem makeSteps_made (isOpen : IsOpen fs place)
    (done : fs.makeSteps place made steps = (after, none)) (keeps : KeepsDirectories after final) :
    final.makeSteps place false steps = (final, none) := by
  induction steps generalizing fs place made with
  | nil => rfl
  | cons step later ih =>
    rcases makeSteps_next isOpen made step later with
      ⟨next, madeNext, fits, nextOpen, same⟩ | ⟨cause, same, _⟩ <;> rw [same] at done
    · have kept := (makeSteps_effect nextOpen madeNext later).keeps
      rw [done] at kept
      rw [makeSteps_step fits ((nextOpen.kept kept).kept keeps)]
      exact ih nextOpen done
    · cases done

theorem makeSteps_failed (isOpen : IsOpen fs place)
    (failed : fs.makeSteps place made steps = (after, some cause)) :
    FailsAgain after place steps cause := by
  induction steps generalizing fs place made with
  | nil => cases failed
  | cons step later ih =>
    have keeps := (makeSteps_effect isOpen made (step :: later)).keeps
    rw [failed] at keeps
    rcases makeSteps_next isOpen made step later with
      ⟨next, madeNext, fits, nextOpen, same⟩ | ⟨cause, same, again⟩ <;> rw [same] at failed
    · have kept := (makeSteps_effect nextOpen madeNext later).keeps
      rw [failed] at kept
      have here := isOpen.kept keeps
      rw [FailsAgain, makeSteps_step fits (nextOpen.kept kept), follow_cons here.directory,
        if_neg (Nat.not_lt.mpr fits)]
      exact ih nextOpen failed
    · cases failed
      exact again

/-- A directory that was made is there. -/
theorem makeDirectories_made (done : before.makeDirectories output = (after, none))
    (keeps : KeepsDirectories after final) : final.makeDirectories output = (final, none) := by
  unfold makeDirectories at done ⊢
  split at done
  · cases done
  · rename_i clean
    split at done
    · cases done
    · rename_i fits
      rw [if_neg clean, if_neg fits]
      exact makeSteps_made (root_open before) done keeps

theorem makeDirectories_failed (failed : before.makeDirectories output = (after, some cause)) :
    after.makeDirectories output = (after, some cause) ∨
      cause = .fileExists ∧ after.makeDirectories output = (after, some .notDirectory) ∧
        after.locate output = .error .notDirectory ∧ after ≠ before := by
  by_cases same : after = before
  · exact .inl (same ▸ failed)
  unfold makeDirectories at failed ⊢
  split at failed
  · cases failed
    contradiction
  · rename_i clean
    split at failed
    · cases failed
      contradiction
    · rename_i fits
      have said : output ≠ "" := by
        rintro rfl
        have noSteps : (Path.ofText "").steps = [] := rfl
        rw [noSteps] at failed
        cases failed
      rw [if_neg clean, if_neg fits, locate, if_neg clean, if_neg said, if_neg fits]
      rcases makeSteps_failed (root_open before) failed with again | ⟨file, again, blocked⟩
      · exact .inl again
      · exact .inr ⟨file, again, blocked, same⟩

/-! ## Writing files again -/

theorem written_root (written : Written output before files after) :
    after.entries[([] : Location)]? = before.entries[([] : Location)]? := by
  induction written with
  | nothing fs => rfl
  | @next before between after file later wrote rest ih =>
    rw [ih]
    unfold write at wrote
    split at wrote
    · cases wrote
    · split at wrote
      · cases wrote
      · rename_i free
        cases wrote
        exact set_root free _

/-- Files are no directories, and none takes the place of one. -/
theorem written_sameDirectories (plain : ∀ file ∈ files, IsPlain file.name)
    (reached : before.follow [] (Path.ofText output).steps = .ok home)
    (written : Written output before files after) : SameDirectories before after := by
  obtain ⟨keeps, effect, _⟩ := written_effect plain reached written
  intro place
  refine ⟨keeps place, fun directory => ?_⟩
  rw [effect, overwritten] at directory
  split at directory
  · cases directory
  · exact directory

/-- Files that can be written can be written wherever the same places are directories. -/
theorem written_elsewhere (plain : ∀ file ∈ files, IsPlain file.name)
    (reached : before.follow [] (Path.ofText output).steps = .ok home)
    (written : Written output before files after) (same : SameDirectories before other) :
    ∃ final, Written output other files final := by
  induction written generalizing other with
  | nothing fs => exact ⟨other, .nothing other⟩
  | @next before between after file later wrote rest ih =>
    obtain ⟨located, free, rfl⟩ := write_join (plain file (by simp)) reached wrote
    have there := locate_kept (fun place => (same place).mp) located
    have reachedNext := follow_kept
      (keepsDirectories_set free (.file file.contents.toUTF8)) _ reached
    obtain ⟨final, written⟩ := ih (fun file held => plain file (by simp [held])) reachedNext
      (same.set free (.file file.contents.toUTF8))
    exact ⟨final, .next (write_located there ((same _).not.mp free) _) written⟩

/-- Files that have been written are written again without any effect. -/
theorem written_again (plain : ∀ file ∈ files, IsPlain file.name)
    (reached : before.follow [] (Path.ofText output).steps = .ok home)
    (written : Written output before files after) : Written output after files after := by
  have same := written_sameDirectories plain reached written
  obtain ⟨final, again⟩ := written_elsewhere plain reached written same
  have reachedAfter := follow_kept (fun place => (same place).mp) _ reached
  obtain ⟨_, first, _⟩ := written_effect plain reached written
  obtain ⟨_, second, _⟩ := written_effect plain reachedAfter again
  have final_eq : final = after := by
    refine eq_of_get (fun place => ?_) (written_root again)
    -- A place that is written holds the last file both times, and any other is left alone.
    rw [second, overwritten]
    split
    · rename_i file found
      rw [first, overwritten, found]
    · rfl
  exact final_eq ▸ again

/-- Writing files comes to the same when it is done again, whether or not all can be written. -/
theorem writeFiles_again (plain : ∀ file ∈ files, IsPlain file.name)
    (reached : before.follow [] (Path.ofText output).steps = .ok home) :
    ∃ final, (writeFiles output before files).files = final ∧ KeepsDirectories before final ∧
      (writeFiles output final files).files = final ∧
      (writeFiles output final files).result = (writeFiles output before files).result := by
  rcases written_or_stopped output before files with
    ⟨final, written⟩ | ⟨earlier, file, later, between, cause, split, written, stopped⟩
  · obtain ⟨wrote, done⟩ := writeFiles_of_written written
    obtain ⟨wroteAgain, doneAgain⟩ := writeFiles_of_written (written_again plain reached written)
    exact ⟨final, wrote, (written_effect plain reached written).1, wroteAgain,
      doneAgain.trans done.symm⟩
  · have first : earlier ⊆ files := split ▸ List.subset_append_left _ _
    have plainFirst : ∀ file ∈ earlier, IsPlain file.name := fun file held => plain file (first held)
    obtain ⟨wrote, done⟩ := writeFiles_of_stopped written stopped later
    -- The file that stopped it is met with the same files around it.
    obtain ⟨wroteAgain, doneAgain⟩ :=
      writeFiles_of_stopped (written_again plainFirst reached written) stopped later
    rw [split]
    exact ⟨between, wrote, (written_effect plainFirst reached written).1, wroteAgain,
      doneAgain.trans done.symm⟩

/-- A site is written again with the same outcome, except that a file in the way of its directory
may be found for another cause. -/
theorem writeSite_again {site : Site} (plain : ∀ file ∈ site.files, IsPlain file.name)
    (fs : FileSystem) (output : String) :
    let first := writeSite output fs site
    let again := writeSite output first.files site
    again.files = first.files ∧ (again.result = first.result ∨
      (first.result = .error (.file (.makeDirectory output) .fileExists) ∧
        again.result = .error (.file (.makeDirectory output) .notDirectory) ∧
        first.files.locate output = .error .notDirectory ∧ first.files ≠ fs)) := by
  intro first again
  cases made : fs.makeDirectories output with
  | mk prepared stop =>
    cases stop with
    | none =>
      obtain ⟨reached, _⟩ := makeDirectories_followed made
      obtain ⟨final, wrote, keeps, wroteAgain, doneAgain⟩ := writeFiles_again plain reached
      have done := writeSite_made made site
      have left : first.files = final := (congrArg Outcome.files done).trans wrote
      simp only [again, left]
      rw [writeSite_made (makeDirectories_made made keeps)]
      exact ⟨wroteAgain, .inl (doneAgain.trans (congrArg Outcome.result done).symm)⟩
    | some cause =>
      have stopped := writeSite_unmade made site
      have left : first.files = prepared := congrArg Outcome.files stopped
      have ended := congrArg Outcome.result stopped
      simp only [again, left]
      rcases makeDirectories_failed made with same | ⟨rfl, other, blocked, changed⟩
      · rw [writeSite_unmade same]
        exact ⟨rfl, .inl ended.symm⟩
      · rw [writeSite_unmade other]
        exact ⟨rfl, .inr ⟨ended, rfl, blocked, changed⟩⟩

/-! ## Running again -/

/-- The run writes a file to this path: its document has been read, the directory made, and the
files up to this one could be written. -/
def WritesTo (fs : FileSystem) (input output : String) (options : Options) (path : String) : Prop :=
  ∃ records files prepared after, Documents fs input records ∧
    files <+: (Site.ofCatalogue (Catalogue.ofRecords records) options).files ∧
    fs.makeDirectories output = (prepared, none) ∧ Written output prepared files after ∧
    path ∈ files.map fun file => Path.join output file.name

/-- No path to which the run writes is that of its input. -/
def SparesInput (fs : FileSystem) (input output : String) (options : Options) : Prop :=
  ∀ path place, WritesTo fs input output options path → fs.locate input = .ok place →
    (run fs input output options).files.locate path ≠ .ok place

theorem located_of_find (found : fs.find path = .ok (.file contents)) :
    ∃ place, fs.locate path = .ok place ∧ fs.get? place = some (.file contents) ∧
      (Path.ofText path).slashed = false := by
  unfold find at found
  split at found
  · cases found
  · rename_i place located
    split at found
    · cases found
    · rename_i there
      split at found
      · cases found
      · rename_i unslashed
        cases found
        exact ⟨place, located, there, by simpa using unslashed⟩
    · cases found

/-- What a run finds at its input does not change by what it writes. -/
theorem spared_unchanged (spared : SparesInput fs input output options)
    (finds : Finds fs input (.ok records)) (read : Documents fs input records)
    (located : fs.locate input = .ok place) (there : fs.get? place = some (.file contents)) :
    KeepsDirectories fs (run fs input output options).files ∧
      (run fs input output options).files.get? place = fs.get? place := by
  let site := Site.ofCatalogue (Catalogue.ofRecords records) options
  have wrote : (run fs input output options).files = (writeSite output fs site).files :=
    (run_of_records finds output options).1
  have kept := makeDirectories_effect fs output
  rcases writeSite_reaches output fs site with
    ⟨cause, unmade⟩ | ⟨prepared, files, made, first, written⟩
  · rw [unmade, ← wrote] at kept
    rcases kept place with same | ⟨vacant, _⟩
    · exact ⟨kept.keeps, same⟩
    · cases there.symm.trans vacant
  · rw [← wrote] at written
    have plain : ∀ file ∈ files, IsPlain file.name := fun file held =>
      site_plain _ options file (first.subset held)
    obtain ⟨reached, _⟩ := makeDirectories_followed made
    rw [made] at kept
    have keeps := (written_effect plain reached written).1
    refine ⟨fun other held => keeps other (kept.keeps other held), ?_⟩
    rcases (effect_of_written plain made written).unchanged place with
      same | ⟨file, held, itself⟩ | ⟨vacant, _⟩
    · exact same
    · have writes : WritesTo fs input output options (Path.join output file.name) :=
        ⟨records, files, prepared, _, read, first, made, written, List.mem_map_of_mem held⟩
      exact absurd itself (spared _ place writes located)
    · cases there.symm.trans vacant

/-- A document that a run has read is still there when it has ended. -/
theorem documents_again (spared : SparesInput fs input output options)
    (finds : Finds fs input (.ok records)) (read : Documents fs input records) :
    Documents (run fs input output options).files input records := by
  obtain ⟨text, holds, parsed⟩ := read
  obtain ⟨place, located, there, unslashed⟩ := located_of_find holds
  obtain ⟨keeps, same⟩ := spared_unchanged spared finds ⟨text, holds, parsed⟩ located there
  exact ⟨text, find_file (locate_kept keeps located) (same.trans there) unslashed, parsed⟩

/-- A run that is repeated finds what it has left and leaves it as it is, and it ends in the same
way, provided that it does not write over its own input. Only where it could not make its directory
because of a file behind directories that it had to make first, it finds that file in its way at
once and fails for the other cause that the system gives for this. -/
theorem runs_repeat_themselves (fs : FileSystem) (input output : String) (options : Options)
    (spared : SparesInput fs input output options) :
    let first := run fs input output options
    let again := run first.files input output options
    again.files = first.files ∧ (again.result = first.result ∨
      (first.result = .error (.file (.makeDirectory output) .fileExists) ∧
        again.result = .error (.file (.makeDirectory output) .notDirectory) ∧
        first.files.locate output = .error .notDirectory ∧ first.files ≠ fs)) := by
  intro first again
  obtain ⟨found, finds⟩ := finds_something fs input
  cases found with
  | error failure =>
    have left : first.files = fs := (run_of_failure finds output options).1
    simp only [again, left]
    exact ⟨left, .inl rfl⟩
  | ok records =>
    have findsAgain : Finds first.files input (.ok records) := by
      cases finds with
      | documented read useful =>
        exact .documented (documents_again spared (.documented read useful) read) useful
    let site := Site.ofCatalogue (Catalogue.ofRecords records) options
    have plain : ∀ file ∈ site.files, IsPlain file.name := site_plain _ options
    obtain ⟨files, result⟩ := run_of_records finds output options
    obtain ⟨filesAgain, resultAgain⟩ := run_of_records findsAgain output options
    have left : first.files = (writeSite output fs site).files := files
    rw [left] at filesAgain resultAgain
    obtain ⟨same, repeats⟩ := writeSite_again plain fs output
    simp only [again, left]
    refine ⟨filesAgain.trans same, ?_⟩
    rcases repeats with ends | ⟨stopped, stoppedAgain, blocked, changed⟩
    · exact .inl (resultAgain.trans ((congrArg (Except.map _) ends).trans result.symm))
    · exact .inr ⟨result.trans (congrArg (Except.map _) stopped),
        resultAgain.trans (congrArg (Except.map _) stoppedAgain), blocked, changed⟩

/-- A document, and a file that an output path leads behind. -/
def blockedFiles : FileSystem :=
  (empty.set ["in.xml"] (.file indexDocument.toUTF8)).set ["f"] (.file ByteArray.empty)

theorem file_in_the_way_is_found_otherwise :
    let first := run blockedFiles "in.xml" "n/../f/x" {}
    let again := run first.files "in.xml" "n/../f/x" {}
    SparesInput blockedFiles "in.xml" "n/../f/x" {} ∧
      first.result = .error (.file (.makeDirectory "n/../f/x") .fileExists) ∧
      again.result = .error (.file (.makeDirectory "n/../f/x") .notDirectory) ∧
      again.result ≠ first.result := by
  intro first again
  have failed : first.result = .error (.file (.makeDirectory "n/../f/x") .fileExists) := by
    decide +kernel
  have failedAgain : again.result = .error (.file (.makeDirectory "n/../f/x") .notDirectory) := by
    decide +kernel
  refine ⟨?_, failed, failedAgain, ?_⟩
  · rintro path place ⟨_, _, _, _, _, _, made, _⟩
    have unmade : (blockedFiles.makeDirectories "n/../f/x").2 = some .fileExists := by decide +kernel
    rw [made] at unmade
    cases unmade
  · rw [failed, failedAgain]
    simp

/-- A document, and a directory with the name of the stylesheet where the site goes. -/
def halfOpenFiles : FileSystem :=
  (((empty.set ["in.xml"] (.file indexDocument.toUTF8)).set ["out"] .directory).set
    ["style.css", "out"] .directory)

theorem half_written_site_repeats_itself :
    let first := run halfOpenFiles "in.xml" "out" {}
    let again := run first.files "in.xml" "out" {}
    first.result = .error (.file (.write "out/style.css") .isDirectory) ∧
      SparesInput halfOpenFiles "in.xml" "out" {} ∧
      again.files = first.files ∧ again.result = first.result := by
  intro first again
  have stopped : first.result = .error (.file (.write "out/style.css") .isDirectory) := by
    decide +kernel
  have spared : SparesInput halfOpenFiles "in.xml" "out" {} := by
    rintro path place ⟨records, files, prepared, after, _, first, _, _, named⟩ located there
    obtain ⟨file, held, rfl⟩ := List.mem_map.mp named
    have input : halfOpenFiles.locate "in.xml" = .ok ["in.xml"] := by decide +kernel
    cases input.symm.trans located
    -- A file of the site stands below the directory, and the document does not.
    obtain ⟨home, reached, child⟩ :=
      isChild_of_located (site_plain _ _ file (first.subset held)) there
    have steps : (Path.ofText "out").steps = ["out"] := by decide +kernel
    rw [steps, (List.cons.inj child).2.symm] at reached
    cases (follow_of_step reached).2.2
  obtain ⟨files, ends⟩ := runs_repeat_themselves halfOpenFiles "in.xml" "out" {} spared
  refine ⟨stopped, spared, files, ?_⟩
  rcases ends with same | ⟨failed, _⟩
  · exact same
  · cases stopped.symm.trans failed

end DocPages.RepeatedRuns
