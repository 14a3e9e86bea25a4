import DocPages.Proofs.DirectoryMaking
import DocPages.Proofs.HostSteps

/-! Files that are written one after the other into a directory stand side by side there. The place
of each is its name below the place of the directory, so a later file takes the place of an earlier
one just if it has the same name, and no other place is touched. -/
namespace DocPages.FileWriting
open FileSystem Generation DirectoryMaking HostSteps

variable {fs before between after : FileSystem} {output : String} {home : Location}

/-! ## Names in a directory -/

/-- A name that leads one step down from a directory. -/
structure IsPlain (name : String) : Prop where
  said : name ≠ ""
  unslashed : '/' ∉ name.toList
  noDot : name ≠ "."
  noDots : name ≠ ".."

theorem IsPlain.toList_ne_nil (plain : IsPlain name) : name.toList ≠ [] :=
  fun vacant => plain.said (String.toList_eq_nil_iff.mp vacant)

/-- A plain name is put behind the directory, whatever that is. -/
theorem join_plain (plain : IsPlain name) (directory : String) : Path.join directory name =
    if directory = "" ∨ directory.toList.getLast? = some '/' then directory ++ name
    else directory ++ "/" ++ name := by
  have relative : name.toList.head? ≠ some '/' := fun first =>
    plain.unslashed (List.mem_of_head? first)
  rw [Path.join, if_neg relative]

/-- A plain name behind a slash is one more step. -/
theorem steps_behind_slash (plain : IsPlain name) (front : List Char) :
    (Path.ofText (.ofList (front ++ '/' :: name.toList))).steps =
      (Path.ofText (.ofList front)).steps ++ [name] := by
  simp [Path.ofText, Text.splitAll_append, Text.splitAll_of_unmarked plain.unslashed,
    plain.toList_ne_nil]

theorem steps_join (plain : IsPlain name) (directory : String) :
    (Path.ofText (Path.join directory name)).steps = (Path.ofText directory).steps ++ [name] := by
  have behind := steps_behind_slash plain
  by_cases here : directory = ""
  · subst here
    simp [join_plain plain, Path.ofText, Text.splitAll_of_unmarked plain.unslashed,
      plain.toList_ne_nil, Text.splitAll]
  by_cases slashed : directory.toList.getLast? = some '/'
  · obtain ⟨front, split⟩ := List.getLast?_eq_some_iff.mp slashed
    have same : directory = .ofList (front ++ ['/']) := by rw [← split, String.ofList_toList]
    have joined : Path.join directory name = .ofList (front ++ '/' :: name.toList) := by
      rw [join_plain plain, if_pos (.inr slashed), same]
      simp [← String.toList_inj]
    have bare : (Path.ofText directory).steps = (Path.ofText (.ofList front)).steps := by
      simp [same, Path.ofText, Text.splitAll_append, Text.splitAll]
    rw [joined, behind, bare]
  · have joined : Path.join directory name = .ofList (directory.toList ++ '/' :: name.toList) := by
      simp [join_plain plain, here, slashed, ← String.toList_inj]
    rw [joined, behind, String.ofList_toList]

theorem slashed_join (plain : IsPlain name) (directory : String) :
    (Path.ofText (Path.join directory name)).slashed = false := by
  have last : (Path.join directory name).toList.getLast? = name.toList.getLast? := by
    rw [join_plain plain]
    split <;> simp [List.getLast?_append, List.getLast?_cons,
      List.getLast?_eq_some_getLast plain.toList_ne_nil]
  have unslashed : name.toList.getLast? ≠ some '/' := fun slashed =>
    plain.unslashed (List.mem_of_getLast? slashed)
  simp [Path.ofText, last, unslashed]

theorem locate_join (plain : IsPlain name)
    (reached : fs.follow [] (Path.ofText output).steps = .ok home)
    (located : fs.locate (Path.join output name) = .ok place) : place = name :: home := by
  have whole := follow_of_locate located
  rw [steps_join plain, follow_append reached] at whole
  obtain ⟨_, _, here⟩ := follow_of_step whole
  simp only [stepped, plain.noDot, plain.noDots, if_false, follow, Except.ok.injEq] at here
  exact here.symm

/-- A file that is written stands under its name in the directory, where no directory was. -/
theorem write_join (plain : IsPlain name)
    (reached : fs.follow [] (Path.ofText output).steps = .ok home)
    (wrote : fs.write (Path.join output name) contents = .ok after) :
    fs.locate (Path.join output name) = .ok (name :: home) ∧
      fs.get? (name :: home) ≠ some .directory ∧
      after = fs.set (name :: home) (.file contents) := by
  unfold write at wrote
  split at wrote
  · contradiction
  · rename_i place located
    cases locate_join plain reached located
    split at wrote
    · contradiction
    · rename_i free
      cases wrote
      exact ⟨located, free, rfl⟩

theorem write_located (located : fs.locate path = .ok place)
    (free : fs.get? place ≠ some .directory) (contents : ByteArray) :
    fs.write path contents = .ok (fs.set place (.file contents)) := by
  simp only [write, located]

/-- A name that a file in the directory can have, as its path is not too long to be followed. -/
structure Fits (output name : String) : Prop where
  clean : '\x00' ∉ (Path.join output name).toList
  path : (Path.join output name).utf8ByteSize ≤ pathLimit
  name : name.utf8ByteSize ≤ nameLimit

theorem locate_fitting (plain : IsPlain name) (fits : Fits output name)
    (reached : fs.follow [] (Path.ofText output).steps = .ok home)
    (directory : fs.get? home = some .directory) :
    fs.locate (Path.join output name) = .ok (name :: home) := by
  have said : Path.join output name ≠ "" := by
    intro vacant
    have steps := steps_join plain output
    rw [vacant] at steps
    exact List.append_ne_nil_of_right_ne_nil _ (List.cons_ne_nil name []) steps.symm
  rw [locate, if_neg (by simpa using fits.clean), if_neg said, if_neg (Nat.not_lt.mpr fits.path),
    steps_join plain, follow_append reached, follow_cons directory,
    if_neg (Nat.not_lt.mpr fits.name)]
  simp only [stepped, plain.noDot, plain.noDots, if_false, follow]

/-! ## Writing in turn -/

/-- The files can be written one after the other, which leads from one file system to another. -/
inductive Written (output : String) : FileSystem → List Site.File → FileSystem → Prop
  | nothing (fs : FileSystem) : Written output fs [] fs
  | next {before between after : FileSystem} {file : Site.File} {later : List Site.File}
      (wrote : before.write (Path.join output file.name) file.contents.toUTF8 = .ok between)
      (rest : Written output between later after) : Written output before (file :: later) after

/-- Files are written one after the other until one cannot be. -/
theorem writeFiles_of_written (written : Written output fs files after) :
    (writeFiles output fs files).files = after ∧
      (writeFiles output fs files).result =
        .ok (files.map fun file => Path.join output file.name) := by
  induction written with
  | nothing fs => exact ⟨rfl, rfl⟩
  | next wrote _ ih =>
    rw [writeFiles_next wrote]
    exact ⟨ih.1, by simp [ih.2, Except.map]⟩

theorem writeFiles_of_stopped (written : Written output fs earlier between)
    (stopped : between.write (Path.join output file.name) file.contents.toUTF8 = .error cause)
    (later : List Site.File) :
    (writeFiles output fs (earlier ++ file :: later)).files = between ∧
      (writeFiles output fs (earlier ++ file :: later)).result =
        .error (.file (.write (Path.join output file.name)) cause) := by
  induction written with
  | nothing fs =>
    rw [List.nil_append, writeFiles_stopped stopped]
    exact ⟨rfl, rfl⟩
  | next wrote _ ih =>
    obtain ⟨files, result⟩ := ih stopped
    rw [List.cons_append, writeFiles_next wrote]
    exact ⟨files, by simp [result, Except.map]⟩

theorem written_or_stopped (output : String) (fs : FileSystem) (files : List Site.File) :
    (∃ after, Written output fs files after) ∨
      ∃ earlier file later between cause, files = earlier ++ file :: later ∧
        Written output fs earlier between ∧
        between.write (Path.join output file.name) file.contents.toUTF8 = .error cause := by
  induction files generalizing fs with
  | nil => exact .inl ⟨fs, .nothing fs⟩
  | cons file files ih =>
    cases wrote : fs.write (Path.join output file.name) file.contents.toUTF8 with
    | error cause => exact .inr ⟨[], file, files, fs, cause, rfl, .nothing fs, wrote⟩
    | ok next =>
      rcases ih next with
        ⟨after, rest⟩ | ⟨earlier, stop, later, between, cause, split, rest, stopped⟩
      · exact .inl ⟨after, .next wrote rest⟩
      · exact .inr ⟨file :: earlier, stop, later, between, cause, by rw [split]; rfl,
          .next wrote rest, stopped⟩

/-- In a directory without directories, files can be written under all names that fit. -/
theorem written_of_free (files : List Site.File)
    (plain : ∀ file ∈ files, IsPlain file.name) (fits : ∀ file ∈ files, Fits output file.name)
    (reached : fs.follow [] (Path.ofText output).steps = .ok home)
    (directory : fs.get? home = some .directory)
    (free : ∀ name, fs.get? (name :: home) ≠ some .directory) :
    ∃ after, Written output fs files after := by
  induction files generalizing fs with
  | nil => exact ⟨fs, .nothing fs⟩
  | cons file later ih =>
    have located := locate_fitting (plain file (by simp)) (fits file (by simp)) reached directory
    have new := get?_set_at (free file.name) (.file file.contents.toUTF8)
    have keeps := keepsDirectories_set (free file.name) (.file file.contents.toUTF8)
    have wrote : fs.write (Path.join output file.name) file.contents.toUTF8 =
        .ok (fs.set (file.name :: home) (.file file.contents.toUTF8)) :=
      write_located located (free file.name) _
    obtain ⟨after, rest⟩ := ih (fun file held => plain file (by simp [held]))
      (fun file held => fits file (by simp [held])) (follow_kept keeps _ reached)
      (keeps home directory) (by
        intro name
        rw [new]
        split
        · simp
        · exact free name)
    exact ⟨after, .next wrote rest⟩

/-- The last file with this name. -/
def lastNamed? (name : String) (files : List Site.File) : Option Site.File :=
  (files.filter (·.name = name)).getLast?

/-- What stands at a place when the files have been written into the directory at `home`. -/
def overwritten (fs : FileSystem) (home : Location) (files : List Site.File) (place : Location) :
    Option Entry :=
  match (files.filter fun file => file.name :: home = place).getLast? with
  | some file => some (.file file.contents.toUTF8)
  | none => fs.get? place

theorem overwritten_cons {file : Site.File}
    (free : fs.get? (file.name :: home) ≠ some .directory) (later : List Site.File)
    (place : Location) : overwritten fs home (file :: later) place =
      overwritten (fs.set (file.name :: home) (.file file.contents.toUTF8)) home later place := by
  unfold overwritten
  rw [get?_set_at free, List.filter_cons]
  by_cases here : file.name :: home = place
  · simp only [here, decide_true, if_true, List.getLast?_cons]
    cases (later.filter fun file => file.name :: home = place).getLast? <;> rfl
  · simp [here, Ne.symm here]

/-- Writing the files has the effect of putting each under its name, and each can be found there. -/
theorem written_effect (plain : ∀ file ∈ files, IsPlain file.name)
    (reached : fs.follow [] (Path.ofText output).steps = .ok home)
    (written : Written output fs files after) :
    KeepsDirectories fs after ∧ (∀ place, after.get? place = overwritten fs home files place) ∧
      ∀ file ∈ files, after.locate (Path.join output file.name) = .ok (file.name :: home) := by
  induction written with
  | nothing fs => exact ⟨fun _ held => held, fun _ => rfl, by simp⟩
  | @next before between after file later wrote rest ih =>
    obtain ⟨located, free, rfl⟩ := write_join (plain file (by simp)) reached wrote
    -- No file replaces a directory, so `home` is reached in the same way for the files to come.
    have keeps := keepsDirectories_set free (.file file.contents.toUTF8)
    obtain ⟨keepsLater, effect, found⟩ := ih (fun file held => plain file (by simp [held]))
      (follow_kept keeps _ reached)
    refine ⟨fun place held => keepsLater place (keeps place held), ?_, ?_⟩
    · intro place
      rw [effect, overwritten_cons free]
    · intro other held
      rcases List.mem_cons.mp held with rfl | held
      · exact locate_kept keepsLater (locate_kept keeps located)
      · exact found other held

theorem overwritten_named (fs : FileSystem) (home : Location) (files : List Site.File)
    (name : String) : overwritten fs home files (name :: home) =
      match lastNamed? name files with
      | some file => some (.file file.contents.toUTF8)
      | none => fs.get? (name :: home) := by
  simp [overwritten, lastNamed?]

/-- A place that no file is written to is left alone. -/
theorem overwritten_elsewhere (apart : ∀ file ∈ files, file.name :: home ≠ place) :
    overwritten fs home files place = fs.get? place := by
  have nothing : (files.filter fun file => file.name :: home = place) = [] := by
    simpa using apart
  simp [overwritten, nothing]

theorem lastNamed_of_mem {file : Site.File} (held : file ∈ files) :
    ∃ last, lastNamed? file.name files = some last := by
  have listed : file ∈ files.filter (·.name = file.name) := List.mem_filter.mpr ⟨held, by simp⟩
  exact ⟨_, List.getLast?_eq_some_getLast (List.ne_nil_of_mem listed)⟩

end DocPages.FileWriting
