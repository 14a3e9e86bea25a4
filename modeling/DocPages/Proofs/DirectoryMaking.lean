import DocPages.FileSystem

/-! Making directories along a path changes nothing but vacant places on the way, and afterwards the
path can be followed to its end. Since a path may turn back at any step, the proofs keep more than
the place that was reached: everything around it is a directory too. -/
namespace DocPages.DirectoryMaking
open FileSystem

variable {fs before after : FileSystem} {place found : Location}

/-! ## Following a path -/

/-- Where a step leads, whatever stands there. -/
def stepped (place : Location) (step : String) : Location :=
  if step = "." then place else if step = ".." then place.tail else step :: place

def lead (place : Location) (steps : List String) : Location :=
  steps.foldl stepped place

/-- Whether the place is passed when the steps are taken, the end included. -/
def OnTheWay (place : Location) (steps : List String) (passed : Location) : Prop :=
  ∃ earlier, earlier <+: steps ∧ lead place earlier = passed

theorem OnTheWay.after_step {later : List String}
    (passed : OnTheWay (stepped place step) later other) : OnTheWay place (step :: later) other := by
  obtain ⟨earlier, first, led⟩ := passed
  exact ⟨step :: earlier, List.cons_prefix_cons.mpr ⟨rfl, first⟩, led⟩

theorem onTheWay_next (place : Location) (step : String) (later : List String) :
    OnTheWay place (step :: later) (stepped place step) :=
  ⟨[step], List.cons_prefix_cons.mpr ⟨rfl, List.nil_prefix⟩, rfl⟩

/-- Every directory of one file system is a directory in the other. -/
def KeepsDirectories (before after : FileSystem) : Prop :=
  ∀ place, before.get? place = some .directory → after.get? place = some .directory

/-- The place and everything around it are directories. -/
def IsOpen (fs : FileSystem) (place : Location) : Prop :=
  ∀ around, around <:+ place → fs.get? around = some .directory

theorem root_open (fs : FileSystem) : IsOpen fs [] := by
  intro around outside
  simp [List.suffix_nil.mp outside, get?]

theorem IsOpen.directory (isOpen : IsOpen fs place) : fs.get? place = some .directory :=
  isOpen place List.suffix_rfl

theorem IsOpen.tail (isOpen : IsOpen fs place) : IsOpen fs place.tail :=
  fun around outside => isOpen around (outside.trans (List.tail_suffix place))

theorem IsOpen.enter (isOpen : IsOpen fs place)
    (inside : fs.get? (step :: place) = some .directory) : IsOpen fs (step :: place) := by
  intro around outside
  rcases List.suffix_cons_iff.mp outside with rfl | outside
  · exact inside
  · exact isOpen around outside

theorem IsOpen.kept (isOpen : IsOpen before place) (keeps : KeepsDirectories before after) :
    IsOpen after place :=
  fun around outside => keeps around (isOpen around outside)

/-- Setting an entry has its usual effect at any place but a directory's. -/
theorem get?_set_at (free : fs.get? place ≠ some .directory) (entry : Entry) (other : Location) :
    (fs.set place entry).get? other = if other = place then some entry else fs.get? other := by
  apply get?_set
  rintro rfl
  exact free (by simp [get?])

theorem keepsDirectories_set (free : fs.get? place ≠ some .directory) (entry : Entry) :
    KeepsDirectories fs (fs.set place entry) := by
  intro other directory
  have apart : other ≠ place := by
    rintro rfl
    exact free directory
  rw [get?_set_at free, if_neg apart, directory]

/-- What following a path does at a directory. -/
theorem follow_cons (directory : fs.get? place = some .directory) (step : String)
    (later : List String) : fs.follow place (step :: later) =
      if nameLimit < step.utf8ByteSize then .error .nameTooLong
      else fs.follow (stepped place step) later := by
  rw [follow, directory]
  by_cases dot : step = "."
  · subst dot
    rfl
  · by_cases dots : step = ".."
    · subst dots
      rfl
    · simp [stepped, dot, dots]

/-- A step that was taken began at a directory, and the way goes on from where it leads. -/
theorem follow_of_step (reached : fs.follow place (step :: later) = .ok found) :
    fs.get? place = some .directory ∧ step.utf8ByteSize ≤ nameLimit ∧
      fs.follow (stepped place step) later = .ok found := by
  have directory : fs.get? place = some .directory := by
    rw [follow] at reached
    split at reached
    · contradiction
    · contradiction
    · assumption
  rw [follow_cons directory] at reached
  split at reached
  · contradiction
  · rename_i fits
    exact ⟨directory, Nat.le_of_not_lt fits, reached⟩

theorem follow_append (reached : fs.follow place earlier = .ok found) (later : List String) :
    fs.follow place (earlier ++ later) = fs.follow found later := by
  induction earlier generalizing place with
  | nil =>
    cases reached
    rfl
  | cons step earlier ih =>
    obtain ⟨directory, fits, rest⟩ := follow_of_step reached
    rw [List.cons_append, follow_cons directory, if_neg (Nat.not_lt.mpr fits)]
    exact ih rest

/-- A path that can be followed leads to the same place when no directory is lost. -/
theorem follow_kept (keeps : KeepsDirectories before after) (steps : List String)
    (reached : before.follow place steps = .ok found) : after.follow place steps = .ok found := by
  induction steps generalizing place with
  | nil => exact reached
  | cons step later ih =>
    obtain ⟨directory, fits, rest⟩ := follow_of_step reached
    rw [follow_cons (keeps place directory), if_neg (Nat.not_lt.mpr fits)]
    exact ih rest

theorem follow_of_locate (located : fs.locate path = .ok place) :
    fs.follow [] (Path.ofText path).steps = .ok place := by
  unfold locate at located
  repeat' split at located
  · contradiction
  · contradiction
  · contradiction
  · exact located

theorem locate_kept (keeps : KeepsDirectories before after)
    (located : before.locate path = .ok place) : after.locate path = .ok place := by
  have same : after.follow [] (Path.ofText path).steps =
      before.follow [] (Path.ofText path).steps := by
    rw [follow_of_locate located, follow_kept keeps _ (follow_of_locate located)]
  rw [locate, same]
  exact located

/-! ## Making directories -/

/-- Making directories fails again where it has failed, and for the same cause, unless directories
were made before a file was in the way: then the path is found to go on behind a file. -/
def FailsAgain (fs : FileSystem) (place : Location) (steps : List String) (cause : Cause) : Prop :=
  fs.makeSteps place false steps = (fs, some cause) ∨
    cause = .fileExists ∧ fs.makeSteps place false steps = (fs, some .notDirectory) ∧
      fs.follow place steps = .error .notDirectory

/-- What making directories does at a file in its way. -/
theorem makeSteps_at_file (isOpen : IsOpen fs place) (dot : step ≠ ".") (dots : step ≠ "..")
    (fits : step.utf8ByteSize ≤ nameLimit) (there : fs.get? (step :: place) = some (.file contents))
    (made : Bool) (later : List String) :
    ∃ cause, fs.makeSteps place made (step :: later) = (fs, some cause) ∧
      FailsAgain fs place (step :: later) cause := by
  have stops (made : Bool) : fs.makeSteps place made (step :: later) = (fs, some
      (if later.isEmpty || made && !(!later.isEmpty && later.all (· == ".")) then .fileExists
        else .notDirectory)) := by
    rw [makeSteps, if_neg dot, if_neg dots, if_neg (Nat.not_lt.mpr fits), there]
  refine ⟨_, stops made, ?_⟩
  rw [FailsAgain, stops false, follow_cons isOpen.directory, if_neg (Nat.not_lt.mpr fits)]
  cases later with
  | nil => exact .inl rfl
  | cons next later =>
    have entered : stepped place step = step :: place := by simp [stepped, dot, dots]
    have blocked : fs.follow (step :: place) (next :: later) = .error .notDirectory := by
      rw [follow, there]
    cases made with
    | false => exact .inl rfl
    | true =>
      by_cases dotted : (next :: later).all (· == ".")
      · exact .inl (by simp [dotted])
      · exact .inr ⟨by simp [dotted], rfl, entered ▸ blocked⟩

/-- What making directories does at a step: it goes on where the step leads to a directory, makes
one where nothing is, and stops at anything else. -/
theorem makeSteps_cases (isOpen : IsOpen fs place) (made : Bool) (step : String)
    (later : List String) :
    (step.utf8ByteSize ≤ nameLimit ∧ IsOpen fs (stepped place step) ∧
      fs.makeSteps place made (step :: later) = fs.makeSteps (stepped place step) made later) ∨
    (step.utf8ByteSize ≤ nameLimit ∧ stepped place step = step :: place ∧
      fs.get? (step :: place) = none ∧ fs.makeSteps place made (step :: later) =
        (fs.set (step :: place) .directory).makeSteps (step :: place) true later) ∨
    ∃ cause, fs.makeSteps place made (step :: later) = (fs, some cause) ∧
      FailsAgain fs place (step :: later) cause := by
  by_cases dot : step = "."
  · subst dot
    exact .inl ⟨by decide, isOpen, by simp [makeSteps, stepped]⟩
  by_cases dots : step = ".."
  · subst dots
    exact .inl ⟨by decide, isOpen.tail, by simp [makeSteps, stepped]⟩
  have entered : stepped place step = step :: place := by simp [stepped, dot, dots]
  rw [entered]
  by_cases long : nameLimit < step.utf8ByteSize
  · have stops (made : Bool) : fs.makeSteps place made (step :: later) = (fs, some .nameTooLong) := by
      simp [makeSteps, dot, dots, long]
    exact .inr (.inr ⟨.nameTooLong, stops made, .inl (stops false)⟩)
  have fits : step.utf8ByteSize ≤ nameLimit := Nat.le_of_not_lt long
  cases there : fs.get? (step :: place) with
  | none =>
    by_cases dotted : (!later.isEmpty && later.all (· == ".")) = true
    · have stops (made : Bool) : fs.makeSteps place made (step :: later) = (fs, some .notFound) := by
        simp [makeSteps, dot, dots, long, there, dotted]
      exact .inr (.inr ⟨.notFound, stops made, .inl (stops false)⟩)
    · refine .inr (.inl ⟨fits, rfl, rfl, ?_⟩)
      rw [makeSteps, if_neg dot, if_neg dots, if_neg long, there]
      simp only [dotted, Bool.false_eq_true, if_false]
  | some entry =>
    cases entry with
    | directory =>
      refine .inl ⟨fits, isOpen.enter there, ?_⟩
      rw [makeSteps, if_neg dot, if_neg dots, if_neg long, there]
    | file contents => exact .inr (.inr (makeSteps_at_file isOpen dot dots fits there made later))

theorem not_directory_of_vacant (vacant : fs.get? place = none) :
    fs.get? place ≠ some .directory := by
  simp [vacant]

theorem open_made (isOpen : IsOpen fs place) (vacant : fs.get? (step :: place) = none) :
    IsOpen (fs.set (step :: place) .directory) (step :: place) := by
  have free := not_directory_of_vacant vacant
  apply (isOpen.kept (keepsDirectories_set free .directory)).enter
  rw [get?_set_at free, if_pos rfl]

/-- The only places that differ were vacant, lie on the way and are directories now. -/
def MakesOnlyDirectories (before : FileSystem) (place : Location) (steps : List String)
    (after : FileSystem) : Prop :=
  ∀ other, after.get? other = before.get? other ∨
    (before.get? other = none ∧ after.get? other = some .directory ∧ OnTheWay place steps other)

theorem MakesOnlyDirectories.keeps (makes : MakesOnlyDirectories before place steps after) :
    KeepsDirectories before after := by
  intro other directory
  rcases makes other with same | ⟨vacant, _⟩
  · rw [same, directory]
  · rw [vacant] at directory
    contradiction

theorem makeSteps_effect (isOpen : IsOpen fs place) (made : Bool) (steps : List String) :
    MakesOnlyDirectories fs place steps (fs.makeSteps place made steps).1 := by
  induction steps generalizing fs place made with
  | nil => exact fun _ => .inl rfl
  | cons step later ih =>
    rcases makeSteps_cases isOpen made step later with
      ⟨_, next, same⟩ | ⟨_, entered, vacant, same⟩ | ⟨cause, same, _⟩ <;> rw [same]
    · intro other
      rcases ih next made other with unchanged | ⟨vacant, made, passed⟩
      · exact .inl unchanged
      · exact .inr ⟨vacant, made, passed.after_step⟩
    · -- A later step may come back to the place that was made here.
      have new := get?_set_at (not_directory_of_vacant vacant) .directory
      have here : OnTheWay place (step :: later) (step :: place) :=
        entered ▸ onTheWay_next place step later
      intro other
      rcases ih (open_made isOpen vacant) true other with unchanged | ⟨vacant', made', passed⟩
      · rw [unchanged, new]
        split
        · rename_i same
          exact .inr ⟨same ▸ vacant, rfl, same ▸ here⟩
        · exact .inl rfl
      · rw [new] at vacant'
        split at vacant'
        · contradiction
        · rw [← entered] at passed
          exact .inr ⟨vacant', made', passed.after_step⟩
    · exact fun _ => .inl rfl

/-- A path along which directories were made can be followed to its end. -/
theorem makeSteps_followed (isOpen : IsOpen fs place) (made : Bool) (steps : List String)
    (done : fs.makeSteps place made steps = (after, none)) :
    after.follow place steps = .ok (lead place steps) ∧ IsOpen after (lead place steps) := by
  induction steps generalizing fs place made with
  | nil =>
    cases done
    exact ⟨rfl, isOpen⟩
  | cons step later ih =>
    have keeps := (makeSteps_effect isOpen made (step :: later)).keeps
    rw [done] at keeps
    rw [follow_cons (isOpen.kept keeps).directory]
    rcases makeSteps_cases isOpen made step later with
      ⟨fits, next, same⟩ | ⟨fits, entered, vacant, same⟩ | ⟨cause, same, _⟩ <;>
      rw [same] at done
    · rw [if_neg (Nat.not_lt.mpr fits)]
      exact ih next made done
    · rw [if_neg (Nat.not_lt.mpr fits), lead, List.foldl_cons, entered]
      exact ih (open_made isOpen vacant) true done
    · simp at done

/-- Where a path leads. -/
def leadOf (path : String) : Location :=
  lead [] (Path.ofText path).steps

theorem makeDirectories_effect (fs : FileSystem) (path : String) :
    MakesOnlyDirectories fs [] (Path.ofText path).steps (fs.makeDirectories path).1 := by
  unfold makeDirectories
  split
  · exact fun _ => .inl rfl
  · split
    · exact fun _ => .inl rfl
    · exact makeSteps_effect (root_open fs) false _

/-- A path along which directories were made leads to a directory. -/
theorem makeDirectories_followed (done : fs.makeDirectories path = (after, none)) :
    after.follow [] (Path.ofText path).steps = .ok (leadOf path) ∧
      after.get? (leadOf path) = some .directory := by
  unfold makeDirectories at done
  split at done
  · simp at done
  · split at done
    · simp at done
    · obtain ⟨reached, isOpen⟩ := makeSteps_followed (root_open fs) false _ done
      exact ⟨reached, isOpen.directory⟩

end DocPages.DirectoryMaking
