import DocPages.Proofs.OpenElements

/-! An element without content may be written as one tag or as a start tag and a closing tag. A
gathering takes the two forms on different ways: one begins something and ends it at once, the other
leaves it open, and the closing tag tells by the depth what to end. At every place that a gathering
can come to, both lead to the same state. -/
namespace DocPages.EmptyElements
open Xml Members TextGathering GatheringSemantics OpenElements

variable {stack : List Opening} {g : Gathering} {passage : Passage} {tag : Tag}

/-! ## One element, by what its tag begins -/

theorem rootSeen_of_opened (placed : Placed stack g) (inner : g.opened ≠ []) : g.rootSeen = true := by
  apply placed.rootSeen
  rintro rfl
  exact inner placed.opened

theorem taking_of_placed (placed : Placed stack g) (taken : g.passage = some passage) :
    Taking g passage := by
  obtain ⟨_, depth, labelled⟩ := placed.taken passage taken
  have level : g.opened.length = stack.length := by rw [placed.opened, List.length_map]
  have below := labelled_length labelled
  rw [← level] at below
  refine ⟨rootSeen_of_opened placed ?_, taken, depth, below, ?_⟩
  · exact List.ne_nil_of_length_pos (Nat.lt_of_lt_of_le (by decide) below)
  · rw [level]
    exact fun label held => (labelled_depth labelled label held).2

/-- A member is only held inside of its element, so not where another member may begin. -/
theorem undrafted_of_two (placed : Placed stack g) (two : g.opened.length = 2) : g.draft = none := by
  rw [← Option.not_isSome_iff_eq_none]
  intro drafted
  obtain ⟨inner, root, place⟩ := placed.drafted drafted
  simp [place] at two

theorem empty_inside_text (taking : Taking g passage) :
    (g.enter tag false).leave = g.enter tag true := by
  calc
    _ = ((g.enter tag false).push "").leave := by rw [push_nothing]
    _ = g.push (TreeReading.Content.labelled tag "") := taking_leave taking tag ""
    _ = g.enter tag true := by simp [(taking_enter taking tag).1, TreeReading.Content.labelled]

theorem empty_plain (placed : Placed stack g) (untaken : g.passage = none)
    (role : g.role tag = .plain) : (g.enter tag false).leave = g.enter tag true := by
  have opens : g.enter tag false =
      { g with rootSeen := true, opened := tag.localName :: g.opened } := by
    simp [Gathering.enter, Gathering.begin, role]
  have closed : g.enter tag true = { g with rootSeen := true } := by
    simp [Gathering.enter, Gathering.begin, role]
  rw [opens, closed, leave_outside_text (by exact untaken)]
  by_cases two : g.opened.length = 2
  · -- here a closing tag ends a member, but none can be open
    have undrafted := undrafted_of_two placed two
    rw [List.tail_cons, if_pos two]
    exact endMember_of_none undrafted
  · rw [List.tail_cons, if_neg two]

theorem empty_member (seen : g.rootSeen = true) (untaken : g.passage = none)
    (place : g.opened = ["members", root]) (role : g.role tag = .member name?) :
    (g.enter tag false).leave = g.enter tag true := by
  obtain ⟨closed, opens⟩ := enter_inside seen tag
  rw [closed, opens]
  cases name? with
  | none | some name =>
    simp only [Gathering.begin, role, if_true, Bool.false_eq_true, if_false]
    rw [leave_outside_text (by exact untaken)]
    simp [place]

theorem empty_part (seen : g.rootSeen = true) (place : g.opened = [member, group, root])
    (role : g.role tag = .part sort) : (g.enter tag false).leave = g.enter tag true := by
  obtain ⟨closed, opens⟩ := enter_inside seen tag
  rw [closed, opens]
  simp only [Gathering.begin, role, if_true, Bool.false_eq_true, if_false]
  rw [leave_text rfl rfl]
  · rfl
  · simp [Gathering.depth]
  · simp [place]

/-- Opening an element and closing it at once is what its tag does when written as one. -/
theorem close_behind_start (placed : Placed stack g) (tag : Tag) :
    (g.enter tag false).leave = g.enter tag true := by
  cases taken : g.passage with
  | some passage => exact empty_inside_text (taking_of_placed placed taken)
  | none =>
    obtain role | ⟨root, name?, place, _, role⟩ | ⟨member, group, root, sort, place, _, role⟩ :=
      role_outside_text taken tag
    · exact empty_plain placed taken role
    · exact empty_member (rootSeen_of_opened placed (by simp [place])) taken place role
    · exact empty_part (rootSeen_of_opened placed (by simp [place])) place role

/-! ## Whole documents -/

/-- The second stream is the first with some of the elements that are written as one tag written as
two. The events may stand at other positions. -/
inductive Respelled : List (Event × Nat) → List (Event × Nat) → Prop
  | nothing : Respelled [] []
  | same {first second : List (Event × Nat)} (event : Event) (position other : Nat)
      (later : Respelled first second) :
      Respelled ((event, position) :: first) ((event, other) :: second)
  | opened {first second : List (Event × Nat)} (tag : Tag) (position start close : Nat)
      (later : Respelled first second) :
      Respelled ((.empty tag, position) :: first)
        ((.start tag, start) :: (.close tag.name, close) :: second)

/-- The fault that a reading ended with, if it did not read to the end. -/
def faultOf? : Ending → Option Fault
  | .complete _ => none
  | .broken fault _ => some fault

variable {first second : List (Event × Nat)} {ending other : Ending}

/-- A reader that takes the one stream takes the other, and leaves the same elements open. -/
theorem respelled_nests (respelled : Respelled first second) (opened : List String) :
    (second.map Prod.fst).foldlM nest opened = (first.map Prod.fst).foldlM nest opened := by
  induction respelled generalizing opened with
  | nothing => rfl
  | same event _ _ _ ih =>
    simp only [List.map_cons, List.foldlM_cons]
    exact bind_congr ih
  | @opened first second tag _ _ _ _ ih =>
    have closed : nest (tag.name :: opened) (.close tag.name) = .ok opened := by simp [nest]
    calc
      _ = nest (tag.name :: opened) (.close tag.name) >>= (second.map Prod.fst).foldlM nest := rfl
      _ = (second.map Prod.fst).foldlM nest opened := by
        rw [closed]
        rfl
      _ = (first.map Prod.fst).foldlM nest opened := ih opened

theorem problemAtEnd_alike (g : Gathering) (alike : faultOf? other = faultOf? ending) :
    (g.defectAtEnd? other).map (·.problem) = (g.defectAtEnd? ending).map (·.problem) := by
  cases ending <;> cases other <;> cases alike
  · simp [Gathering.defectAtEnd?, Function.comp_def]
  · rfl

theorem run_respelled (respelled : Respelled first second)
    (alike : faultOf? other = faultOf? ending) (placed : Placed stack g) :
    (g.run other second).1 = (g.run ending first).1 ∧
      (g.run other second).2.map (·.problem) = (g.run ending first).2.map (·.problem) := by
  induction respelled generalizing g stack with
  | nothing => exact ⟨rfl, problemAtEnd_alike g alike⟩
  | same event _ _ _ ih =>
    simp only [Gathering.run]
    cases g.problem? event with
    | some problem => exact ⟨rfl, rfl⟩
    | none => exact ih (placed_step placed event)
  | opened tag _ _ _ _ ih =>
    simp only [Gathering.run]
    have judged : g.problem? (.start tag) = g.problem? (.empty tag) := rfl
    rw [judged]
    cases g.problem? (.empty tag) with
    | some problem => exact ⟨rfl, rfl⟩
    | none =>
      have same : (g.step (.start tag)).step (.close tag.name) = g.step (.empty tag) :=
        close_behind_start placed tag
      have sound : (g.step (.start tag)).problem? (.close tag.name) = none := rfl
      simp only [sound, same]
      exact ih (placed_step placed (.empty tag))

/-- At every place of every stream of events, a start tag with its closing tag right behind it does
what the tag does when written as one. So a document may be written in either way: it yields the same
entries, the same problem if there is one, and else the same records. -/
theorem empty_elements_are_opened_and_closed :
    (∀ (events : List Event) (tag : Tag) (name : String),
      ((gathered events).step (.start tag)).step (.close name) =
        (gathered events).step (.empty tag)) ∧
    ∀ reading other : Reading, Respelled reading.events other.events →
      faultOf? other.ending = faultOf? reading.ending →
      (other.events.map Prod.fst).foldlM nest [] = (reading.events.map Prod.fst).foldlM nest [] ∧
      (Extraction.ofReading other).entries = (Extraction.ofReading reading).entries ∧
      (Extraction.ofReading other).defect?.map (·.problem) =
        (Extraction.ofReading reading).defect?.map (·.problem) ∧
      ∀ records, (Extraction.ofReading other).records = .ok records ↔
        (Extraction.ofReading reading).records = .ok records := by
  refine ⟨fun events tag _ => close_behind_start (placed_run events) tag, ?_⟩
  intro reading other respelled alike
  obtain ⟨same, problem⟩ := run_respelled respelled alike (placed_run [])
  have entries : (Extraction.ofReading other).entries = (Extraction.ofReading reading).entries :=
    congrArg Gathering.entries same
  replace problem : (Extraction.ofReading other).defect?.map (·.problem) =
    (Extraction.ofReading reading).defect?.map (·.problem) := problem
  refine ⟨respelled_nests respelled [], entries, problem, ?_⟩
  intro records
  have unhurt := congrArg (· = none) problem
  simp only [Option.map_eq_none_iff] at unhurt
  rw [Extraction.records_eq_ok_iff, Extraction.records_eq_ok_iff, entries, unhurt]

/-- A document with an empty element in every place where something may begin, and in one where
nothing may. -/
def emptyTags : String :=
  "<d><a/><members><member name='T:A'/><member name='T:B'><summary>a <see cref='T:C'/></summary>" ++
    "<param/></member></members></d>"

def openedTags : String :=
  "<d><a></a><members><member name='T:A'></member><member name='T:B'><summary>a <see cref='T:C'>" ++
    "</see></summary><param></param></member></members></d>"

theorem opened_tags_read_as_empty_tags :
    Respelled (Reading.ofText emptyTags).events (Reading.ofText openedTags).events ∧
      (Extraction.ofText openedTags).records = .ok
        [⟨⟨.type, "A", none, none, ""⟩, "", "", "", "", []⟩,
         ⟨⟨.type, "B", none, none, ""⟩, "a C", "", "", "", [⟨"", ""⟩]⟩] := by
  have short : Reading.ofText emptyTags = {
      events := [(.start ⟨"d", []⟩, 3), (.empty ⟨"a", []⟩, 7), (.start ⟨"members", []⟩, 16),
        (.empty ⟨"member", [⟨"name", "T:A"⟩]⟩, 36), (.start ⟨"member", [⟨"name", "T:B"⟩]⟩, 55),
        (.start ⟨"summary", []⟩, 64), (.text "a ", 66), (.empty ⟨"see", [⟨"cref", "T:C"⟩]⟩, 83),
        (.close "summary", 93), (.empty ⟨"param", []⟩, 101), (.close "member", 110),
        (.close "members", 120), (.close "d", 124)]
      ending := .complete 124 } := by decide +kernel
  have long : Reading.ofText openedTags = {
      events := [(.start ⟨"d", []⟩, 3), (.start ⟨"a", []⟩, 6), (.close "a", 10),
        (.start ⟨"members", []⟩, 19), (.start ⟨"member", [⟨"name", "T:A"⟩]⟩, 38),
        (.close "member", 47), (.start ⟨"member", [⟨"name", "T:B"⟩]⟩, 66),
        (.start ⟨"summary", []⟩, 75), (.text "a ", 77), (.start ⟨"see", [⟨"cref", "T:C"⟩]⟩, 93),
        (.close "see", 99), (.close "summary", 109), (.start ⟨"param", []⟩, 116),
        (.close "param", 124), (.close "member", 133), (.close "members", 143), (.close "d", 147)]
      ending := .complete 147 } := by decide +kernel
  have respelled :
      Respelled (Reading.ofText emptyTags).events (Reading.ofText openedTags).events := by
    rw [short, long]
    exact .same _ _ _ <| .opened _ _ _ _ <| .same _ _ _ <| .opened _ _ _ _ <| .same _ _ _ <|
      .same _ _ _ <| .same _ _ _ <| .opened _ _ _ _ <| .same _ _ _ <| .opened _ _ _ _ <|
      .same _ _ _ <| .same _ _ _ <| .same _ _ _ .nothing
  have ended : faultOf? (Reading.ofText openedTags).ending =
      faultOf? (Reading.ofText emptyTags).ending := by rw [short, long]; rfl
  obtain ⟨_, _, _, same⟩ :=
    empty_elements_are_opened_and_closed.2 (.ofText emptyTags) (.ofText openedTags) respelled ended
  refine ⟨respelled, (same _).mpr ?_⟩
  rw [short]
  decide +kernel

end DocPages.EmptyElements
