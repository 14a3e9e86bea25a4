import DocPages.Proofs.OpenElements
import Mathlib.Data.List.Basic

/-! The state of a gathering at every place of a document. A member is only held inside of an element
`member` in its place, a text only inside of a member, and the labels open in the text are those of
the elements that are open inside of it, deeper and deeper, each at the byte where the text ended
when its element was opened. So a closing tag finds the label of its own element, and what was said
inside of it is a whole piece of the text. -/
namespace DocPages.GatheringPlaces
open Xml Members TextGathering OpenElements

variable {stack outer : List Opening} {labels : List OpenLabel} {text : String}

/-! ## Entries -/

theorem entries_enter (g : Gathering) (tag : Tag) (isEmpty : Bool) :
    g.entries <+: (g.enter tag isEmpty).entries := by
  have begins := begin_begins g tag isEmpty
  have kept : (g.enter tag isEmpty).entries = (g.begin tag isEmpty).entries := by
    cases isEmpty <;> rfl
  rw [kept]
  generalize g.begin tag isEmpty = begun at begins ⊢
  cases begins with
  | plain _ | said _ _ | label _ _ | part _ _ _ | filled _ _ => exact List.prefix_rfl
  | member _ _ _ | finished _ _ => exact List.prefix_append _ _

theorem entries_leave (g : Gathering) : g.entries <+: g.leave.entries := by
  obtain ⟨draft, passage, more, effect⟩ := leave_effect g
  rw [effect]
  exact List.prefix_append _ _

theorem entries_step (g : Gathering) (event : Event) : g.entries <+: (g.step event).entries := by
  cases event with
  | start tag => exact entries_enter g tag false
  | empty tag => exact entries_enter g tag true
  | close name => exact entries_leave g
  | text _ | cdata _ => exact List.prefix_rfl
  | reference name =>
    simp only [Gathering.step]
    cases referent? name.toList <;> exact List.prefix_rfl
  | aside => exact List.prefix_rfl

/-- Whatever events follow, what became of the members so far stays as it is. -/
theorem entries_run (events later : List Event) :
    (gathered events).entries <+: (gathered (events ++ later)).entries := by
  induction later using List.reverseRecOn with
  | nil => simp
  | append_singleton later event ih =>
    rw [← List.append_assoc, gathered_concat]
    exact ih.trans (entries_step _ event)

/-! ## Places in a text -/

private theorem at_depth_iff {closing opening : Opening} {depth : Nat} :
    (closing :: outer).reverse[depth]? = some opening ↔
      outer.reverse[depth]? = some opening ∨ depth = outer.length ∧ closing = opening := by
  rw [List.reverse_cons]
  by_cases further : depth < outer.length
  · rw [List.getElem?_append_left (by rwa [List.length_reverse])]
    simp only [Nat.ne_of_lt further, false_and, or_false]
  · have beyond : outer.reverse[depth]? = none := by
      rw [List.getElem?_eq_none_iff, List.length_reverse]
      omega
    rw [List.getElem?_append_right (by rw [List.length_reverse]; omega), List.length_reverse,
      beyond]
    by_cases own : depth = outer.length
    · simp [own]
    · have past : depth - outer.length ≠ 0 := by omega
      simp [own, past]

/-- Every open label is that of the open element at its depth. -/
theorem labelled_opening (labelled : Labelled stack text labels) : ∀ label ∈ labels,
    ∃ opening, stack.reverse[label.depth]? = some opening ∧
      label? opening.tag = some label.label ∧ label.start = opening.said.utf8ByteSize ∧
      Extends opening.said text := by
  induction labelled with
  | holder four => simp
  | plain _ grown _ ih =>
    intro label held
    obtain ⟨opening, place, found, start, before⟩ := ih label held
    exact ⟨opening, at_depth_iff.mpr (.inl place), found, start, before.trans grown⟩
  | @label opening outer labels text label inside grown found ih =>
    intro open_ held
    rcases List.mem_cons.mp held with rfl | held
    · exact ⟨opening, at_depth_iff.mpr (.inr ⟨rfl, rfl⟩), found, rfl, grown⟩
    · obtain ⟨opening, place, found, start, before⟩ := ih open_ held
      exact ⟨opening, at_depth_iff.mpr (.inl place), found, start, before.trans grown⟩

theorem labelled_depths (labelled : Labelled stack text labels) :
    (labels.map OpenLabel.depth).Pairwise (· > ·) := by
  induction labelled with
  | holder _ => exact .nil
  | plain _ _ _ ih => exact ih
  | label inside _ _ ih =>
    rw [List.map_cons, List.pairwise_cons]
    refine ⟨?_, ih⟩
    intro depth held
    obtain ⟨label, within, rfl⟩ := List.mem_map.mp held
    exact (labelled_depth inside label within).2

theorem labelled_starts (labelled : Labelled stack text labels) :
    (labels.map OpenLabel.start).Pairwise (· ≥ ·) := by
  induction labelled with
  | holder _ => exact .nil
  | plain _ _ _ ih => exact ih
  | label inside _ _ ih =>
    rw [List.map_cons, List.pairwise_cons]
    refine ⟨?_, ih⟩
    intro start held
    obtain ⟨label, within, rfl⟩ := List.mem_map.mp held
    obtain ⟨opening, _, _, start, grown⟩ := labelled_opening inside label within
    rw [start]
    exact grown.size_le

/-- Every open element inside of the one that holds the text, and has a label, has it open. -/
theorem labelled_all (labelled : Labelled stack text labels) {depth : Nat} {opening : Opening}
    {label : String} (inside : 3 < depth) (place : stack.reverse[depth]? = some opening)
    (found : label? opening.tag = some label) :
    ∃ open_ ∈ labels, open_.depth = depth ∧ open_.label = label := by
  induction labelled with
  | holder four =>
    have := (List.getElem?_eq_some_iff.mp place).1
    rw [List.length_reverse] at this
    omega
  | plain _ _ unlabelled ih =>
    rcases at_depth_iff.mp place with further | ⟨_, rfl⟩
    · exact ih further
    · rw [unlabelled] at found
      cases found
  | label _ _ own ih =>
    rcases at_depth_iff.mp place with further | ⟨rfl, rfl⟩
    · obtain ⟨open_, held, same⟩ := ih further
      exact ⟨open_, List.mem_cons_of_mem _ held, same⟩
    · rw [own] at found
      cases found
      exact ⟨_, List.mem_cons_self, rfl, rfl⟩

/-- The labels open in a text, the innermost first, are those of the elements open inside of it. They
lie deeper and deeper, and none begins before the one around it, out of the text, or inside of a
character. -/
structure InPlace (stack : List Opening) (text : String) (labels : List OpenLabel) : Prop where
  depths : (labels.map OpenLabel.depth).Pairwise (· > ·)
  starts : (labels.map OpenLabel.start).Pairwise (· ≥ ·)
  inside : ∀ label ∈ labels, 3 < label.depth ∧ label.depth < stack.length
  bounded : ∀ label ∈ labels, label.start ≤ text.utf8ByteSize ∧
    String.Pos.Raw.IsValid text ⟨label.start⟩
  own : ∀ label ∈ labels, ∃ opening, stack.reverse[label.depth]? = some opening ∧
    label? opening.tag = some label.label ∧ label.start = opening.said.utf8ByteSize ∧
    Extends opening.said text
  all : ∀ depth opening label, 3 < depth → stack.reverse[depth]? = some opening →
    label? opening.tag = some label → ∃ open_ ∈ labels, open_.depth = depth ∧ open_.label = label

theorem inPlace_of_labelled (labelled : Labelled stack text labels) : InPlace stack text labels where
  depths := labelled_depths labelled
  starts := labelled_starts labelled
  inside := labelled_depth labelled
  bounded := by
    intro label held
    obtain ⟨opening, _, _, start, since, rfl⟩ := labelled_opening labelled label held
    rw [start]
    exact ⟨Extends.size_le ⟨since, rfl⟩,
      String.Pos.Raw.isValid_iff_exists_append.mpr ⟨opening.said, since, rfl, rfl⟩⟩
  own := labelled_opening labelled
  all := fun _ _ _ inside place found => labelled_all labelled inside place found

/-- Right inside of the outermost element's children, the child decides whether a member may begin. -/
theorem member_role_iff {g : Gathering} (untaken : g.passage = none) (two : g.opened.length = 2) :
    ∃ group, g.opened.reverse[1]? = some group ∧ ∀ tag,
      (∃ name?, g.role tag = .member name?) ↔ group = "members" ∧ tag.localName = "member" := by
  obtain ⟨group, root, place⟩ := List.length_eq_two.mp two
  refine ⟨group, by simp [place], ?_⟩
  intro tag
  unfold Gathering.role
  rw [untaken, place]
  by_cases members : group = "members"
  · subst group
    by_cases named : tag.localName = "member" <;> simp [named]
  · simp [members]

/-- At every place of every stream of events: the gathering holds the local names of the open
elements; it holds a member only inside of a `member` element in its place, and a text only inside of
that; the labels of the text are in their places; a closing tag inside of the text adds the label of
its own element, and only to a blank body; and records are only ever added at the end. -/
theorem gatherings_keep_their_place (events : List Event) :
    let g := gathered events
    let stack := openings events
    (∀ names, events.foldlM nest [] = .ok names → stack.map (·.tag.name) = names) ∧
    g.opened = stack.map (·.tag.localName) ∧
    (g.passage = none → g.opened.length = 2 → ∃ group, g.opened.reverse[1]? = some group ∧ ∀ tag,
      (∃ name?, g.role tag = .member name?) ↔ group = "members" ∧ tag.localName = "member") ∧
    (g.draft.isSome → 3 ≤ g.opened.length ∧
      g.opened.reverse[1]? = some "members" ∧ g.opened.reverse[2]? = some "member") ∧
    (∀ passage, g.passage = some passage → g.draft.isSome ∧ passage.depth = 3 ∧
      4 ≤ g.opened.length ∧ InPlace stack passage.text passage.labels) ∧
    (∀ passage closing outer, g.passage = some passage → stack = closing :: outer →
      4 ≤ outer.length → ∃ since, passage.text = closing.said ++ since ∧
        g.leave.passage.map (·.text) =
          some (closing.said ++ TreeReading.Content.labelled closing.tag since)) ∧
    ∀ later, g.entries.filterMap Entry.record? <+:
      (gathered (events ++ later)).entries.filterMap Entry.record? := by
  intro g stack
  have placed : Placed stack g := placed_run events
  refine ⟨fun names nests => names_of_openings names nests, placed.opened,
    fun untaken two => member_role_iff untaken two, ?_, ?_, ?_, ?_⟩
  · intro drafted
    obtain ⟨inner, root, place⟩ := placed.drafted drafted
    simp [place]
  · intro passage taken
    obtain ⟨drafted, depth, labelled⟩ := placed.taken passage taken
    refine ⟨drafted, depth, ?_, inPlace_of_labelled labelled⟩
    rw [placed.opened, List.length_map]
    exact labelled_length labelled
  · intro passage closing outer taken place inside
    obtain ⟨since, labels, text, _, left⟩ := leave_inside (place ▸ placed) taken inside
    refine ⟨since, text, ?_⟩
    rw [left]
    rfl
  · intro later
    exact (entries_run events later).filterMap _

/-- A text in which two labels are open, each behind a character of two bytes. -/
def nestedLabels : List Event :=
  [.start ⟨"doc", []⟩, .start ⟨"members", []⟩, .start ⟨"member", [⟨"name", "T:N.C"⟩]⟩,
   .start ⟨"summary", []⟩, .text "é", .start ⟨"see", [⟨"cref", "T:N.D"⟩]⟩, .start ⟨"b", []⟩, .text "ß",
   .start ⟨"paramref", [⟨"name", "p"⟩]⟩]

theorem nested_labels_are_in_place :
    let labels : List OpenLabel := [⟨6, "p", 4⟩, ⟨4, "D", 2⟩]
    (gathered nestedLabels).passage = some { sort := .summary, depth := 3, text := "éß", labels } ∧
      InPlace (openings nestedLabels) "éß" labels ∧
      (gathered nestedLabels).leave.passage.map (·.text) = some "éßp" := by
  intro labels
  have taken : (gathered nestedLabels).passage =
      some { sort := .summary, depth := 3, text := "éß", labels } := by decide +kernel
  obtain ⟨_, _, _, _, inside, left, _⟩ := gatherings_keep_their_place nestedLabels
  refine ⟨taken, (inside _ taken).2.2.2, ?_⟩
  obtain ⟨since, said, added⟩ := left _ ⟨⟨"paramref", [⟨"name", "p"⟩]⟩, "éß"⟩
    ((openings nestedLabels).tail) taken (by decide +kernel) (by decide +kernel)
  have nothing : since = "" := String.toList_inj.mp (by simpa using congrArg String.toList said)
  rw [added, nothing]
  decide +kernel

end DocPages.GatheringPlaces
