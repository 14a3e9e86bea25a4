import DocPages.Proofs.GatheringSemantics
import Mathlib.Data.List.Induction

/-! What is open at each place of a document, and how a gathering keeps track of it. The elements
that are open are told by the events; a gathering only holds their names, a member, a text with its
open labels, and conditions on how deep it stands. All of these agree at every place: each open label
belongs to an open element, and begins where the text ended when that element was opened. -/
namespace DocPages.OpenElements
open Xml Members TextGathering GatheringSemantics

/-- An open element: its tag, and the text that had been taken when it was opened. -/
structure Opening where
  tag : Tag
  said : String
  deriving DecidableEq, Repr

/-- The elements that are open behind an event, the innermost first. -/
def openBehind (g : Gathering) (stack : List Opening) : Event → List Opening
  | .start tag => ⟨tag, (g.passage.map (·.text)).getD ""⟩ :: stack
  | .close _ => stack.tail
  | _ => stack

def gathered (events : List Event) : Gathering :=
  events.foldl Gathering.step {}

/-- What has been gathered from the events, and the elements that they leave open. -/
def trace (events : List Event) : Gathering × List Opening :=
  events.foldl (fun (g, stack) event => (g.step event, openBehind g stack event)) ({}, [])

def openings (events : List Event) : List Opening :=
  (trace events).2

/-- The later text is the earlier one with something behind it. -/
def Extends (earlier later : String) : Prop :=
  ∃ since, later = earlier ++ since

/-- The labels open in a text are those of the open elements inside of the one that holds it. Each
stands at the depth of its element, and begins where the text ended when that was opened. -/
inductive Labelled : List Opening → String → List OpenLabel → Prop
  | holder {stack : List Opening} {text : String} (four : stack.length = 4) :
      Labelled stack text []
  | plain {opening : Opening} {outer : List Opening} {labels : List OpenLabel} {text : String}
      (inside : Labelled outer opening.said labels) (grown : Extends opening.said text)
      (unlabelled : label? opening.tag = none) : Labelled (opening :: outer) text labels
  | label {opening : Opening} {outer : List Opening} {labels : List OpenLabel} {text : String}
      {label : String} (inside : Labelled outer opening.said labels)
      (grown : Extends opening.said text) (found : label? opening.tag = some label) :
      Labelled (opening :: outer) text (⟨outer.length, label, opening.said.utf8ByteSize⟩ :: labels)

/-- The gathering agrees with the open elements. -/
structure Placed (stack : List Opening) (g : Gathering) : Prop where
  opened : g.opened = stack.map (·.tag.localName)
  rootSeen : stack ≠ [] → g.rootSeen = true
  drafted : g.draft.isSome → ∃ inner root, g.opened = inner ++ ["member", "members", root]
  taken : ∀ passage, g.passage = some passage →
    g.draft.isSome ∧ passage.depth = 3 ∧ Labelled stack passage.text passage.labels

variable {events : List Event} {event : Event} {stack outer : List Opening} {g : Gathering}
  {tag : Tag} {isEmpty : Bool} {passage : Passage} {labels : List OpenLabel} {text : String}

/-! ## What a tag begins -/

/-- All that a tag can make of a gathering before its element is opened. -/
inductive Begins (g : Gathering) (tag : Tag) : Bool → Gathering → Prop
  | plain {isEmpty : Bool} (unlabelled : ∀ passage, g.passage = some passage → label? tag = none) :
      Begins g tag isEmpty g
  | said {passage : Passage} {label : String} (taken : g.passage = some passage)
      (found : label? tag = some label) :
      Begins g tag true { g with passage := some (passage.append label) }
  | label {passage : Passage} {label : String} (taken : g.passage = some passage)
      (found : label? tag = some label) :
      Begins g tag false { g with passage := some (passage.openLabel g.depth label) }
  | member {root : String} {draft : Option Draft} {more : List Entry} (untaken : g.passage = none)
      (place : g.opened = ["members", root]) (named : tag.localName = "member") :
      Begins g tag false { g with draft, entries := g.entries ++ more }
  | finished {root : String} {more : List Entry} (untaken : g.passage = none)
      (place : g.opened = ["members", root]) :
      Begins g tag true { g with draft := none, entries := g.entries ++ more }
  | part {member group root : String} {sort : Section} (untaken : g.passage = none)
      (place : g.opened = [member, group, root]) (drafted : g.draft.isSome) :
      Begins g tag false { g with passage := some { sort, depth := 3 } }
  | filled {draft : Draft} (untaken : g.passage = none) (drafted : g.draft.isSome) :
      Begins g tag true { g with draft := some draft }

theorem endMember_effect (g : Gathering) :
    ∃ more, g.endMember = { g with draft := none, entries := g.entries ++ more } := by
  cases drafted : g.draft with
  | none =>
    refine ⟨[], ?_⟩
    rw [endMember_of_none drafted, List.append_nil, ← drafted]
  | some draft => exact ⟨_, endMember_of_draft drafted⟩

theorem endPassage_effect (g : Gathering) :
    ∃ draft, g.endPassage = { g with passage := none, draft } := by
  unfold Gathering.endPassage
  split
  · exact ⟨_, rfl⟩
  · exact ⟨g.draft, rfl⟩

/-- A closing tag may end a text and a member, and only adds to the entries. -/
theorem leave_effect (g : Gathering) : ∃ draft passage more, g.leave = { g with
    opened := g.opened.tail, draft, passage, entries := g.entries ++ more } := by
  have ended (outside : Gathering) (here : Bool) : ∃ draft passage,
      (if here then outside.endPassage else outside) = { outside with draft, passage } := by
    cases here with
    | false => exact ⟨outside.draft, outside.passage, rfl⟩
    | true =>
      obtain ⟨draft, effect⟩ := endPassage_effect outside
      exact ⟨draft, none, effect⟩
  simp only [Gathering.leave]
  obtain ⟨draft, passage, effect⟩ := ended { g with
    opened := g.opened.tail, passage := g.passage.map (·.closeLabel g.opened.tail.length) } _
  rw [effect]
  split
  · obtain ⟨more, effect⟩ := endMember_effect { g with opened := g.opened.tail, draft, passage }
    exact ⟨none, passage, more, effect⟩
  · exact ⟨draft, passage, [], by rw [List.append_nil]⟩

/-- Outside of all texts, the place alone decides what a tag may begin. -/
theorem role_outside_text (untaken : g.passage = none) (tag : Tag) :
    g.role tag = .plain ∨
    (∃ root name?, g.opened = ["members", root] ∧ tag.localName = "member" ∧
      g.role tag = .member name?) ∨
    ∃ member group root sort, g.opened = [member, group, root] ∧ g.draft.isSome ∧
      g.role tag = .part sort := by
  unfold Gathering.role
  rw [untaken]
  split
  · contradiction
  · rename_i root _ place
    by_cases named : tag.localName = "member"
    · exact .inr (.inl ⟨root, _, place, named, if_pos named⟩)
    · exact .inl (if_neg named)
  · rename_i member group root _ place
    by_cases drafted : g.draft.isSome
    · rw [if_pos drafted]
      cases sectionOf? tag with
      | none => exact .inl rfl
      | some sort => exact .inr (.inr ⟨member, group, root, sort, place, drafted, rfl⟩)
    · exact .inl (if_neg drafted)
  · exact .inl rfl

theorem begin_begins (g : Gathering) (tag : Tag) (isEmpty : Bool) :
    Begins g tag isEmpty (g.begin tag isEmpty) := by
  cases taken : g.passage with
  | some passage =>
    cases found : label? tag with
    | none =>
      have role : g.role tag = .plain := by simp [Gathering.role, taken, found]
      simp only [Gathering.begin, role]
      exact .plain fun _ _ => found
    | some label =>
      have role : g.role tag = .label label := by simp [Gathering.role, taken, found]
      simp only [Gathering.begin, role, taken, Option.map_some]
      cases isEmpty with
      | true => exact .said taken found
      | false => exact .label taken found
  | none =>
    obtain role | ⟨root, name?, place, named, role⟩ |
      ⟨member, group, root, sort, place, drafted, role⟩ := role_outside_text taken tag
    · simp only [Gathering.begin, role]
      exact .plain (by simp [taken])
    · simp only [Gathering.begin, role]
      cases isEmpty with
      | true =>
        cases name? with
        | none =>
          obtain ⟨more, ended⟩ := endMember_effect { g with entries := g.entries ++ [.unnamed] }
          simp only [ended, if_true, List.append_assoc]
          exact .finished taken place
        | some name =>
          obtain ⟨more, ended⟩ := endMember_effect { g with draft := some { name } }
          simp only [ended, if_true]
          exact .finished taken place
      | false =>
        cases name? with
        | none => exact .member taken place named
        | some name =>
          have begun : Begins g tag false
              { g with draft := some { name }, entries := g.entries ++ [] } :=
            .member taken place named
          simpa using begun
    · simp only [Gathering.begin, role]
      cases isEmpty with
      | true =>
        obtain ⟨draft, found⟩ := Option.isSome_iff_exists.mp drafted
        have filled : Begins g tag true
            { g with draft := some (draft.fill sort (Text.trim "")) } := .filled taken drafted
        simpa [Gathering.endPassage, found, ← taken] using filled
      | false =>
        have depth : g.depth = 3 := by simp [Gathering.depth, place]
        simp only [depth, Bool.false_eq_true, if_false]
        exact .part taken place drafted

/-! ## Labels and their elements -/

theorem Extends.refl (text : String) : Extends text text :=
  ⟨"", by simp⟩

theorem Extends.trans {earlier middle later : String} (first : Extends earlier middle)
    (second : Extends middle later) : Extends earlier later := by
  obtain ⟨since, rfl⟩ := first
  obtain ⟨more, rfl⟩ := second
  exact ⟨since ++ more, by rw [String.append_assoc]⟩

theorem Extends.size_le {earlier later : String} (grown : Extends earlier later) :
    earlier.utf8ByteSize ≤ later.utf8ByteSize := by
  obtain ⟨since, rfl⟩ := grown
  rw [String.utf8ByteSize_append]
  exact Nat.le_add_right _ _

theorem labelled_grown {later : String} (labelled : Labelled stack text labels)
    (grown : Extends text later) : Labelled stack later labels := by
  cases labelled with
  | holder four => exact .holder four
  | plain inside since unlabelled => exact .plain inside (since.trans grown) unlabelled
  | label inside since found => exact .label inside (since.trans grown) found

theorem labelled_length (labelled : Labelled stack text labels) : 4 ≤ stack.length := by
  induction labelled with
  | holder four => exact Nat.le_of_eq four.symm
  | plain _ _ _ ih => exact Nat.le_succ_of_le ih
  | label _ _ _ ih => exact Nat.le_succ_of_le ih

theorem labelled_depth (labelled : Labelled stack text labels) :
    ∀ label ∈ labels, 3 < label.depth ∧ label.depth < stack.length := by
  induction labelled with
  | holder four => simp
  | plain _ _ _ ih =>
    intro label held
    exact ⟨(ih label held).1, Nat.lt_succ_of_lt (ih label held).2⟩
  | @label opening outer labels text label inside _ _ ih =>
    intro open_ held
    rcases List.mem_cons.mp held with rfl | held
    · exact ⟨labelled_length inside, Nat.lt_succ_self _⟩
    · exact ⟨(ih open_ held).1, Nat.lt_succ_of_lt (ih open_ held).2⟩

/-- Closing an element inside of a text leaves the label of that element and of no other, if nothing
but blanks was said since it was opened. -/
theorem closeLabel_labelled {closing : Opening}
    (labelled : Labelled (closing :: outer) passage.text passage.labels)
    (inside : 4 ≤ outer.length) :
    ∃ since labels, passage.text = closing.said ++ since ∧ Labelled outer closing.said labels ∧
      passage.closeLabel outer.length = { passage with
        text := closing.said ++ TreeReading.Content.labelled closing.tag since, labels } := by
  obtain ⟨sort, depth, text, labels⟩ := passage
  cases labelled with
  | holder four =>
    rw [List.length_cons] at four
    omega
  | plain within grown unlabelled =>
    obtain ⟨since, rfl⟩ := grown
    refine ⟨since, labels, rfl, within, ?_⟩
    rw [closeLabel_outer fun label held => (labelled_depth within label held).2]
    simp [TreeReading.Content.labelled, unlabelled]
  | @label _ _ rest _ label within grown found =>
    obtain ⟨since, rfl⟩ := grown
    refine ⟨since, rest, rfl, within, ?_⟩
    rw [TreeReading.Content.labelled, found]
    exact closeLabel_opened ⟨sort, depth, closing.said, rest⟩ outer.length label since

/-! ## Steps -/

theorem placed_push (placed : Placed stack g) (text : String) : Placed stack (g.push text) where
  opened := placed.opened
  rootSeen := placed.rootSeen
  drafted := placed.drafted
  taken := by
    intro passage held
    obtain ⟨before, taken, rfl⟩ := Option.map_eq_some_iff.mp held
    obtain ⟨drafted, depth, labelled⟩ := placed.taken before taken
    exact ⟨drafted, depth, labelled_grown labelled ⟨text, rfl⟩⟩

theorem placed_empty (placed : Placed stack g) (tag : Tag) : Placed stack (g.enter tag true) := by
  have begins := begin_begins g tag true
  simp only [Gathering.enter, if_true]
  generalize g.begin tag true = begun at begins ⊢
  cases begins with
  | plain _ => exact ⟨placed.opened, fun _ => rfl, placed.drafted, placed.taken⟩
  | said taken found =>
    obtain ⟨drafted, depth, labelled⟩ := placed.taken _ taken
    refine ⟨placed.opened, fun _ => rfl, placed.drafted, ?_⟩
    rintro _ ⟨⟩
    exact ⟨drafted, depth, labelled_grown labelled ⟨_, rfl⟩⟩
  | finished untaken place =>
    exact ⟨placed.opened, fun _ => rfl, by simp, by simp [untaken]⟩
  | filled untaken drafted =>
    exact ⟨placed.opened, fun _ => rfl, fun _ => placed.drafted drafted, by simp [untaken]⟩

theorem placed_start (placed : Placed stack g) (tag : Tag) :
    Placed (openBehind g stack (.start tag)) (g.enter tag false) := by
  have begins := begin_begins g tag false
  simp only [Gathering.enter, openBehind, Bool.false_eq_true, if_false]
  generalize g.begin tag false = begun at begins ⊢
  have opened : tag.localName :: g.opened =
      (⟨tag, (g.passage.map (·.text)).getD ""⟩ :: stack).map (·.tag.localName) := by
    rw [placed.opened, List.map_cons]
  have deeper (drafted : g.draft.isSome) :
      ∃ inner root, tag.localName :: g.opened = inner ++ ["member", "members", root] := by
    obtain ⟨inner, root, place⟩ := placed.drafted drafted
    exact ⟨tag.localName :: inner, root, by rw [place, List.cons_append]⟩
  cases begins with
  | plain unlabelled =>
    refine ⟨opened, fun _ => rfl, deeper, ?_⟩
    intro passage taken
    obtain ⟨drafted, depth, labelled⟩ := placed.taken passage taken
    simp only at taken
    rw [taken]
    exact ⟨drafted, depth, .plain labelled (.refl _) (unlabelled passage taken)⟩
  | @label passage label taken found =>
    obtain ⟨drafted, depth, labelled⟩ := placed.taken passage taken
    have level : g.depth = stack.length := by
      rw [Gathering.depth, placed.opened, List.length_map]
    refine ⟨opened, fun _ => rfl, deeper, ?_⟩
    rintro _ ⟨⟩
    simp only [taken, level]
    exact ⟨drafted, depth, .label labelled (.refl _) found⟩
  | @member root _ _ untaken place named =>
    refine ⟨opened, fun _ => rfl, fun _ => ⟨[], root, ?_⟩, by simp [untaken]⟩
    rw [place, named]
    rfl
  | @part member group root sort untaken place drafted =>
    refine ⟨opened, fun _ => rfl, fun _ => deeper drafted, ?_⟩
    rintro _ ⟨⟩
    refine ⟨drafted, rfl, .holder ?_⟩
    have three := congrArg List.length placed.opened
    rw [place, List.length_map] at three
    rw [List.length_cons, ← three]
    rfl

/-- A closing tag inside of a text closes at most a label, and takes nothing from the text. -/
theorem leave_inside {closing : Opening} (placed : Placed (closing :: outer) g)
    (taken : g.passage = some passage) (inside : 4 ≤ outer.length) :
    ∃ since labels, passage.text = closing.said ++ since ∧ Labelled outer closing.said labels ∧
      g.leave = { g with
        opened := outer.map (·.tag.localName)
        passage := some { passage with
          text := closing.said ++ TreeReading.Content.labelled closing.tag since, labels } } := by
  obtain ⟨_, depth, labelled⟩ := placed.taken passage taken
  obtain ⟨since, labels, text, within, closed⟩ := closeLabel_labelled labelled inside
  have opened : g.opened.tail = outer.map (·.tag.localName) := by rw [placed.opened]; rfl
  have level : g.opened.tail.length = outer.length := by rw [opened, List.length_map]
  refine ⟨since, labels, text, within, ?_⟩
  rw [leave_inside_text taken depth (by rw [level]; exact inside), level, opened, closed]

/-- Outside of all texts, and where the text itself ends, a closing tag leaves no text, and no member
among the members. -/
theorem leave_outside {closing : Opening} (placed : Placed (closing :: outer) g)
    (outside : g.passage = none ∨ outer.length = 3) :
    ∃ draft more, g.leave = { g with
      opened := outer.map (·.tag.localName), passage := none, draft,
      entries := g.entries ++ more } ∧
      (draft.isSome → g.draft.isSome ∧ outer.length ≠ 2) := by
  have opened : g.opened.tail = outer.map (·.tag.localName) := by rw [placed.opened]; rfl
  have level : g.opened.tail.length = outer.length := by rw [opened, List.length_map]
  cases taken : g.passage with
  | none =>
    rw [leave_outside_text taken, level, opened]
    by_cases two : outer.length = 2
    · obtain ⟨more, ended⟩ := endMember_effect { g with opened := outer.map (·.tag.localName) }
      refine ⟨none, more, ?_, by simp⟩
      rw [if_pos two, ended, ← taken]
    · refine ⟨g.draft, [], ?_, fun drafted => ⟨drafted, two⟩⟩
      rw [if_neg two, List.append_nil, ← taken]
  | some passage =>
    have three : outer.length = 3 := outside.resolve_left (by simp [taken])
    obtain ⟨drafted, depth, labelled⟩ := placed.taken passage taken
    have unlabelled : passage.labels = [] := by
      generalize passage.labels = labels at labelled ⊢
      cases labelled with
      | holder _ => rfl
      | plain inside _ _ | label inside _ _ =>
        have := labelled_length inside
        omega
    obtain ⟨draft, found⟩ := Option.isSome_iff_exists.mp drafted
    refine ⟨some (draft.fill passage.sort (Text.trim passage.text)), [], ?_,
      fun _ => ⟨drafted, by omega⟩⟩
    rw [leave_text taken unlabelled (by rw [depth, level, three]) (by omega), opened]
    simp [Gathering.endPassage, taken, found]

theorem placed_close (placed : Placed stack g) : Placed stack.tail g.leave := by
  cases stack with
  | nil =>
    have nothing : g.opened = [] := placed.opened
    have untaken : g.passage = none := by
      rw [Option.eq_none_iff_forall_ne_some]
      intro passage taken
      have deep := labelled_length (placed.taken passage taken).2.2
      simp at deep
    have same : g.leave = g := by
      rw [leave_outside_text untaken]
      cases g
      cases nothing
      rfl
    rw [same]
    exact placed
  | cons closing outer =>
    have seen := placed.rootSeen (List.cons_ne_nil _ _)
    have shallower (drafted : g.draft.isSome) (more : outer.length ≠ 2) :
        ∃ inner root, outer.map (·.tag.localName) = inner ++ ["member", "members", root] := by
      obtain ⟨inner, root, place⟩ := placed.drafted drafted
      rw [placed.opened, List.map_cons] at place
      cases inner with
      | nil =>
        have three := congrArg List.length place
        simp only [List.length_cons, List.length_map, List.nil_append, List.length_nil] at three
        omega
      | cons name inner => exact ⟨inner, root, (List.cons.inj place).2⟩
    have outside_or_inside : (g.passage = none ∨ outer.length = 3) ∨
        ∃ passage, g.passage = some passage ∧ 4 ≤ outer.length := by
      cases taken : g.passage with
      | none => exact .inl (.inl rfl)
      | some passage =>
        have deep := labelled_length (placed.taken passage taken).2.2
        rw [List.length_cons] at deep
        by_cases three : outer.length = 3
        · exact .inl (.inr three)
        · exact .inr ⟨passage, rfl, by omega⟩
    rcases outside_or_inside with outside | ⟨passage, taken, inside⟩
    · obtain ⟨draft, more, left, drafted⟩ := leave_outside placed outside
      rw [left]
      exact ⟨rfl, fun _ => seen, fun held => shallower (drafted held).1 (drafted held).2, by simp⟩
    · obtain ⟨since, labels, _, within, left⟩ := leave_inside placed taken inside
      obtain ⟨drafted, depth, _⟩ := placed.taken passage taken
      rw [left]
      refine ⟨rfl, fun _ => seen, fun held => shallower held (by omega), ?_⟩
      rintro _ ⟨⟩
      exact ⟨drafted, depth, labelled_grown within ⟨_, rfl⟩⟩

theorem placed_step (placed : Placed stack g) (event : Event) :
    Placed (openBehind g stack event) (g.step event) := by
  cases event with
  | start tag => exact placed_start placed tag
  | empty tag => exact placed_empty placed tag
  | close name => exact placed_close placed
  | text content => exact placed_push placed _
  | cdata content => exact placed_push placed _
  | reference name =>
    simp only [Gathering.step]
    cases referent? name.toList with
    | none => exact placed
    | some value => exact placed_push placed _
  | aside => exact placed

/-! ## Runs -/

theorem gathered_concat (events : List Event) (event : Event) :
    gathered (events ++ [event]) = (gathered events).step event := by
  simp [gathered]

theorem trace_gathered (events : List Event) : (trace events).1 = gathered events := by
  induction events using List.reverseRecOn with
  | nil => rfl
  | append_singleton events event ih => simp [trace, gathered_concat, ← ih]

theorem openings_concat (events : List Event) (event : Event) :
    openings (events ++ [event]) = openBehind (gathered events) (openings events) event := by
  rw [← trace_gathered]
  simp [openings, trace]

theorem placed_run (events : List Event) : Placed (openings events) (gathered events) := by
  induction events using List.reverseRecOn with
  | nil => exact ⟨rfl, by simp [openings, trace], by simp [gathered], by simp [gathered]⟩
  | append_singleton events event ih =>
    rw [openings_concat, gathered_concat]
    exact placed_step ih event

theorem nests_append {before later : List Event} {names : List String}
    (nests : (before ++ later).foldlM nest [] = .ok names) :
    ∃ opened, before.foldlM nest [] = .ok opened ∧ later.foldlM nest opened = .ok names := by
  rw [List.foldlM_append] at nests
  cases front : before.foldlM nest [] with
  | error fault =>
    rw [front] at nests
    cases nests
  | ok opened =>
    rw [front] at nests
    exact ⟨opened, rfl, nests⟩

/-- What is open is what a reader holds the closing tags against. -/
theorem names_of_openings (names : List String) (nests : events.foldlM nest [] = .ok names) :
    (openings events).map (·.tag.name) = names := by
  induction events using List.reverseRecOn generalizing names with
  | nil =>
    cases nests
    rfl
  | append_singleton events event ih =>
    obtain ⟨outer, before, nests⟩ := nests_append nests
    have same := ih outer before
    simp only [List.foldlM_cons, List.foldlM_nil, bind_pure] at nests
    rw [openings_concat]
    cases event with
    | start tag =>
      cases nests
      simp [openBehind, same]
    | close name =>
      cases outer with
      | nil => cases nests
      | cons innermost rest =>
        by_cases fits : innermost = name
        · simp only [nest, fits, if_true, Except.ok.injEq] at nests
          simp [openBehind, same, nests]
        · simp [nest, fits] at nests
    | empty _ | text _ | cdata _ | reference _ | aside =>
      cases nests
      exact same

end DocPages.OpenElements
